import Msp430.Sim.Interpreter

/-!
Sessions: commands carried out one after another, each with a trace and an allowance of processor
calls of its own.
-/
namespace Msp430

structure ClockSurvey where
  aclkHz : UInt32
  smclkHz : UInt32
  mclkHz : UInt32
  configuredHz : UInt32
  aclkSource : ClockSource
  smclkSource : ClockSource
  mclkSource : ClockSource
  deriving DecidableEq, Repr

def ClockSystem.survey {σ : Type} (c : ClockSystem σ) : Run σ ClockSurvey :=
  return ⟨← c.aclkHz, ← c.smclkHz, ← c.mclkHz, ← c.configuredHz.read, ← c.aclkSource,
    ← c.smclkSource, ← c.mclkSource⟩

structure TimerSurvey where
  control : UInt16
  count : UInt16
  channels : List UInt16
  compares : List UInt16
  deriving DecidableEq, Repr

def TimerPort.survey {σ : Type} (p : TimerPort σ) : Run σ TimerSurvey :=
  return ⟨← p.readControl, ← p.readCount, ← (List.range p.channels).mapM p.readChannel,
    ← (List.range p.channels).mapM p.readCompare⟩

namespace World

variable {n c : Nat}

structure StepReport (n c : Nat) where
  reply : Except Halt Reply
  trace : List TraceEntry
  after : World n c

def step (allowance : Option Nat) (w : World n c) (command : Command n c) : StepReport n c :=
  match (perform command).start Run.ample { w with callsLeft := allowance, trace := [] } with
  | .ok reply w => ⟨.ok reply, w.trace.reverse, w⟩
  | .error halt w => ⟨.error halt, w.trace.reverse, w⟩

/-- A halted step is the last one. -/
def session (allowance : Option Nat) (w : World n c) : List (Command n c) → List (StepReport n c)
  | [] => []
  | command :: rest =>
    let report := w.step allowance command
    match report.reply with
    | .ok _ => report :: session allowance report.after rest
    | .error _ => [report]

/-- Nothing is changed by a survey of the clocks. -/
def clockSurvey (w : World n c) : Option ClockSurvey :=
  match (clockSystem w.caps).survey.start Run.ample w with
  | .ok survey _ => some survey
  | .error _ _ => none

/-- Reading moves the count and lets channels in capture mode capture. -/
def timerSurvey (w : World n c) (t : Fin n) : Option (TimerSurvey × World n c) :=
  match (timerPort t).survey.start Run.ample w with
  | .ok survey w => some (survey, w)
  | .error _ _ => none

end World

end Msp430
