import Msp430.Cpu.Services
import Msp430.Timer.Dispatch
import Msp430.Uptime.Conversion
import Msp430.Uptime.Duration

/-!
The uptime clock: a timer that counts from the start of the program, and a delay alarm on one of its
channels that takes part in interrupt dispatch only while the delay is wanted and the timer runs.
-/
namespace Msp430

variable {σ H : Type}

/-- What an uptime clock works with. The timer's handler `onAlarm` raises `fired` when the delay
alarm comes due. -/
structure UptimeParts (σ H : Type) where
  timer : Timer σ H
  cpu : Cpu σ
  onAlarm : H
  fired : Cell σ Bool

/-- What the timer does to handle `onAlarm`: the sleeper wakes up, with interrupts still disabled. -/
def raiseFired (fired : Cell σ Bool) : Run σ IsrResult := do
  fired.write true
  return { wake := true, maskInterrupts := true }

def UptimeParts.now (parts : UptimeParts σ H) : Run σ UInt32 := parts.timer.counter

structure UptimePlan where
  source : TimerSource
  divider : TimerDivider := .by1
  delayChannel : Option Nat := none
  deriving DecidableEq, Repr

/-- The state of the delay alarm; without one every flag is down. -/
structure DelayFlags where
  valid : Bool := false
  enabled : Bool := false
  /-- The alarm takes part in dispatch. -/
  registered : Bool := false
  timerActive : Bool := false
  deriving DecidableEq, Repr

def DelayFlags.wanted (f : DelayFlags) : Bool := f.valid && f.enabled && f.timerActive

inductive DelayError where
  | unavailable
  deriving DecidableEq, Repr

structure DelayAlarm where
  alarm : Alarm
  flags : DelayFlags
  deriving DecidableEq, Repr

inductive UptimeState where
  | running
  | suspended
  deriving DecidableEq, Repr

structure Uptime where
  delay : Option DelayAlarm
  ticksPerSecond : UInt32
  /-- MCLK at the last resume, for delays while the timer is stopped. -/
  mclkHz : UInt32
  state : UptimeState
  deriving DecidableEq, Repr

namespace DelayAlarm

/-- Claims the channel. The alarm starts out enabled, on a running timer. -/
def claim (parts : UptimeParts σ H) (channel : Nat) : Run σ (Option DelayAlarm) := do
  match ← (Alarm.claim parts.timer channel parts.onAlarm).run with
  | .error _ => return none
  | .ok alarm => return some ⟨alarm, ⟨true, true, false, true⟩⟩

/-- Brings the registration in line with the other flags. Nothing else changes it. -/
def reconcile (d : DelayAlarm) (parts : UptimeParts σ H) : Run σ DelayAlarm := do
  if d.flags.wanted = d.flags.registered then
    return d
  d.alarm.setEnabled parts.timer d.flags.wanted
  return { d with flags.registered := d.flags.wanted }

def setEnabled (d : DelayAlarm) (parts : UptimeParts σ H) (on : Bool) : Run σ DelayAlarm :=
  { d with flags.enabled := on }.reconcile parts

def setTimerActive (d : DelayAlarm) (parts : UptimeParts σ H) (active : Bool) :
    Run σ DelayAlarm :=
  { d with flags.timerActive := active }.reconcile parts

end DelayAlarm

namespace Uptime

variable (u : Uptime) (parts : UptimeParts σ H)

def flags : DelayFlags := u.delay.elim {} DelayAlarm.flags

/-- Counts on and takes the rates anew, since the clocks may have changed in between. -/
def resume (rates : Rates σ) : Run σ Uptime := do
  let ticksPerSecond ← parts.timer.frequency rates
  let mclkHz ← rates.mclk
  let delay ← u.delay.mapM fun d => d.setTimerActive parts true
  parts.timer.port.runContinuously
  return ⟨delay, ticksPerSecond, mclkHz, .running⟩

/-- Stops the count, which is kept. -/
def suspend : Run σ Uptime := do
  parts.timer.port.stop
  let delay ← u.delay.mapM fun d => d.setTimerActive parts false
  return { u with delay, state := .suspended }

/-- Starts the count from zero. Without its channel the clock runs, but there is no sleeping. -/
def start (plan : UptimePlan) (rates : Rates σ) : Run σ Uptime := do
  let port := parts.timer.port
  port.writeControl 0
  parts.timer.resetCounter
  port.selectClock plan.source plan.divider
  port.enableOverflow
  let delay ← match plan.delayChannel with
    | some channel => DelayAlarm.claim parts channel
    | none => pure none
  resume ⟨delay, 0, 0, .suspended⟩ parts rates

def free : Run σ Unit := do
  let u ← u.suspend parts
  if let some d := u.delay then
    d.alarm.release parts.timer

def setDelayEnabled (on : Bool) : ExceptT DelayError (Run σ) Uptime := do
  match u.delay with
  | none => throw .unavailable
  | some d => return { u with delay := some (← d.setEnabled parts on) }

/-- Holds until the next resume. -/
def withTicksPerSecond (hz : UInt32) : Uptime := { u with ticksPerSecond := hz }

def textNow : Run σ (Option String) :=
  return durationText (← parts.now) u.ticksPerSecond

end Uptime

end Msp430
