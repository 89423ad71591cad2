import Msp430.Sim.Command
import Msp430.Sim.Ports
import Msp430.Sim.Service

/-!
A simulated machine: a clock module, timers with the state that drivers share on them, a processor
whose calls set off actions, handlers that take actions, and a trace of all that could be seen from
outside.
-/
namespace Msp430

inductive TraceEntry where
  | clock (access : ClockAccess)
  | cpu (call : CpuCall)
  | pins (request : PinRequest)
  | timer (timer : Nat) (access : TimerAccess)
  | handled (handler : Nat) (event : TimerEvent)
  | replied (reply : Reply)
  | served (result : IsrResult)
  deriving DecidableEq, Repr

/-- Handlers that take actions, and those that raise the flag of a delay alarm. -/
inductive Handler where
  | script (i : Nat)
  | wake (flag : Fin 2)
  deriving DecidableEq, Repr

structure SimBench (c : Nat) where
  hardware : SimTimer c := {}
  shared : TimerShared Handler := {}

/-- The `n`-th element; the last one stands for all that would follow. -/
def lastRepeats? {α : Type} (xs : List α) (n : Nat) : Option α := xs[min n (xs.length - 1)]?

structure Script (n c : Nat) where
  results : List IsrResult
  actions : List (List (Action n c))
  calls : Nat := 0

/-- What happens during the processor's calls, given how many of the kind there were before. -/
structure Surroundings (n c : Nat) where
  onFeed : Nat → List (Action n c) := fun _ => []
  onDelay : Nat → List (Action n c) := fun _ => []
  onSleep : Nat → List (Action n c) := fun _ => []

structure CpuRecord where
  feeds : Nat := 0
  delays : Nat := 0
  cycles : Nat := 0
  sleeps : Nat := 0
  lastMode : Option LowPowerMode := none
  deriving DecidableEq, Repr

structure OwnedAlarm (n : Nat) where
  timer : Fin n
  alarm : Alarm
  deriving DecidableEq, Repr

/-- The uptime clock, with its timer and the flag of its delay alarm. -/
structure UptimeSlot (n : Nat) where
  clock : Uptime
  timer : Fin n
  flag : Fin 2
  deriving DecidableEq, Repr

structure World (n c : Nat) where
  clock : ClockModule := {}
  caps : ClockCapabilities := {}
  configuredHz : UInt32 := 0
  timers : Vector (SimBench c) n := .replicate _ {}
  processor : CpuRecord := {}
  surroundings : Surroundings n c := {}
  /-- Calls that the processor still answers; without a number it answers all. -/
  callsLeft : Option Nat := none
  pins : PinBehaviour := .accept
  scripts : List (Script n c) := []
  alarms : List (Option (OwnedAlarm n)) := []
  uptime : Option (UptimeSlot n) := none
  /-- The flag that the last uptime clock with a delay alarm was to use. -/
  lastFlag : Fin 2 := 0
  fired : Vector Bool 2 := .replicate _ false
  checks : Nat := 0
  trace : List TraceEntry := []

namespace World

variable {n c : Nat}

def record (entry : TraceEntry) : Run (World n c) Unit :=
  modify fun w => { w with trace := entry :: w.trace }

@[simp] theorem start_record (entry : TraceEntry) (patience : Nat) (w : World n c) :
    (record entry).start patience w = .ok () { w with trace := entry :: w.trace } := rfl

/-! ## Parts of the state -/

def clockCell : Cell (World n c) ClockModule where
  get w := w.clock
  set clock w := { w with clock }

def configuredCell : Cell (World n c) UInt32 where
  get w := w.configuredHz
  set configuredHz w := { w with configuredHz }

def benchCell (t : Fin n) : Cell (World n c) (SimBench c) where
  get w := w.timers[t]
  set bench w := { w with timers := w.timers.set t bench }

def hardwareCell (t : Fin n) : Cell (World n c) (SimTimer c) :=
  (benchCell t).within ⟨SimBench.hardware, fun hardware b => { b with hardware }⟩

def sharedCell (t : Fin n) : Cell (World n c) (TimerShared Handler) :=
  (benchCell t).within ⟨SimBench.shared, fun shared b => { b with shared }⟩

def firedCell (flag : Fin 2) : Cell (World n c) Bool where
  get w := w.fired[flag]
  set on w := { w with fired := w.fired.set flag on }

theorem lawful_clockCell : (clockCell : Cell (World n c) _).Lawful :=
  ⟨fun _ _ => rfl, fun _ _ _ => rfl, fun _ => rfl⟩

theorem lawful_configuredCell : (configuredCell : Cell (World n c) _).Lawful :=
  ⟨fun _ _ => rfl, fun _ _ _ => rfl, fun _ => rfl⟩

theorem lawful_benchCell (t : Fin n) : (benchCell t : Cell (World n c) _).Lawful where
  get_set _ _ := by simp [benchCell]
  set_set _ _ _ := by simp [benchCell]
  set_get _ := by simp [benchCell]

theorem lawful_hardwareCell (t : Fin n) : (hardwareCell t : Cell (World n c) _).Lawful :=
  (lawful_benchCell t).within ⟨fun _ _ => rfl, fun _ _ _ => rfl, fun _ => rfl⟩

theorem lawful_sharedCell (t : Fin n) : (sharedCell t : Cell (World n c) _).Lawful :=
  (lawful_benchCell t).within ⟨fun _ _ => rfl, fun _ _ _ => rfl, fun _ => rfl⟩

theorem lawful_firedCell (flag : Fin 2) : (firedCell flag : Cell (World n c) _).Lawful where
  get_set _ _ := by simp [firedCell]
  set_set _ _ _ := by simp [firedCell]
  set_get _ := by simp [firedCell]

/-! ## Hardware -/

def clockPort : ClockPort (World n c) := ClockModule.port clockCell fun a => record (.clock a)

def clockSystem (caps : ClockCapabilities) : ClockSystem (World n c) :=
  ⟨clockPort, caps, configuredCell⟩

def timerPort (t : Fin n) : TimerPort (World n c) :=
  SimTimer.port (hardwareCell t) clockCell.read fun a => record (.timer t a)

def router : PinRouter (World n c) where
  route r := do
    record (.pins r)
    return (← get).pins.answer r

/-- A call that the processor no longer answers ends the run. -/
def spendCall : Run (World n c) Unit := do
  match (← get).callsLeft with
  | none => return ()
  | some 0 => throw .limit
  | some (n + 1) => modify fun w => { w with callsLeft := some n }

end World

end Msp430
