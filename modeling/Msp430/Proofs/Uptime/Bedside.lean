import Msp430.Proofs.Timer.Operations
import Msp430.Proofs.Timer.Service
import Msp430.Proofs.Uptime.Elapsed
import Msp430.Uptime.Delay

/-!
An uptime clock whose delay alarm is in use. The memory holds the clock, the flag that the alarm
raises, a record of the events that a wait is made of, and whatever else the program keeps. Beside
the sleeper others are active: they let time pass, dispatch interrupts and use alarms of their own.
-/
namespace Msp430

/-- What happens in the course of a wait. -/
inductive SleepEvent where
  /-- The exit condition was evaluated. -/
  | asked (answer : Bool)
  | slept (mode : LowPowerMode)
  | woke
  | sawCount (count : UInt16)
  | sawControl (bits : UInt16)
  /-- The count moved on from where it was, without losing a wrap or not. -/
  | moved (count : UInt32) (ticks : Nat) (sound : Bool)
  deriving DecidableEq, Repr

namespace SleepEvent

/-- The events that the sleeper takes part in. -/
def ofSleeper : SleepEvent → Bool
  | asked _ | slept _ | woke => true
  | _ => false

end SleepEvent

/-- What `n` rounds of a delay look like: the exit condition does not hold, and a sleep follows. -/
def rounds (mode : LowPowerMode) : Nat → List SleepEvent
  | 0 => []
  | n + 1 => .woke :: .slept mode :: .asked false :: rounds mode n

/-- How a delay can go, from the events before it to those after it: with the exit condition asked
once before every sleep and no sleep once it held. `reached` is what is known if it did not hold. -/
inductive DelayEnds (mode : LowPowerMode) (reached : Prop) (before : List SleepEvent) :
    Except SleepError Unit → List SleepEvent → Prop
  | exited (n : Nat) :
      DelayEnds mode reached before (.ok ()) (.asked true :: (rounds mode n ++ before))
  | awake (n : Nat) : reached →
      DelayEnds mode reached before (.ok ()) (rounds mode (n + 1) ++ before)
  /-- The target was in the past when the alarm was to be set. -/
  | past (n : Nat) : reached →
      DelayEnds mode reached before (.ok ()) (.asked false :: (rounds mode n ++ before))
  | notRegistered : DelayEnds mode reached before (.error .notRegistered) (.asked false :: before)

structure Bedside (M : Type) where
  fired : Bool := false
  /-- The latest comes first. -/
  events : List SleepEvent := []
  rest : M

/-- The channel of the delay alarm. -/
def Uptime.channel (u : Uptime) : Option (Fin maxChannels) := u.delay.map (·.alarm.channel)

abbrev Bedroom (R H M : Type) := Scene R H (Uptime × Bedside M)

namespace Scene

open Run

variable {R H M : Type}

def firedCell : Cell (Bedroom R H M) Bool where
  get s := s.memory.2.fired
  set fired s := { s with memory := (s.memory.1, { s.memory.2 with fired }) }

def eventsCell : Cell (Bedroom R H M) (List SleepEvent) where
  get s := s.memory.2.events
  set events s := { s with memory := (s.memory.1, { s.memory.2 with events }) }

def record (event : SleepEvent) : Run (Bedroom R H M) Unit := eventsCell.update (event :: ·)

/-! ## The sleeper -/

def sleeperEvents (s : Bedroom R H M) : List SleepEvent :=
  s.memory.2.events.filter SleepEvent.ofSleeper

/-- Sleep is recorded, and others are active in the meantime. -/
def bedsideCpu (cpu : Cpu (Bedroom R H M)) (activity : LowPowerMode → Run (Bedroom R H M) Unit) :
    Cpu (Bedroom R H M) where
  feedWatchdog := cpu.feedWatchdog
  delayCycles := cpu.delayCycles
  sleep mode := do
    record (.slept mode)
    activity mode
    record .woke

def asking (exit : Run (Bedroom R H M) Bool) : Run (Bedroom R H M) Bool := do
  let answer ← exit
  record (.asked answer)
  return answer

/-- Nobody has the handler, neither for an alarm nor for overflows. -/
structure Spare (onAlarm : H) (s : Bedroom R H M) : Prop where
  slots : ∀ i, (s.shared.slot i).handler ≠ some onAlarm
  chain : some onAlarm ∉ s.shared.chain

variable [DecidableEq H]

/-- The delay's handler beside others. -/
def withDelay (onAlarm : H) (code : Notify (Bedroom R H M) H → Notify (Bedroom R H M) H)
    (notify : Notify (Bedroom R H M) H) : Notify (Bedroom R H M) H := fun h event =>
  if h = onAlarm then raiseFired firedCell else code notify h event

def bedsideParts (port : TimerPort (Bedroom R H M)) (cpu : Cpu (Bedroom R H M)) (onAlarm : H)
    (code : Notify (Bedroom R H M) H → Notify (Bedroom R H M) H)
    (activity : LowPowerMode → Run (Bedroom R H M) Unit) : UptimeParts (Bedroom R H M) H where
  timer := onPort port (.ofCode (withDelay onAlarm code))
  cpu := bedsideCpu cpu activity
  onAlarm := onAlarm
  fired := firedCell

/-! ## The others -/

/-- An operation on an alarm that is not the delay's. -/
def onOther {α : Type} (a : Alarm) (run : Run (Bedroom R H M) α) : Run (Bedroom R H M) α := do
  assume fun s => decide (s.memory.1.channel ≠ some a.channel)
  run

/-- What others do: nobody but the clock uses the delay's handler or its channel. -/
inductive Activity (t : Timer (Bedroom R H M) H) (onAlarm : H)
    (other : ∀ α : Type, Run (Bedroom R H M) α → Prop) :
    ∀ α : Type, Run (Bedroom R H M) α → Prop
  | dispatchFirst : Activity t onAlarm other _ t.dispatchFirst
  | dispatchShared : Activity t onAlarm other _ t.dispatchShared
  | claim (channel : Nat) (h : H) : h ≠ onAlarm →
      Activity t onAlarm other _ (Alarm.claim t channel h).run
  | setEnabled (a : Alarm) (on : Bool) : Activity t onAlarm other _ (onOther a (a.setEnabled t on))
  | set (a : Alarm) (setting : UInt32) :
      Activity t onAlarm other _ (onOther a (a.set t setting).run)
  | cancel (a : Alarm) : Activity t onAlarm other _ (onOther a (a.cancel t))
  | release (a : Alarm) : Activity t onAlarm other _ (onOther a (a.release t))
  | addOverflowHandler (h : H) : h ≠ onAlarm →
      Activity t onAlarm other _ (t.addOverflowHandler h).run
  | removeOverflowHandler (h : H) : Activity t onAlarm other _ (t.removeOverflowHandler h)
  | other {α : Type} (run : Run (Bedroom R H M) α) : other α run → Activity t onAlarm other α run

/-- Handlers and what goes on during a sleep are made of what others do. -/
structure Surroundings (port : TimerPort (Bedroom R H M)) (onAlarm : H)
    (other : ∀ α : Type, Run (Bedroom R H M) α → Prop)
    (code : Notify (Bedroom R H M) H → Notify (Bedroom R H M) H)
    (activity : LowPowerMode → Run (Bedroom R H M) Unit) : Prop where
  handlers : ∀ notify h event,
    Built (Activity (onPort port notify) onAlarm other) (code notify h event)
  sleeping : ∀ mode, Built (Activity (onPort port (.ofCode (withDelay onAlarm code))) onAlarm other)
    (activity mode)

/-! ## The sleeper's program -/

variable (parts : UptimeParts (Bedroom R H M) H)

def switchDelay (on : Bool) : Run (Bedroom R H M) (Except DelayError Unit) := do
  match ← ((← uptimeCell.read).setDelayEnabled parts on).run with
  | .error why => return .error why
  | .ok u =>
    uptimeCell.write u
    return .ok ()

def sleepOnce (target : UInt32) (mode : LowPowerMode) :
    Run (Bedroom R H M) (Except SleepError Int32) := do
  ((← uptimeCell.read).sleepUntil parts target mode).run

def delayAsking (target : UInt32) (mode : LowPowerMode) (exit : Run (Bedroom R H M) Bool) :
    Run (Bedroom R H M) (Except SleepError Unit) := do
  (← uptimeCell.read).delayUntil parts target mode (asking exit)

/-- Asking for the rates is something that others do. -/
structure RatesAmong (other : ∀ α : Type, Run (Bedroom R H M) α → Prop)
    (rates : Rates (Bedroom R H M)) : Prop where
  aclk : other _ rates.aclk
  smclk : other _ rates.smclk
  mclk : other _ rates.mclk

/-- The program that uses the clock. It may do what others do, too. -/
inductive ClockUse (other : ∀ α : Type, Run (Bedroom R H M) α → Prop) :
    ∀ α : Type, Run (Bedroom R H M) α → Prop
  | suspend : ClockUse other _ (suspendClock parts)
  | resume (rates : Rates (Bedroom R H M)) :
      RatesAmong other rates → ClockUse other _ (resumeClock parts rates)
  | switchDelay (on : Bool) : ClockUse other _ (switchDelay parts on)
  | sleep (target : UInt32) (mode : LowPowerMode) : ClockUse other _ (sleepOnce parts target mode)
  | delay (target : UInt32) (mode : LowPowerMode) (exit : Run (Bedroom R H M) Bool) :
      Built (Activity parts.timer parts.onAlarm other) exit →
      ClockUse other _ (delayAsking parts target mode exit)
  | beside {α : Type} (run : Run (Bedroom R H M) α) :
      Activity parts.timer parts.onAlarm other α run → ClockUse other α run

end Scene

end Msp430
