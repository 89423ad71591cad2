import Msp430.Clock.Boot
import Msp430.Clock.Tuning
import Msp430.Cpu.Watchdog
import Msp430.Sim.Timer
import Msp430.Uptime.Delay

/-!
What a command to a simulated machine answers.
-/
namespace Msp430

inductive Refusal where
  | alarm (error : AlarmError)
  | chain (error : ChainError)
  | clock (error : ClockError)
  | tune (error : TuneError)
  | pins (error : PinError)
  | delay (error : DelayError)
  | sleep (error : SleepError)
  | noAlarm
  | noUptime
  deriving DecidableEq, Repr

inductive Reply where
  | done
  | flag (on : Bool)
  | number (n : Nat)
  | numbers (ns : List Nat)
  | optional (n : Option Nat)
  | text (t : Option String)
  | timerSource (s : TimerSource)
  | request (r : InterruptRequest)
  | alarm (channel : Nat) (enabled armed : Bool)
  | faults (oscillator lfxt1 : Bool)
  | watchdog (held intervalMode : Bool) (interval : WatchdogInterval)
  | booted (report : BootReport)
  | left (ticks : Int)
  | accepted (r : Reply)
  | refused (why : Refusal)
  | delayed (result : Reply) (checks : Nat)
  /-- The count and rate of an uptime clock after a sleep, and what the sleep answered. -/
  | slept (now ticksPerSecond : Nat) (result : Reply)
  deriving DecidableEq, Repr

namespace Reply

def bits (b : UInt16) : Reply := .number b.toNat

def ofExcept {ε α : Type} (refuse : ε → Refusal) (accept : α → Reply) : Except ε α → Reply
  | .ok a => .accepted (accept a)
  | .error e => .refused (refuse e)

end Reply

def answer {σ ε α : Type} (refuse : ε → Refusal) (accept : α → Reply)
    (operation : ExceptT ε (Run σ) α) : Run σ Reply :=
  return .ofExcept refuse accept (← operation.run)

end Msp430
