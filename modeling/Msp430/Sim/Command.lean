import Msp430.Pins.LaunchPad
import Msp430.Sim.Request

/-!
Commands to a simulated machine. Actions are those that interrupt handlers and the surroundings of the
processor may take too; they concern the hardware, its timers and their alarms.
-/
namespace Msp430

inductive PinBehaviour where
  | accept
  | refuse
  | refuseEnable
  | refuseRelease
  | launchPad
  deriving DecidableEq, Repr

namespace PinBehaviour

def answer (b : PinBehaviour) (r : PinRequest) : Except PinError Unit :=
  match b with
  | .accept => .ok ()
  | .refuse => .error .unsupported
  | .refuseEnable => if r.enable then .error .unsupported else .ok ()
  | .refuseRelease => if r.enable then .ok () else .error .unsupported
  | .launchPad => (LaunchPad.mux r.peripheral r.function).map fun _ => ()

end PinBehaviour

inductive RatesChoice where
  | fixed (aclk smclk mclk : UInt32)
  | clockSystem
  deriving DecidableEq, Repr

inductive Deadline where
  | at (time : UInt32)
  | after (ticks : UInt32)
  deriving DecidableEq, Repr

/-- Actions on a machine with `n` timers of `c` channels. A handler is named by its number and an
alarm by its place in the order of creation. -/
inductive Action (n c : Nat) where
  | alterClock (change : ClockModule → ClockModule) (pins : Option PinBehaviour)
  | alterTimer (timer : Fin n) (change : SimTimer c → SimTimer c)
  | pass (timer : Fin n) (ticks : Nat)
  | advance (timer : Fin n) (ticks : Nat)
  | pending (timer : Fin n)
  | advanceToEvent (timer : Fin n)
  | dcoCounts
  /-- Serves pending requests, after letting time pass until there is one. -/
  | runInterrupts (timer : Fin n) (most : Nat)
  | serveInterrupts (timer : Fin n) (most : Nat)
  | counter (timer : Fin n)
  | resetCounter (timer : Fin n)
  | dispatchFirst (timer : Fin n)
  | dispatchShared (timer : Fin n)
  | frequency (timer : Fin n) (rates : RatesChoice)
  | addOverflowHandler (timer : Fin n) (handler : Nat)
  | removeOverflowHandler (timer : Fin n) (handler : Nat)
  | register (timer : Fin n) (request : TimerRequest)
  | claimAlarm (timer : Fin n) (channel handler : Nat)
  | inspectAlarm (alarm : Nat) (timer : Option (Fin n))
  | enableAlarm (alarm : Nat) (timer : Option (Fin n)) (on : Bool)
  | setAlarm (alarm : Nat) (timer : Option (Fin n)) (deadline : Deadline)
  | cancelAlarm (alarm : Nat) (timer : Option (Fin n))
  | releaseAlarm (alarm : Nat) (timer : Option (Fin n))

inductive ConversionUnit where
  | ticksOfMillis
  | ticksOfMicros
  | ticksOfNanos
  | millisOfTicks
  | textOfTicks
  deriving DecidableEq, Repr

namespace ConversionUnit

def convert (hz : UInt32) : ConversionUnit → UInt32 → Reply
  | .ticksOfMillis, v => .number (Msp430.ticksOfMillis hz v).toNat
  | .ticksOfMicros, v => .number (Msp430.ticksOfMicros hz v).toNat
  | .ticksOfNanos, v => .number (Msp430.ticksOfNanos hz v).toNat
  | .millisOfTicks, v => .optional ((Msp430.millisOfTicks hz v).map UInt32.toNat)
  | .textOfTicks, v => .text (durationText v hz)

end ConversionUnit

inductive UptimeCommand where
  | resume (rates : RatesChoice)
  | suspend
  | now
  | free
  | setTicksPerSecond (hz : UInt32)
  | convert (unit : ConversionUnit) (value : UInt32)
  | textNow
  | enableDelay (on : Bool)
  | sleepUntil (deadline : Deadline) (mode : LowPowerMode)
  /-- The exit condition answers by how often it has been asked. -/
  | delayUntil (deadline : Deadline) (mode : LowPowerMode) (exit : Nat → Bool)
  | delayNanos (n : UInt32)
  | delayMicros (n : UInt32)
  | delayMillis (n : UInt32)

structure TuningChoice (n : Nat) where
  timer : Fin n
  channel : Nat
  input : CaptureInput
  deriving DecidableEq, Repr

inductive Command (n c : Nat) where
  | act (action : Action n c)
  | crystal (enable : Bool) (budget : RetryBudget)
  | aclk (source : ClockSource) (shift : UInt8)
  | smclk (source : ClockSource) (shift : UInt8)
  | mclk (hz : UInt32)
  | mclkTuned (hz : UInt32) (via : TuningChoice n)
  | tune (hz : UInt32) (via : TuningChoice n)
  | boot (plan : BootPlan)
  | pinHelp (peripheral : Peripheral) (function : PinFunction)
  | renewClock
  /-- Starts an uptime clock in place of an earlier one. The delay alarm reports to one of two
  flags. -/
  | startUptime (timer : Fin n) (plan : UptimePlan) (flag : Fin 2) (rates : RatesChoice)
  | uptime (command : UptimeCommand)

end Msp430
