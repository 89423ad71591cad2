import Msp430.Sim.Chip
import Msp430.Sim.Request
import Msp430.Sim.Session

/-!
Sessions on a device whose registers are plain memory.
-/
namespace Msp430

inductive WatchdogCommand where
  | constrain
  | release
  | start (clock : WatchdogClock) (interval : WatchdogInterval)
  | stop
  | feed
  | inspect
  deriving DecidableEq, Repr

inductive ChipCommand where
  /-- Changes cells and stuck bits behind the program's back. -/
  | poke (cells stuck : Memory → Memory)
  | watchdog (command : WatchdogCommand)
  | pins (request : PinRequest)
  | pinHelp (peripheral : Peripheral) (function : PinFunction)
  | register (unit : TimerUnit) (request : TimerRequest)
  | faultFlags
  | boot (plan : BootPlan)
  | mclkTuned (hz : UInt32) (channel : Nat) (input : CaptureInput)
  | sleepOnce (mode : LowPowerMode) (cycles : UInt32)
  /-- Starts an uptime clock, sleeps once and stops the clock. -/
  | uptime (plan : UptimePlan) (target : UInt32) (mode : LowPowerMode)
  | interrupts
  | rates

namespace Chip

def uptimeParts : UptimeParts Chip Unit := ⟨timer .ta0, cpu, (), firedCell⟩

def watchdogCommand : WatchdogCommand → Run Chip Reply
  | .constrain => watchdog.constrain *> pure .done
  | .release => return .done
  | .start clock interval => watchdog.start clock interval *> pure .done
  | .stop => watchdog.stop *> pure .done
  | .feed => watchdog.feed *> pure .done
  | .inspect =>
    return .watchdog (← watchdog.isHeld) (← watchdog.isIntervalMode) (← watchdog.interval)

def perform (command : ChipCommand) : Run Chip Reply := do
  let clock := clockSystem (← get).caps
  match command with
  | .poke cells stuck =>
    modify fun c => { c with cells := cells c.cells, stuck := stuck c.stuck }
    return .done
  | .watchdog command => watchdogCommand command
  | .pins request => return .ofExcept .pins (fun _ => .done) (← ports.route request)
  | .pinHelp peripheral function => return .text (ports.launchPad.help peripheral function)
  | .register unit request => (timerPort unit).serve request
  | .faultFlags =>
    clock.port.clearFault
    return .faults (← clock.port.faultFlag) (← clock.port.lfxt1Faulted)
  | .boot plan => answer .clock .booted (clock.boot cpu ports.launchPad plan)
  | .mclkTuned hz channel input =>
    return .number (← clock.configureMclkTuned cpu ⟨timerPort .ta0, channel, input⟩ hz).toNat
  | .sleepOnce mode cycles =>
    cpu.sleep mode
    cpu.delayCycles cycles
    cpu.feedWatchdog
    return .done
  | .uptime plan target mode =>
    let u ← Uptime.start uptimeParts plan clock.rates
    let slept ← answer .sleep (fun left => .left left.toInt) (u.sleepUntil uptimeParts target mode)
    let now ← uptimeParts.now
    u.free uptimeParts
    return .slept now.toNat u.ticksPerSecond.toNat slept
  | .interrupts =>
    let second := timer .ta1
    return .numbers [(← second.dispatchFirst).toBits.toNat, (← second.dispatchShared).toBits.toNat,
      (← second.counter).toNat, (← second.frequency clock.rates).toNat]
  | .rates =>
    return .numbers [(← clock.aclkHz).toNat, (← clock.smclkHz).toNat, (← clock.mclkHz).toNat]

structure StepReport where
  reply : Except Halt Reply
  trace : List MemoryWrite
  after : Chip

def step (allowance : Nat) (c : Chip) (command : ChipCommand) : StepReport :=
  match (perform command).start Run.ample { c with writesLeft := allowance, trace := [] } with
  | .ok reply c => ⟨.ok reply, c.trace.reverse, c⟩
  | .error halt c => ⟨.error halt, c.trace.reverse, c⟩

/-- A halted step is the last one. -/
def session (allowance : Nat) (c : Chip) : List ChipCommand → List StepReport
  | [] => []
  | command :: rest =>
    let report := c.step allowance command
    match report.reply with
    | .ok _ => report :: session allowance report.after rest
    | .error _ => [report]

end Chip

end Msp430
