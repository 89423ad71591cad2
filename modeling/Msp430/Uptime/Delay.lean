import Msp430.Uptime.Clock

/-!
Sleeping until a time. Any interrupt can end a sleep, so a sleep reports how much of the wait is
left; a delay goes back to sleep until nothing is left.
-/
namespace Msp430

variable {σ H : Type}

inductive SleepError where
  /-- The delay is disabled, the clock is suspended or there is no alarm. -/
  | notRegistered
  | arm (error : AlarmError)
  deriving DecidableEq, Repr

def UptimeParts.watchUntil (parts : UptimeParts σ H) (target : UInt32) : Run σ Unit :=
  Run.poll do
    if ticksUntil target (← parts.now) > 0 then
      parts.cpu.feedWatchdog
      return false
    return true

namespace Uptime

variable (u : Uptime) (parts : UptimeParts σ H)

/-- Sleeps once. The answer is the ticks left until the target: none when the alarm fired, some
after an early wake, which also withdraws the alarm. -/
def sleepUntil (target : UInt32) (mode : LowPowerMode) : ExceptT SleepError (Run σ) Int32 := do
  match u.delay.filter (·.flags.registered) with
  | none => throw .notRegistered
  | some d =>
    parts.fired.write false
    ExceptT.adapt .arm (d.alarm.set parts.timer target)
    parts.cpu.sleep mode
    unless ← parts.fired.read do
      discard (d.alarm.cancel parts.timer)
    return ticksUntil target (← parts.now)

/-- Sleeps until the target is reached. The exit condition is asked before every sleep and ends the
delay. A target in the past ends it at once. -/
def delayUntil (target : UInt32) (mode : LowPowerMode) (exit : Run σ Bool) :
    Run σ (Except SleepError Unit) :=
  Run.loop (fun _ => do
    if ← exit then
      return .finished (.ok ())
    match ← (u.sleepUntil parts target mode).run with
    | .ok left => return if left > 0 then .again () else .finished (.ok ())
    | .error (.arm .past) => return .finished (.ok ())
    | .error e => return .finished (.error e)) ()

/-- Waits for at least the given time, by sleeping where there is an alarm and by watching the count
where there is none. A suspended clock does not move, so cycles of MCLK are counted instead. -/
def delayNanos (ns : UInt32) : Run σ Unit := do
  if u.state ≠ .running then
    parts.cpu.delayCycles (ticksOfNanos u.mclkHz ns)
  else
    let target := (← parts.now) + ticksOfNanos u.ticksPerSecond ns
    if (← u.delayUntil parts target .lpm0 (return false)) matches .error _ then
      parts.watchUntil target

end Uptime

end Msp430
