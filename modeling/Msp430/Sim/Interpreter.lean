import Msp430.Sim.World

/-!
Carrying out commands on a simulated machine.
-/
namespace Msp430.World

variable {n c : Nat}

abbrev Notify (n c : Nat) := Msp430.Notify (World n c) Handler

def ratesOf (choice : RatesChoice) (caps : ClockCapabilities) : Rates (World n c) :=
  match choice with
  | .fixed aclk smclk mclk => .fixed aclk smclk mclk
  | .clockSystem => (clockSystem caps).rates

section Actions

variable (notify : Notify n c)

def timer (t : Fin n) : Timer (World n c) Handler := ⟨timerPort t, sharedCell t, notify⟩

def deadline (t : Timer (World n c) Handler) : Deadline → Run (World n c) UInt32
  | .at time => return time
  | .after ticks => return (← t.counter) + ticks

/-- Runs an operation on a live alarm, with its own timer unless another one is named. -/
def withAlarm (handle : Nat) (other : Option (Fin n))
    (f : Alarm → Timer (World n c) Handler → Run (World n c) Reply) : Run (World n c) Reply := do
  match (← get).alarms[handle]?.join with
  | none => return .refused .noAlarm
  | some owned => f owned.alarm (timer notify (other.getD owned.timer))

/-- Serves interrupts of a timer, each with an entry in the trace. -/
def serveRequests (t : Fin n) (prepare : SimTimer c → SimTimer c) (most : Nat) :
    Run (World n c) Reply :=
  return .number (← (timer notify t).serveRequests ((hardwareCell t).update prepare)
    (return (← (hardwareCell t).read).pending) (fun result => record (.served result)) most 0)

def act (action : Action n c) : Run (World n c) Reply := do
  let w ← get
  let timer := timer notify
  match action with
  | .alterClock change pins =>
    modify fun w => { w with clock := change w.clock, pins := pins.getD w.pins }
    return .done
  | .alterTimer t change => (hardwareCell t).update change; return .done
  | .pass t ticks => (hardwareCell t).update (·.pass ticks); return .done
  | .advance t ticks => (hardwareCell t).update (·.advance ticks); return .done
  | .pending t => return .request (← (hardwareCell t).read).pending
  | .advanceToEvent t =>
    (hardwareCell t).update SimTimer.advanceToEvent
    return .request (← (hardwareCell t).read).pending
  | .dcoCounts => return .numbers [w.clock.dcoCount, w.clock.smclkCount]
  | .runInterrupts t most => serveRequests notify t SimTimer.advanceToEvent most
  | .serveInterrupts t most => serveRequests notify t id most
  | .counter t => return .number (← (timer t).counter).toNat
  | .resetCounter t => (timer t).resetCounter; return .done
  | .dispatchFirst t => return .bits (← (timer t).dispatchFirst).toBits
  | .dispatchShared t => return .bits (← (timer t).dispatchShared).toBits
  | .frequency t rates =>
    return .number (← (timer t).frequency (ratesOf rates w.caps)).toNat
  | .addOverflowHandler t h =>
    answer .chain (fun _ => .done) ((timer t).addOverflowHandler (.script h))
  | .removeOverflowHandler t h => return .flag (← (timer t).removeOverflowHandler (.script h))
  | .register t request => (timer t).port.serve request
  | .claimAlarm t channel h =>
    match ← (Alarm.claim (timer t) channel (.script h)).run with
    | .error e => return .refused (.alarm e)
    | .ok alarm =>
      modify fun w => { w with alarms := w.alarms ++ [some ⟨t, alarm⟩] }
      return .accepted (.number w.alarms.length)
  | .inspectAlarm a t =>
    withAlarm notify a t fun alarm tm =>
      return .alarm alarm.channel (← alarm.isEnabled tm) (← alarm.isArmed tm)
  | .enableAlarm a t on =>
    withAlarm notify a t fun alarm tm => alarm.setEnabled tm on *> pure .done
  | .setAlarm a t due =>
    withAlarm notify a t fun alarm tm => do
      let setting ← deadline tm due
      answer .alarm (fun _ => .done) (alarm.set tm setting)
  | .cancelAlarm a t => withAlarm notify a t fun alarm tm => .flag <$> alarm.cancel tm
  | .releaseAlarm a t =>
    withAlarm notify a t fun alarm tm => do
      alarm.release tm
      modify fun w => { w with alarms := w.alarms.set a none }
      return .done

/-- Actions taken beside the program leave their replies in the trace. -/
def actAll : List (Action n c) → Run (World n c) Unit
  | [] => return ()
  | action :: rest => do
    record (.replied (← act notify action))
    actAll rest

def runScript (i : Nat) (event : TimerEvent) : Run (World n c) IsrResult := do
  record (.handled i event)
  match (← get).scripts[i]? with
  | none => return .none
  | some script =>
    modify fun w => { w with
      scripts := w.scripts.set i { script with calls := script.calls + 1 } }
    actAll notify ((lastRepeats? script.actions script.calls).getD [])
    return (lastRepeats? script.results script.calls).getD .none

end Actions

def handlerCode (notify : Notify n c) : Notify n c
  | .wake flag, _ => raiseFired (firedCell flag)
  | .script i, event => runScript notify i event

def notify : Notify n c := Msp430.Notify.ofCode handlerCode

def simTimer (t : Fin n) : Timer (World n c) Handler := timer notify t

def cpu : Cpu (World n c) where
  feedWatchdog := do
    record (.cpu .feed)
    spendCall
    let w ← get
    modify fun w => { w with processor.feeds := w.processor.feeds + 1 }
    actAll notify (w.surroundings.onFeed w.processor.feeds)
  delayCycles cycles := do
    record (.cpu (.delay cycles))
    spendCall
    let w ← get
    modify fun w => { w with
      processor.delays := w.processor.delays + 1, processor.cycles := w.processor.cycles + cycles.toNat }
    actAll notify (w.surroundings.onDelay w.processor.delays)
  sleep mode := do
    record (.cpu (.sleep mode))
    spendCall
    let w ← get
    modify fun w => { w with processor.sleeps := w.processor.sleeps + 1, processor.lastMode := some mode }
    actAll notify (w.surroundings.onSleep w.processor.sleeps)

def uptimeParts (t : Fin n) (flag : Fin 2) : UptimeParts (World n c) Handler :=
  ⟨simTimer t, cpu, .wake flag, firedCell flag⟩

def tuningChannel (via : TuningChoice n) : TuningChannel (World n c) :=
  ⟨timerPort via.timer, via.channel, via.input⟩

def checkExit (exit : Nat → Bool) : Run (World n c) Bool := do
  modify fun w => { w with checks := w.checks + 1 }
  return exit (← get).checks

def setUptime (slot : UptimeSlot n) (clock : Uptime) : Run (World n c) Unit :=
  modify fun w => { w with uptime := some { slot with clock } }

/-- Waits for `count` units of `nanos` nanoseconds each, cut into waits of at most `most` units. -/
def delayUnits (u : Uptime) (parts : UptimeParts (World n c) Handler) (nanos most count : Nat) :
    Run (World n c) Unit := do
  let pieces := (count - 1) / most
  Run.times (u.delayNanos parts (most * nanos).toUInt32) pieces
  u.delayNanos parts ((count - pieces * most) * nanos).toUInt32

def uptimeCommand (slot : UptimeSlot n) (command : UptimeCommand) : Run (World n c) Reply := do
  let w ← get
  let u := slot.clock
  let parts := uptimeParts slot.timer slot.flag
  match command with
  | .resume rates => setUptime slot (← u.resume parts (ratesOf rates w.caps)); return .done
  | .suspend => setUptime slot (← u.suspend parts); return .done
  | .now => return .number (← parts.now).toNat
  | .free =>
    u.free parts
    modify fun w => { w with uptime := none }
    return .done
  | .setTicksPerSecond hz =>
    setUptime slot (u.withTicksPerSecond hz)
    return .number u.ticksPerSecond.toNat
  | .convert unit value => return unit.convert u.ticksPerSecond value
  | .textNow => return .text (← u.textNow parts)
  | .enableDelay on =>
    match ← (u.setDelayEnabled parts on).run with
    | .error e => return .refused (.delay e)
    | .ok u => setUptime slot u; return .accepted .done
  | .sleepUntil due mode =>
    let target ← deadline parts.timer due
    answer .sleep (fun left => .left left.toInt) (u.sleepUntil parts target mode)
  | .delayUntil due mode exit =>
    let target ← deadline parts.timer due
    modify fun w => { w with checks := 0 }
    let result ← u.delayUntil parts target mode (checkExit exit)
    return .delayed (.ofExcept .sleep (fun _ => .done) result) (← get).checks
  | .delayNanos n => u.delayNanos parts n; return .done
  | .delayMicros us => delayUnits u parts 1000 4294967 us.toNat; return .done
  | .delayMillis ms => delayUnits u parts 1000000 4294 ms.toNat; return .done

def perform (command : Command n c) : Run (World n c) Reply := do
  let w ← get
  let clock := clockSystem w.caps
  match command with
  | .act action => act notify action
  | .crystal enable budget => .flag <$> clock.configureCrystal cpu router enable budget
  | .aclk source shift => answer .clock (fun _ => .done) (clock.configureAclk source shift)
  | .smclk source shift => clock.configureSmclk source shift; return .done
  | .mclk hz => return .number (← clock.configureMclk cpu hz).toNat
  | .mclkTuned hz via =>
    return .number (← clock.configureMclkTuned cpu (tuningChannel via) hz).toNat
  | .tune hz via =>
    answer .tune (fun _ => .done) (clock.tuneMclk (tuningChannel via) hz)
  | .boot plan => answer .clock .booted (clock.boot cpu router plan)
  | .pinHelp peripheral function => return .text ((router : PinRouter (World n c)).help peripheral function)
  | .renewClock => clock.assumePowerUp; return .done
  | .startUptime t plan flag rates =>
    if plan.delayChannel.isSome then
      modify fun w => { w with lastFlag := flag }
    let u ← Uptime.start (uptimeParts t flag) plan (ratesOf rates w.caps)
    setUptime ⟨u, t, flag⟩ u
    return .done
  | .uptime command =>
    match w.uptime with
    | none => return .refused .noUptime
    | some slot => uptimeCommand slot command

end Msp430.World
