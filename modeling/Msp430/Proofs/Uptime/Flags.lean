import Msp430.Proofs.Uptime.Reconciliation

/-!
The flags of the delay alarm over whole runs. Wherever a program comes to that starts the clock and
uses it, the flags, the slot, the channel's interrupt and the mode of the timer tell the same story,
and the last switch of the delay is remembered.
-/
namespace Msp430.Scene

open Run

variable {c : Nat} {H M : Type}
variable {clock : Uptime × Bedside (Switched M) → ClockModule} {notify : Notify (Registry c H M) H}
variable {own : Option (Fin maxChannels)} {running : Bool} {switches : List Bool}
variable {s t : Registry c H M}

/-! ## Between operations -/

/-- The registration is in line with the other flags, and what was switched last is wanted. The
alarm starts out wanted. -/
structure InOrder (own : Option (Fin maxChannels)) (s : Registry c H M) : Prop where
  standing : Standing s.memory.1.delay (decide (s.memory.1.state = .running)) s.memory.1
    s.memory.2.rest.switches s
  sound : s.memory.1.Sound
  switched : ∀ d, s.memory.1.delay = some d →
    d.flags.enabled = s.memory.2.rest.switches.headD true
  channel : s.memory.1.channel = own

/-- What the flags of the delay say is so. -/
structure Attested (own : Option (Fin maxChannels)) (s : Registry c H M) : Prop where
  channel : s.memory.1.channel = own
  running : s.memory.1.state = .running ↔ anyBits TimerControl.mode s.registers.control = true
  absent : s.memory.1.delay = none → s.memory.1.flags = {}
  valid : ∀ d, s.memory.1.delay = some d → d.flags.valid = true
  enabled : ∀ d, s.memory.1.delay = some d →
    d.flags.enabled = s.memory.2.rest.switches.headD true
  timerActive : ∀ d, s.memory.1.delay = some d →
    (d.flags.timerActive = true ↔ s.memory.1.state = .running)
  registered : ∀ d, s.memory.1.delay = some d →
    d.flags.registered = (d.flags.valid && d.flags.enabled && d.flags.timerActive)
  slot : ∀ d, s.memory.1.delay = some d →
    (s.shared.slot d.alarm.channel).enabled = d.flags.registered
  idle : ∀ d, s.memory.1.delay = some d → d.flags.registered = false →
    (s.shared.slot d.alarm.channel).armed = false ∧
      s.registers.interrupting d.alarm.channel = false

theorem InOrder.attested (h : InOrder own s) : Attested own s where
  channel := h.channel
  running := by
    have hstopped := h.standing.stopped
    rw [SimTimer.stopped] at hstopped
    rw [Bool.not_inj hstopped]
    exact decide_eq_true_iff.symm
  absent hnone := by
    rw [Uptime.flags, hnone]
    rfl
  valid := h.sound.valid
  enabled := h.switched
  timerActive d hd := by
    rw [h.sound.active d hd]
    exact decide_eq_true_iff
  registered := h.sound.registered
  slot d hd := (h.standing.slot d hd).enabled
  idle d hd := (h.standing.slot d hd).idle

theorem inOrder_of_standing {u : Uptime}
    (h : Standing u.delay (decide (u.state = .running)) u switches s) (hsound : u.Sound)
    (hswitched : ∀ d, u.delay = some d → d.flags.enabled = switches.headD true)
    (hchannel : u.channel = own) : InOrder own s := by
  obtain rfl : s.memory.1 = u := h.held
  obtain rfl : s.memory.2.rest.switches = switches := h.switches
  exact ⟨h, hsound, hswitched, hchannel⟩

/-- The clock that an operation answers with goes into the memory. -/
theorem inOrder_write {held u : Uptime} (h : Standing u.delay running held switches s)
    (hrunning : running = decide (u.state = .running)) (hsound : u.Sound)
    (hswitched : ∀ d, u.delay = some d → d.flags.enabled = switches.headD true)
    (hchannel : u.channel = own) : InOrder own (uptimeCell.set u s) := by
  subst hrunning
  exact inOrder_of_standing ⟨h.stopped, rfl, h.switches, h.slot⟩ hsound hswitched hchannel

/-- What leaves the clock alone leaves it in order. -/
theorem keeps_inOrder {α : Type} {run : Run (Registry c H M) α}
    (h : ∀ u running switches, Ensures (Standing u.delay running u switches) run
      fun _ => Standing u.delay running u switches) :
    Ensures (InOrder own) run fun _ => InOrder own := by
  intro patience s hs
  refine Triple.weaken (h s.memory.1 _ _) (fun _ t ht => ?_) patience s hs.standing
  exact inOrder_of_standing ht hs.sound hs.switched hs.channel

/-! ## Operations -/

/-- Switches the delay and remembers that. -/
def switchNoting (parts : UptimeParts (Registry c H M) H) (on : Bool) :
    Run (Registry c H M) (Except DelayError Unit) := do
  switchesCell.update (on :: ·)
  switchDelay parts on

def delayFor (parts : UptimeParts (Registry c H M) H) (ns : UInt32) :
    Run (Registry c H M) Unit := do
  (← uptimeCell.read).delayNanos parts ns

section Parts

variable {parts : UptimeParts (Registry c H M) H} (ht : parts.timer = timer clock notify)

include ht

theorem inOrder_startClock {rates : Rates (Registry c H M)} (hrates : RatesAmong Aside rates)
    (plan : UptimePlan) (slots : Vector (AlarmSlot H) maxChannels) :
    Ensures (fun s => s.shared.slots = slots ∧ s.memory.2.rest.switches = [])
      (startClock parts plan rates)
      fun _ => InOrder (plan.delayChannel.bind (freeChannel c slots)) := by
  rintro patience s ⟨rfl, hfresh⟩
  have hpremises : premises s = (s.shared.slots, s.memory.1, []) := by rw [premises, hfresh]
  refine Triple.bind (standing_start ht hrates plan s.shared.slots) (fun u => ?_) patience s
    hpremises
  rintro _ t ⟨hdelay, hstate, hstanding⟩
  let claimed := (plan.delayChannel.bind (freeChannel c s.shared.slots)).map freshDelay
  have hvalid : ∀ d, claimed = some d → d.flags.valid = true := by
    intro d hd
    obtain ⟨i, -, rfl⟩ := Option.map_eq_some_iff.mp hd
    rfl
  have henabled : ∀ d, u.delay = some d → d.flags.enabled = true := by
    intro d hd
    obtain ⟨before, hbefore, rfl⟩ := Option.map_eq_some_iff.mp (hdelay.symm.trans hd)
    obtain ⟨i, -, rfl⟩ := Option.map_eq_some_iff.mp hbefore
    rfl
  apply inOrder_write hstanding
  · rw [hstate]
    rfl
  · exact .of_activated hvalid (by rw [hdelay, hstate]; rfl)
  · exact henabled
  · rw [Uptime.channel, hdelay, Option.map_map, Option.map_map]
    exact Option.map_id'

omit ht in
/-- A clock whose timer is stopped or runs again keeps its alarm and what it was switched to. -/
theorem inOrder_activated {held u : Uptime} {active : Bool} (hs : InOrder own s)
    (hdelay : u.delay = s.memory.1.delay.map (DelayAlarm.activated active))
    (hactive : active = decide (u.state = .running))
    (h : Standing u.delay active held s.memory.2.rest.switches t) :
    InOrder own (uptimeCell.set u t) := by
  apply inOrder_write h hactive
  · exact .of_activated hs.sound.valid (hactive ▸ hdelay)
  · intro d hd
    obtain ⟨before, hbefore, rfl⟩ := Option.map_eq_some_iff.mp (hdelay.symm.trans hd)
    exact hs.switched before hbefore
  · rw [← hs.channel, Uptime.channel, hdelay, Option.map_map]
    rfl

theorem inOrder_suspendClock :
    Ensures (InOrder own) (suspendClock parts) fun _ => InOrder own := by
  intro patience s hs
  refine Triple.bind (standing_suspend ht s.memory.1) (fun u => ?_) patience s hs.standing
  rintro _ t ⟨rfl, h⟩
  exact inOrder_activated hs rfl rfl h

theorem inOrder_resumeClock {rates : Rates (Registry c H M)} (hrates : RatesAmong Aside rates) :
    Ensures (InOrder own) (resumeClock parts rates) fun _ => InOrder own := by
  intro patience s hs
  refine Triple.bind (standing_resume ht hrates s.memory.1) (fun u => ?_) patience s hs.standing
  rintro _ t ⟨hdelay, hstate, h⟩
  exact inOrder_activated hs hdelay (by rw [hstate]; rfl) h

omit ht in
theorem Standing.note {delay : Option DelayAlarm} {held : Uptime}
    (h : Standing delay running held switches s) (on : Bool) :
    Standing delay running held (on :: switches)
      (switchesCell.set (on :: s.memory.2.rest.switches) s) where
  stopped := h.stopped
  held := h.held
  switches := congrArg (on :: ·) h.switches
  slot := h.slot

/-- The delay is switched, or there is none and nothing happens. -/
theorem inOrder_switchNoting (on : Bool) :
    Ensures (InOrder own) (switchNoting parts on) fun _ => InOrder own := by
  intro patience s hs
  let noted := switchesCell.set (on :: s.memory.2.rest.switches) s
  have hnoted := hs.standing.note on
  refine Triple.bind (standing_setDelayEnabled ht s.memory.1 on) (fun answer => ?_) patience noted
    hnoted
  cases answer with
  | error why =>
    refine triple_pure _ fun t ⟨hnone, h⟩ => inOrder_of_standing h hs.sound ?_ hs.channel
    intro d hd
    cases hnone.symm.trans hd
  | ok u =>
    rintro _ t ⟨d, hd, rfl, h⟩
    apply inOrder_write h rfl
    · exact hs.sound.switched hd on
    · rintro e he
      rw [← Option.some.inj he]
      rfl
    · rw [← hs.channel, Uptime.channel, Uptime.channel, hd]
      rfl

end Parts

/-! ## Programs -/

/-- A program that uses the clock. It may do what others do, too. -/
inductive DelayUse [DecidableEq H] (parts : UptimeParts (Registry c H M) H) :
    ∀ α : Type, Run (Registry c H M) α → Prop
  | switch (on : Bool) : DelayUse parts _ (switchNoting parts on)
  | suspend : DelayUse parts _ (suspendClock parts)
  | resume (rates : Rates (Registry c H M)) : RatesAmong Aside rates →
      DelayUse parts _ (resumeClock parts rates)
  | sleep (target : UInt32) (mode : LowPowerMode) : DelayUse parts _ (sleepOnce parts target mode)
  | delay (target : UInt32) (mode : LowPowerMode) (exit : Run (Registry c H M) Bool) :
      Built (Activity parts.timer parts.onAlarm Aside) exit →
      DelayUse parts _ (delayAsking parts target mode exit)
  | delayFor (ns : UInt32) : DelayUse parts _ (delayFor parts ns)
  | beside {α : Type} (run : Run (Registry c H M) α) :
      Activity parts.timer parts.onAlarm Aside α run → DelayUse parts α run

section Programs

variable [DecidableEq H] {onAlarm : H} {cpu : Cpu (Registry c H M)}
variable {code : Notify (Registry c H M) H → Notify (Registry c H M) H}
variable {activity : LowPowerMode → Run (Registry c H M) Unit}
variable (hsurroundings : Surroundings (simPort clock) onAlarm Aside code activity)
variable (hcpu : CpuAmong (timer clock (.ofCode (withDelay onAlarm code))) onAlarm cpu)

include hsurroundings hcpu

theorem inOrder_delayUse {α : Type} {run : Run (Registry c H M) α}
    (hrun : DelayUse (bedsideParts (simPort clock) cpu onAlarm code activity) α run) :
    Ensures (InOrder own) run fun _ => InOrder own := by
  -- what reads the clock and keeps it works on the one in the memory
  have reading {β : Type} {next : Uptime → Run (Registry c H M) β}
      (h : ∀ u running switches, Ensures (Standing u.delay running u switches) (next u)
        fun _ => Standing u.delay running u switches) :
      Ensures (InOrder own) (do next (← uptimeCell.read)) fun _ => InOrder own := by
    apply keeps_inOrder
    intro u running switches
    apply Triple.bind (Q := fun v s => v = u ∧ Standing u.delay running u switches s)
    · exact fun _ _ hs => ⟨hs.held, hs⟩
    intro v
    refine triple_of_fact fun hv => ?_
    subst hv
    exact h v running switches
  cases hrun with
  | switch on => exact inOrder_switchNoting rfl on
  | suspend => exact inOrder_suspendClock rfl
  | resume rates hrates => exact inOrder_resumeClock rfl hrates
  | sleep target mode =>
    exact reading fun u _ _ => standing_sleepUntil hsurroundings u target mode
  | delay target mode exit hexit =>
    apply reading
    intro u running switches
    apply standing_delayUntil hsurroundings
    apply Triple.bind (standing_beside hsurroundings hexit)
    intro answer
    exact fun _ _ h => h.congr rfl
  | delayFor ns => exact reading fun u _ _ => standing_delayNanos hsurroundings hcpu u ns
  | beside run hrun =>
    exact keeps_inOrder fun _ _ _ => standing_beside hsurroundings (.step hrun)

omit hsurroundings hcpu in
theorem start_switchDelay_absent (hnone : s.memory.1.delay = none) (patience : Nat) (on : Bool) :
    (switchDelay (bedsideParts (simPort clock) cpu onAlarm code activity) on).start patience s =
      .ok (.error .unavailable) s := by
  have hread : (uptimeCell.read : Run (Registry c H M) Uptime).start patience s =
      .ok s.memory.1 s := rfl
  rw [switchDelay, start_bind_ok hread, Uptime.run_setDelayEnabled, hnone]
  rfl

/-- Take any timer, whatever its registers and slots hold, start a clock on it, with an alarm or
without, and use it in whatever way: the clock has its alarm just if the channel was free, without
one there is nothing to switch, and with one its flags tell what the slot, the interrupt of the
channel and the mode of the timer are. -/
theorem delay_flags_attested (plan : UptimePlan) {rates : Rates (Registry c H M)}
    (hrates : RatesAmong Aside rates) {α : Type} {program : Run (Registry c H M) α}
    (hprogram : Built (DelayUse (bedsideParts (simPort clock) cpu onAlarm code activity)) program)
    {patience : Nat} {a : α} {final : Registry c H M} (hfresh : s.memory.2.rest.switches = [])
    (hreached : (do
      startClock (bedsideParts (simPort clock) cpu onAlarm code activity) plan rates
      program).start patience s = .ok a final) :
    Attested (plan.delayChannel.bind (freeChannel c s.shared.slots)) final ∧
      (final.memory.1.delay = none → ∀ patience on,
        (switchDelay (bedsideParts (simPort clock) cpu onAlarm code activity) on).start patience
          final = .ok (.error .unavailable) final) := by
  have used : Ensures (fun t => t.shared.slots = s.shared.slots ∧ t.memory.2.rest.switches = [])
      (do
        startClock (bedsideParts (simPort clock) cpu onAlarm code activity) plan rates
        program) fun _ => InOrder (plan.delayChannel.bind (freeChannel c s.shared.slots)) := by
    apply Triple.bind (inOrder_startClock rfl hrates plan s.shared.slots)
    intro _
    exact keeps_built (fun _ _ => inOrder_delayUse hsurroundings hcpu) hprogram
  have inOrder := used.of_start ⟨rfl, hfresh⟩ hreached
  exact ⟨inOrder.attested, fun hnone => start_switchDelay_absent hnone⟩

end Programs

/-! ## A delay that is switched off and on again -/

/-- Sleeps end after 60 ticks. -/
def napping (t : Timer (Registry 2 Unit ClockModule) Unit) (_ : LowPowerMode) :
    Run (Registry 2 Unit ClockModule) Unit := do
  registersCell.update (·.advance 60)
  discard t.dispatchShared

def idleCode (_ : Notify (Registry 2 Unit ClockModule) Unit) :
    Notify (Registry 2 Unit ClockModule) Unit := fun _ _ => return .none

def nappingTimer : Timer (Registry 2 Unit ClockModule) Unit :=
  timer (fun m => m.2.rest.rest) (.ofCode (withDelay () idleCode))

def nappingParts : UptimeParts (Registry 2 Unit ClockModule) Unit :=
  bedsideParts (simPort fun m => m.2.rest.rest) (.idle (return ())) () idleCode
    (napping nappingTimer)

def beforeNap : Registry 2 Unit ClockModule where
  registers := {}
  memory := (⟨none, 0, 0, .suspended⟩, { rest := { rest := {} } })

def switchedInSuspension : Run (Registry 2 Unit ClockModule) Unit := do
  discard (sleepOnce nappingParts 100 .lpm0)
  suspendClock nappingParts
  discard (switchNoting nappingParts false)
  discard (switchNoting nappingParts true)

theorem surroundings_napping :
    Surroundings (simPort fun m : Uptime × Bedside (Switched ClockModule) => m.2.rest.rest) ()
      (Aside (c := 2)) idleCode (napping nappingTimer) where
  handlers _ _ _ := .done _
  sleeping _ := .andThen (.step (.other _ (aside_advance 60))) fun _ =>
    .andThen (.step .dispatchShared) fun _ => .done _

theorem delay_flags_attested_suspended :
    let final := (do
      startClock nappingParts ⟨.smclk, .by1, some 1⟩ (.fixed 0 0 0)
      switchedInSuspension).finish 9 beforeNap
    final.memory.1.flags = ⟨true, true, false, false⟩ ∧ Attested (some 1) final := by
  intro final
  have reached : (do
      startClock nappingParts ⟨.smclk, .by1, some 1⟩ (.fixed 0 0 0)
      switchedInSuspension).answer? 9 beforeNap = some () := by decide +kernel
  have used : Built (DelayUse nappingParts) switchedInSuspension := by
    have discarded {α : Type} {run : Run (Registry 2 Unit ClockModule) α}
        (h : DelayUse nappingParts α run) : Built (DelayUse nappingParts) (discard run) :=
      .andThen (.step h) fun _ => .done _
    refine .andThen (discarded (.sleep 100 .lpm0)) fun _ => ?_
    refine .andThen (.step .suspend) fun _ => ?_
    refine .andThen (discarded (.switch false)) fun _ => ?_
    exact discarded (.switch true)
  have unmoved : RatesAmong Aside (.fixed 0 0 0 : Rates (Registry 2 Unit ClockModule)) :=
    ⟨leaves_pure regime 0, leaves_pure regime 0, leaves_pure regime 0⟩
  obtain ⟨attested, -⟩ := delay_flags_attested surroundings_napping
    ⟨.done (), fun _ => .done ()⟩ ⟨.smclk, .by1, some 1⟩ unmoved used rfl (start_of_answer reached)
  exact ⟨by decide +kernel, attested⟩

end Msp430.Scene
