import Msp430.Proofs.Uptime.Slumber

/-!
What the clock does with its own alarm while nobody waits. It claims the channel, withdraws and
enables the alarm, and suspends and resumes the count; the alarm is never armed, its channel
requests no interrupt, and it is enabled just while it is registered.
-/
namespace Msp430

namespace DelayAlarm

/-- The registration follows the other flags. -/
def reconciled (d : DelayAlarm) : DelayAlarm := { d with flags.registered := d.flags.wanted }

theorem reconciled_of_eq {d : DelayAlarm} (h : d.flags.wanted = d.flags.registered) :
    d.reconciled = d := by
  rw [reconciled, h]

def activated (active : Bool) (d : DelayAlarm) : DelayAlarm :=
  { d with flags.timerActive := active }.reconciled

end DelayAlarm

/-- The alarm takes part in dispatch just while the delay is enabled and the clock runs. -/
structure Uptime.Sound (u : Uptime) : Prop where
  valid : ∀ d, u.delay = some d → d.flags.valid = true
  registered : ∀ d, u.delay = some d → d.flags.registered = d.flags.wanted
  active : ∀ d, u.delay = some d → d.flags.timerActive = decide (u.state = .running)

theorem Uptime.Sound.of_activated {u : Uptime} {delay : Option DelayAlarm}
    (hvalid : ∀ d, delay = some d → d.flags.valid = true)
    (hdelay : u.delay = delay.map (DelayAlarm.activated (decide (u.state = .running)))) :
    u.Sound := by
  have each {d : DelayAlarm} (hd : u.delay = some d) : ∃ before, delay = some before ∧
      before.activated (decide (u.state = .running)) = d :=
    Option.map_eq_some_iff.mp (hdelay.symm.trans hd)
  constructor
  · intro d hd
    obtain ⟨before, hbefore, rfl⟩ := each hd
    exact hvalid before hbefore
  · intro d hd
    obtain ⟨before, -, rfl⟩ := each hd
    rfl
  · intro d hd
    obtain ⟨before, -, rfl⟩ := each hd
    rfl

theorem Uptime.Sound.switched {u : Uptime} (h : u.Sound) {d : DelayAlarm} (hd : u.delay = some d)
    (on : Bool) : { u with delay := some { d with flags.enabled := on }.reconciled }.Sound where
  valid _ he := Option.some.inj he ▸ h.valid d hd
  registered _ he := Option.some.inj he ▸ rfl
  active _ he := Option.some.inj he ▸ h.active d hd

theorem Uptime.run_setDelayEnabled {σ H : Type} (u : Uptime) (parts : UptimeParts σ H) (on : Bool) :
    (u.setDelayEnabled parts on).run = (do
      match u.delay with
      | none => return .error .unavailable
      | some d => return .ok { u with delay := some (← d.setEnabled parts on) }) := by
  unfold Uptime.setDelayEnabled
  cases u.delay with
  | none => rfl
  | some d => exact Run.run_liftM_bind ..

theorem Uptime.Sound.unregistered_iff {u : Uptime} (h : u.Sound) : u.flags.registered = false ↔
    u.delay = none ∨ u.flags.enabled = false ∨ u.state = .suspended := by
  unfold Uptime.flags
  cases hd : u.delay with
  | none => simp
  | some d =>
    have hregistered := h.registered d hd
    rw [DelayFlags.wanted, h.valid d hd, h.active d hd] at hregistered
    cases hstate : u.state <;> simp [hregistered, hstate]

namespace Scene

open Run

/-- Nobody waits. The memory holds a clock whose alarm is or will be this one. -/
def Watch.between (held : Uptime) (delay : Option DelayAlarm) (events : List SleepEvent) : Watch :=
  ⟨held, events, delay.map (·.alarm.channel), delay.elim false (·.flags.registered), none⟩

variable {R H M : Type}
variable {port : TimerPort (Bedroom R H M)} {counted : UInt32 → Bedroom R H M → Prop}
variable {fit : Option UInt32 → Option (Fin maxChannels) → Bedroom R H M → Prop}
variable {onAlarm : H} {w : Watch} {s t : Bedroom R H M}
variable {notify : Notify (Bedroom R H M) H} {i : Fin maxChannels}

variable (fit onAlarm) in
/-- Nobody waits, and the alarm is in line with the clock. -/
structure Rested (s : Bedroom R H M) : Prop where
  kept : Kept fit onAlarm (.between s.memory.1 s.memory.1.delay s.sleeperEvents) s
  sound : s.memory.1.Sound

theorem entries_congr (hc : concerns t = concerns s)
    (h : Entries onAlarm w s.memory.2.fired s) : Entries onAlarm w t.memory.2.fired t := by
  rw [concerns_fired hc]
  exact h.congr hc

/-- While nobody waits the channel requests no interrupt, whatever the flag. -/
theorem kept_iff {w : Watch} (hw : w.target = none) : Kept fit onAlarm w s ↔
    Entries onAlarm w s.memory.2.fired s ∧ fit none w.own s := by
  have hreached : w.reached s.memory.2.fired = none := by
    rw [Watch.reached, hw, ite_self]
  have hmuted : w.muted s.memory.2.fired = w.own := by
    rw [Watch.muted, hw, Option.isSome_none, Bool.false_and, if_neg (by decide)]
  constructor
  · intro h
    exact ⟨h.entries, by rw [← hreached, ← hmuted]; exact h.hardware⟩
  · intro h
    exact ⟨h.1, by rw [hreached, hmuted]; exact h.2⟩

theorem kept_of_entries (w : Watch) (hw : w.target = none)
    (h : Entries onAlarm w s.memory.2.fired s ∧ fit none w.own s) : Kept fit onAlarm w s :=
  (kept_iff hw).mpr h

/-- Which clock the memory holds does not matter to the alarm. -/
theorem Kept.write (hw : Hardware port fit counted) (h : Kept fit onAlarm w s) (u : Uptime) :
    Kept fit onAlarm { w with clock := u } (uptimeCell.set u s) where
  entries := ⟨rfl, h.entries.events, h.entries.alone, h.entries.unchained,
    fun i hi => ⟨(h.entries.slot i hi).handler, (h.entries.slot i hi).enabled,
      (h.entries.slot i hi).armed, (h.entries.slot i hi).setting⟩⟩
  hardware := hw.clock _ _ s u h.hardware

/-- The handler of the delay is in no slot before its channel is claimed. -/
theorem Entries.claim {fired : Bool} (h : Entries onAlarm w fired s) (hown : w.own = none)
    (htarget : w.target = none) (i : Fin maxChannels) :
    Entries onAlarm { w with own := some i, on := false } fired
      { s with shared := s.shared.modifySlot i fun slot =>
        { slot with handler := some onAlarm, enabled := false, armed := false } } where
  clock := h.clock
  events := h.events
  alone j hj := by
    by_cases hij : i = j
    · exact congrArg some hij
    · change ((s.shared.modifySlot i _).slot j).handler = _ at hj
      rw [TimerShared.slot_modifySlot_other _ _ _ hij] at hj
      cases hown.symm.trans (h.alone j hj)
  unchained := h.unchained
  slot j hj := by
    obtain rfl : i = j := Option.some.inj hj
    change OwnSlot onAlarm _ fired ((s.shared.modifySlot i _).slot i)
    rw [TimerShared.slot_modifySlot_self]
    have hidle : (w.target.isSome && !fired) = false := by rw [htarget]; rfl
    exact ⟨rfl, rfl, hidle.symm, fun _ he => by cases htarget.symm.trans he⟩

variable (hw : Hardware port fit counted)

include hw

/-! ## The alarm -/

/-- The clock changes its slot and switches the interrupt of the channel off. -/
theorem ensures_withdraw (hi : w.own = some i) :
    Ensures (Kept fit onAlarm w) (Alarm.cancel ⟨i⟩ (onPort port notify))
      fun _ => Kept fit onAlarm { w with target := none } := by
  refine Triple.bind (Q := fun _ => Kept fit onAlarm w) (fun _ _ h => h) fun armed => ?_
  refine Triple.bind (triple_modifySlot (Q := fun s =>
      Entries onAlarm { w with target := none } s.memory.2.fired s ∧ fit none none s)
    fun s h => ⟨?_, ?_⟩) fun _ => ?_
  · refine h.entries.modifyOwn { w with target := none } hi rfl rfl rfl fun slot hslot => ?_
    exact ⟨hslot.handler, hslot.enabled, rfl, fun _ he => by cases he⟩
  · exact hw.shared _ _ _ _ rfl (hw.unmuted _ _ _ (hw.unreached _ _ _ h.hardware))
  refine Triple.bind (ensures_beside (hw.spares.changeChannel i _)
    (fun _ _ hc h => entries_congr hc h) (ensures_disableChannel hw none)) fun _ => ?_
  refine Triple.bind (ensures_beside (hw.spares.changeChannel i _)
    (fun _ _ hc h => entries_congr hc h) (hw.clearFlag none i)) fun _ => ?_
  refine triple_pure _ fun s h => kept_of_entries { w with target := none } rfl ⟨h.1, ?_⟩
  rw [show ({ w with target := none } : Watch).own = some i from hi]
  exact h.2

theorem ensures_enable (hi : w.own = some i) (htarget : w.target = none) (on : Bool) :
    Ensures (Kept fit onAlarm w)
      ((onPort port notify).modifySlot i fun slot => { slot with enabled := on })
      fun _ => Kept fit onAlarm { w with on } := by
  refine triple_modifySlot fun s h => ?_
  obtain ⟨hentries, hfit⟩ := (kept_iff htarget).mp h
  refine kept_of_entries { w with on } htarget ⟨?_, hw.shared _ _ _ _ rfl hfit⟩
  refine hentries.modifyOwn { w with on } hi rfl rfl rfl fun slot hslot => ?_
  exact ⟨hslot.handler, rfl, hslot.armed, hslot.setting⟩

theorem ensures_setEnabled (hi : w.own = some i) (htarget : w.target = none) (on : Bool) :
    Ensures (Kept fit onAlarm w) (Alarm.setEnabled ⟨i⟩ (onPort port notify) on)
      fun _ => Kept fit onAlarm { w with on } := by
  cases on with
  | true => exact ensures_enable hw hi htarget true
  | false =>
    refine Triple.bind (Q := fun _ => Kept fit onAlarm w) ?_ fun _ =>
      ensures_enable hw hi htarget false
    refine Triple.map _ (ensures_withdraw hw hi) fun _ s h => ?_
    rwa [show { w with target := none } = w by rw [← htarget]] at h

/-- Only a free channel is claimed, and its alarm is neither enabled nor armed. -/
theorem ensures_claimOwn (hown : w.own = none) (htarget : w.target = none) (channel : Nat) :
    Ensures (Kept fit onAlarm w) (Alarm.claim (onPort port notify) channel onAlarm).run
      fun answer s => match answer with
        | .ok alarm => Kept fit onAlarm { w with own := some alarm.channel, on := false } s
        | .error _ => Kept fit onAlarm w s := by
  rw [Alarm.run_claim]
  split
  · split
    · rename_i bound
      refine Triple.bind (Q := fun _ => Kept fit onAlarm w) (fun _ _ h => h) fun slot => ?_
      split
      · exact triple_pure _ fun _ h => h
      · refine Triple.bind (triple_modifySlot (Q := fun s =>
          Entries onAlarm { w with own := some ⟨channel, bound⟩, on := false } s.memory.2.fired s ∧
            fit none none s) fun s h => ⟨?_, ?_⟩) fun _ => ?_
        · exact h.entries.claim hown htarget ⟨channel, bound⟩
        · exact hw.shared _ _ _ _ rfl (hw.unmuted _ _ _ (hw.unreached _ _ _ h.hardware))
        refine Triple.bind (ensures_beside (hw.spares.writeChannel channel 0)
          (fun _ _ hc h => entries_congr hc h)
          (hw.mute none ⟨channel, bound⟩ 0 (by decide))) fun _ => ?_
        exact triple_pure _ fun s h =>
          kept_of_entries { w with own := some ⟨channel, bound⟩, on := false } htarget h
    · exact triple_pure _ fun _ h => h
  · exact triple_pure _ fun _ h => h

/-! ## The registration -/

section Parts

variable {parts : UptimeParts (Bedroom R H M) H} (ht : parts.timer = onPort port notify)

include ht

theorem ensures_reconcile (d : DelayAlarm) (hown : w.own = some d.alarm.channel)
    (hon : w.on = d.flags.registered) (htarget : w.target = none) :
    Ensures (Kept fit onAlarm w) (d.reconcile parts)
      fun after s => after = d.reconciled ∧ Kept fit onAlarm { w with on := d.flags.wanted } s := by
  unfold DelayAlarm.reconcile
  rw [ht]
  split
  · rename_i he
    refine triple_pure _ fun s h => ⟨(DelayAlarm.reconciled_of_eq he).symm, ?_⟩
    rwa [show { w with on := d.flags.wanted } = w by rw [he, ← hon]]
  · refine Triple.bind (ensures_setEnabled hw hown htarget d.flags.wanted) fun _ => ?_
    exact triple_pure _ fun _ h => ⟨rfl, h⟩

theorem ensures_setFlags (held : Uptime) (events : List SleepEvent) {d : DelayAlarm}
    (flags : DelayFlags) (hf : flags.registered = d.flags.registered) :
    Ensures (Kept fit onAlarm (.between held (some d) events))
      ({ d with flags }.reconcile parts) fun after s =>
        after = { d with flags }.reconciled ∧
          Kept fit onAlarm (.between held (some after) events) s :=
  (ensures_reconcile hw ht { d with flags } (w := .between held (some d) events) rfl hf.symm
    rfl).weaken fun _ _ ⟨he, h⟩ => ⟨he, he ▸ h⟩

/-- The timer is stopped or runs again. -/
theorem ensures_setTimerActive (held : Uptime) (events : List SleepEvent)
    (delay : Option DelayAlarm) (active : Bool) :
    Ensures (Kept fit onAlarm (.between held delay events))
      (delay.mapM fun d => d.setTimerActive parts active) fun after s =>
        after = delay.map (DelayAlarm.activated active) ∧
          Kept fit onAlarm (.between held after events) s := by
  cases delay with
  | none => exact triple_pure _ fun _ h => ⟨rfl, h⟩
  | some d =>
    refine Triple.map some (ensures_setFlags hw ht held events _ rfl) fun after s ⟨he, h⟩ => ?_
    exact ⟨congrArg some he, h⟩

/-! ## The count -/

omit ht in
/-- While nobody waits the control register may be written. -/
theorem keeps_changeControl (htarget : w.target = none) (f : UInt16 → UInt16) :
    Ensures (Kept fit onAlarm w) (port.changeControl f) fun _ => Kept fit onAlarm w := by
  have leaves : (port.changeControl f).Leaves concerns :=
    hw.spares.readControl.bind fun _ => hw.spares.writeControl _
  refine keeps_kept leaves fun fired => ?_
  rw [show w.reached fired = none by rw [Watch.reached, htarget, ite_self]]
  exact (hw.readControl none _).bind fun _ => hw.writeControl _ _

omit hw ht in
/-- What the rates are asked for does not concern the sleeper. -/
structure Unnoticed (fit : Option UInt32 → Option (Fin maxChannels) → Bedroom R H M → Prop)
    (rates : Rates (Bedroom R H M)) : Prop where
  aclk : Harmless fit rates.aclk
  smclk : Harmless fit rates.smclk
  mclk : Harmless fit rates.mclk

theorem ensures_suspend (held u : Uptime) (events : List SleepEvent) :
    Ensures (Kept fit onAlarm (.between held u.delay events)) (u.suspend parts)
      fun after s => after = { u with
          delay := u.delay.map (DelayAlarm.activated false), state := .suspended } ∧
        Kept fit onAlarm (.between held after.delay events) s := by
  unfold Uptime.suspend
  rw [ht]
  refine Triple.bind (keeps_changeControl hw rfl _) fun _ => ?_
  refine Triple.bind (ensures_setTimerActive hw ht held events u.delay false) fun delay => ?_
  exact triple_pure _ fun s ⟨he, h⟩ => ⟨by rw [he], h⟩

omit ht in
theorem keeps_rate {rates : Rates (Bedroom R H M)} (hr : Unnoticed fit rates) :
    Ensures (Kept fit onAlarm w) ((onPort port notify).frequency rates)
      fun _ => Kept fit onAlarm w := by
  have control : Ensures (Kept fit onAlarm w) port.readControl fun _ => Kept fit onAlarm w :=
    keeps_kept hw.spares.readControl fun _ => hw.readControl _ _
  refine Triple.bind (Keeps.bind control fun _ => keeps_pure _) fun source => ?_
  have divided (rate : UInt32) : Keeps (Kept fit onAlarm w) (fun _ => True) (do
      return rate >>> (← (onPort port notify).port.dividerShift).toUInt32) :=
    (Keeps.bind control fun _ => keeps_pure _).bind fun _ => keeps_pure _
  cases source with
  | aclk => exact Keeps.bind hr.aclk.kept divided
  | smclk => exact Keeps.bind hr.smclk.kept divided
  | taclk => exact (keeps_pure 0).bind divided
  | inclk => exact (keeps_pure 0).bind divided

theorem ensures_resume {rates : Rates (Bedroom R H M)} (hr : Unnoticed fit rates)
    (held u : Uptime) (events : List SleepEvent) :
    Ensures (Kept fit onAlarm (.between held u.delay events)) (u.resume parts rates)
      fun after s => after.delay = u.delay.map (DelayAlarm.activated true) ∧
        after.state = .running ∧ Kept fit onAlarm (.between held after.delay events) s := by
  unfold Uptime.resume
  rw [ht]
  refine Triple.bind (keeps_rate hw hr) fun _ => ?_
  refine Triple.bind hr.mclk.kept fun _ => ?_
  refine Triple.bind (ensures_setTimerActive hw ht held events u.delay true) fun delay =>
    triple_of_fact fun hdelay => ?_
  refine Triple.bind (keeps_changeControl hw rfl _) fun _ => ?_
  exact triple_pure _ fun _ h => ⟨hdelay, rfl, h⟩

omit ht in
/-- Counting starts over. -/
theorem keeps_resetCounter (htarget : w.target = none) :
    Ensures (Kept fit onAlarm w) (onPort port notify).resetCounter fun _ => Kept fit onAlarm w := by
  refine Triple.bind (Q := fun _ => Kept fit onAlarm w) (triple_update fun s h => ?_) fun _ => ?_
  · obtain ⟨hentries, hfit⟩ := (kept_iff htarget).mp h
    exact kept_of_entries w htarget ⟨hentries.congr rfl, hw.restart _ s hfit⟩
  · exact Triple.bind (keeps_changeControl hw htarget _) fun _ => keeps_changeControl hw htarget _

theorem ensures_claimDelay (hh : parts.onAlarm = onAlarm) (held : Uptime)
    (events : List SleepEvent) (channel : Nat) :
    Ensures (Kept fit onAlarm (.between held none events)) (DelayAlarm.claim parts channel)
      fun delay s => (∀ d, delay = some d → d.flags.valid = true) ∧
        Kept fit onAlarm (.between held delay events) s := by
  unfold DelayAlarm.claim
  rw [ht, hh]
  refine Triple.bind (ensures_claimOwn hw (w := .between held none events) rfl rfl channel)
    fun answer => ?_
  cases answer with
  | error why => exact triple_pure _ fun _ h => ⟨fun _ he => (by cases he), h⟩
  | ok alarm =>
    refine triple_pure _ fun _ h => ⟨fun d he => ?_, h⟩
    rw [← Option.some.inj he]

/-- Wherever the clock starts, nobody has the handler of the delay. -/
theorem ensures_start (hh : parts.onAlarm = onAlarm) {rates : Rates (Bedroom R H M)}
    (hr : Unnoticed fit rates) (plan : UptimePlan) (held : Uptime) (events : List SleepEvent) :
    Ensures (Kept fit onAlarm (.between held none events)) (Uptime.start parts plan rates)
      fun after s => after.Sound ∧ Kept fit onAlarm (.between held after.delay events) s := by
  unfold Uptime.start
  rw [ht]
  have written (bits : UInt16) : Ensures (Kept fit onAlarm (.between held none events))
      (port.writeControl bits) fun _ => Kept fit onAlarm (.between held none events) :=
    keeps_kept (hw.spares.writeControl bits) fun fired => by
      rw [show (Watch.between held none events).reached fired = none by
        rw [Watch.reached, Watch.between, ite_self]]
      exact hw.writeControl _ bits
  refine Triple.bind (written 0) fun _ => ?_
  refine Triple.bind (keeps_resetCounter hw rfl) fun _ => ?_
  refine Triple.bind (written _) fun _ => ?_
  refine Triple.bind (keeps_changeControl hw rfl _) fun _ => ?_
  have resumed (delay : Option DelayAlarm) :
      Ensures (fun s => (∀ d, delay = some d → d.flags.valid = true) ∧
          Kept fit onAlarm (.between held delay events) s)
        (Uptime.resume ⟨delay, 0, 0, .suspended⟩ parts rates) fun after s =>
          after.Sound ∧ Kept fit onAlarm (.between held after.delay events) s :=
    triple_of_fact fun hvalid => (ensures_resume hw ht hr held ⟨delay, 0, 0, .suspended⟩
      events).weaken fun after s h =>
        ⟨.of_activated hvalid (by rw [h.1, h.2.1]; rfl), h.2.2⟩
  dsimp only
  cases plan.delayChannel with
  | none => exact Triple.of_imp (resumed none) fun _ h => ⟨fun _ he => (by cases he), h⟩
  | some channel => exact Triple.bind (ensures_claimDelay hw ht hh held events channel) resumed

/-! ## The clock in the memory -/

omit hw ht in
theorem Rested.of_kept {u : Uptime} {events : List SleepEvent}
    (h : Kept fit onAlarm (.between u u.delay events) s) (hu : u.Sound) : Rested fit onAlarm s where
  kept := by
    rw [show s.memory.1 = u from h.entries.clock,
      show s.sleeperEvents = events from h.entries.events]
    exact h
  sound := by
    rw [show s.memory.1 = u from h.entries.clock]
    exact hu

omit ht in
theorem Kept.rested {held u : Uptime} {events : List SleepEvent}
    (h : Kept fit onAlarm (.between held u.delay events) s) (hu : u.Sound) :
    Rested fit onAlarm (uptimeCell.set u s) := .of_kept (h.write hw u) hu

theorem rested_startClock (hh : parts.onAlarm = onAlarm) {rates : Rates (Bedroom R H M)}
    (hr : Unnoticed fit rates) (plan : UptimePlan) :
    Ensures (fun s => Spare onAlarm s ∧ fit none none s) (startClock parts plan rates)
      fun _ => Rested fit onAlarm := by
  intro patience s ⟨hspare, hfit⟩
  have before : Kept fit onAlarm (.between s.memory.1 none s.sleeperEvents) s := by
    refine kept_of_entries (.between s.memory.1 none s.sleeperEvents) rfl ⟨?_, hfit⟩
    exact ⟨rfl, rfl, fun i hi => absurd hi (hspare.slots i), hspare.chain, fun _ hi => by cases hi⟩
  refine Triple.bind (ensures_start hw ht hh hr plan s.memory.1 s.sleeperEvents) (fun u => ?_)
    patience s before
  exact fun _ _ ⟨hu, h⟩ => h.rested hw hu

theorem rested_suspendClock :
    Ensures (Rested fit onAlarm) (suspendClock parts) fun _ => Rested fit onAlarm := by
  intro patience s hs
  refine Triple.bind (ensures_suspend hw ht s.memory.1 s.memory.1 s.sleeperEvents) (fun u => ?_)
    patience s hs.kept
  exact triple_of_fact fun he _ _ h =>
    h.rested hw (.of_activated hs.sound.valid (by rw [he]; rfl))

theorem rested_resumeClock {rates : Rates (Bedroom R H M)} (hr : Unnoticed fit rates) :
    Ensures (Rested fit onAlarm) (resumeClock parts rates) fun _ => Rested fit onAlarm := by
  intro patience s hs
  refine Triple.bind (ensures_resume hw ht hr s.memory.1 s.memory.1 s.sleeperEvents) (fun u => ?_)
    patience s hs.kept
  exact triple_of_fact fun hdelay _ _ ⟨hstate, h⟩ =>
    h.rested hw (.of_activated hs.sound.valid (by rw [hdelay, hstate]; rfl))

theorem rested_switchDelay (on : Bool) :
    Ensures (Rested fit onAlarm) (switchDelay parts on) fun _ => Rested fit onAlarm := by
  intro patience s hs
  have switched : Ensures (Kept fit onAlarm (.between s.memory.1 s.memory.1.delay s.sleeperEvents))
      (s.memory.1.setDelayEnabled parts on).run fun answer t => match answer with
        | .ok after => after.Sound ∧
            Kept fit onAlarm (.between s.memory.1 after.delay s.sleeperEvents) t
        | .error _ => Rested fit onAlarm t := by
    rw [Uptime.run_setDelayEnabled]
    cases hd : s.memory.1.delay with
    | none =>
      refine triple_pure _ fun t h => ?_
      rw [← hd] at h
      exact .of_kept h hs.sound
    | some d =>
      refine Triple.bind (ensures_setFlags hw ht s.memory.1 s.sleeperEvents
        { d.flags with enabled := on } rfl) fun after => ?_
      exact triple_pure _ fun t h => ⟨h.1 ▸ hs.sound.switched hd on, h.2⟩
  refine Triple.bind switched (fun answer => ?_) patience s hs.kept
  cases answer with
  | error why => exact triple_pure _ fun _ h => h
  | ok u => exact fun _ _ h => h.2.rested hw h.1

end Parts

end Scene

end Msp430
