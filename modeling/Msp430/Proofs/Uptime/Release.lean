import Msp430.Proofs.Uptime.Flags

/-!
Releasing an uptime clock. However the clock was used, giving it up stops the timer and empties the
slot of its alarm, on a channel whose interrupt and flag are off. Nothing else that others have of
the timer is touched, and a clock that is started anew finds its channel free and counts from zero.
-/
namespace Msp430

namespace SimTimer

variable {c : Nat}

theorem flagged_clearFlag (t : SimTimer c) (clock : ClockModule) (i : Nat) {channel : SimChannel}
    (h : (t.changeChannel clock i (clearBits ChannelControl.interruptFlag)).channels[i]? =
      some channel) : channel.flagged = false := by
  rw [changeChannel, writeChannel, channels_modifyChannel, if_pos rfl] at h
  obtain ⟨before, -, rfl⟩ := Option.map_eq_some_iff.mp h
  exact anyBits_clear_self ..

end SimTimer

namespace Scene

open Run

variable {c : Nat} {H M : Type}
variable {clock : Uptime × Bedside (Switched M) → ClockModule} {notify : Notify (Registry c H M) H}
variable {own : Option (Fin maxChannels)} {s t : Registry c H M} {E : Registry c H M → Prop}

/-! ## What others have -/

/-- The slots but for the one of the delay alarm. -/
def otherSlots (own : Option (Fin maxChannels)) (s : Registry c H M) :
    Nat → Option (AlarmSlot H) :=
  fun j => if own.map Fin.val = some j then none else s.shared.slots[j]?

/-- The registers of the channels but for the one of the delay alarm. -/
def otherChannels (own : Option (Fin maxChannels)) (s : Registry c H M) : Nat → Option SimChannel :=
  fun j => if own.map Fin.val = some j then none else s.registers.channels[j]?

/-- Whether the timer stands still, and what others have of it. -/
def elsewhere (own : Option (Fin maxChannels)) (s : Registry c H M) :
    Bool × Vector (Option H) chainLength × (Nat → Option (AlarmSlot H)) ×
      (Nat → Option SimChannel) :=
  (s.registers.stopped, s.shared.chain, otherSlots own s, otherChannels own s)

theorem otherSlots_modifySlot (i : Fin maxChannels) (f : AlarmSlot H → AlarmSlot H) :
    otherSlots (some i) { s with shared := s.shared.modifySlot i f } = otherSlots (some i) s := by
  funext j
  by_cases hj : i.val = j
  · simp [otherSlots, hj]
  · simp only [otherSlots, Option.map_some, Option.some.injEq, hj, if_false]
    exact Vector.getElem?_set_ne i.isLt hj

theorem elsewhere_access {i : Fin maxChannels} {registers : SimTimer c}
    (hstopped : registers.stopped = s.registers.stopped)
    (hchannels : ∀ j, i.val ≠ j → registers.channels[j]? = s.registers.channels[j]?) :
    elsewhere (some i) { s with registers } = elsewhere (some i) s := by
  have hothers : otherChannels (some i) { s with registers } = otherChannels (some i) s := by
    funext j
    by_cases hj : i.val = j
    · simp [otherChannels, hj]
    · simp only [otherChannels, Option.map_some, Option.some.injEq, hj, if_false]
      exact hchannels j hj
  simp only [elsewhere, hothers, hstopped]
  rfl

/-- What is done with the channel of the alarm does not reach what others have. -/
theorem indifferent_elsewhere (i : Fin maxChannels)
    (v : Bool × Vector (Option H) chainLength × (Nat → Option (AlarmSlot H)) ×
      (Nat → Option SimChannel)) :
    (timer clock notify : Timer (Registry c H M) H).IndifferentAt i (fun _ => True)
      (fun s => elsewhere (some i) s = v) E := by
  have hcounter : (timer clock notify : Timer (Registry c H M) H).counter.Leaves
      (elsewhere (some i)) := by
    apply Timer.leaves_counter
    · intro v patience s hs
      refine (elsewhere_access s.registers.stopped_readCount fun j _ => ?_).trans hs
      rw [SimTimer.channels_readCount]
    · exact fun _ _ _ hs => hs
  constructor
  · intro f _ patience s hs
    rw [← hs]
    change elsewhere (some i) { s with shared := s.shared.modifySlot i f } = _
    simp only [elsewhere, otherSlots_modifySlot]
    rfl
  · intro patience s hs
    refine (elsewhere_access ?_ fun j hj => ?_).trans hs
    · exact SimTimer.eq_of_core (SimTimer.core_readChannel ..) SimTimer.stopped
    · exact SimTimer.channels_readChannel_other _ _ hj
  · intro bits patience s hs
    refine (elsewhere_access ?_ fun j hj => ?_).trans hs
    · exact SimTimer.eq_of_core (SimTimer.core_writeChannel ..) SimTimer.stopped
    · exact (SimTimer.channels_modifyChannel ..).trans (if_neg hj)
  · intro count patience s hs
    refine (elsewhere_access ?_ fun j hj => ?_).trans hs
    · exact s.registers.stopped_writeCompare i count
    · exact (SimTimer.channels_writeCompare ..).trans (if_neg hj)
  · apply hcounter.keeps_of_answers (Timer.answers_counter answers_simPort)
    exact fun _ _ ht hs => ht.trans hs

/-! ## Giving up the alarm -/

/-- Nobody has the channel, and nothing is left of its last alarm. -/
structure Vacated (i : Fin maxChannels) (s : Registry c H M) : Prop where
  handler : (s.shared.slot i).handler = none
  enabled : (s.shared.slot i).enabled = false
  armed : (s.shared.slot i).armed = false
  interrupting : s.registers.interrupting i = false
  flag : ∀ channel, s.registers.channels[i.val]? = some channel → channel.flagged = false

/-- Whatever state the channel is in. -/
theorem ensures_vacated (a : Alarm) :
    Ensures (fun _ => True) (a.release (timer clock notify)) fun _ => Vacated a.channel := by
  intro patience s _
  let i := a.channel
  let off := (withdrawn clock i s).shared.modifySlot i fun slot => { slot with enabled := false }
  change Vacated i { withdrawn clock i s with
    shared := off.modifySlot i fun slot => { slot with handler := none } }
  have hwithdrawn : ((withdrawn clock i s).shared.slot i).armed = false := by
    rw [withdrawn, TimerShared.slot_modifySlot_self]
  have hoff : off.slot i = { (withdrawn clock i s).shared.slot i with enabled := false } :=
    TimerShared.slot_modifySlot_self ..
  constructor
  · rw [TimerShared.slot_modifySlot_self]
  · rw [TimerShared.slot_modifySlot_self, hoff]
  · rw [TimerShared.slot_modifySlot_self, hoff]
    exact hwithdrawn
  · exact interrupting_withdrawn clock i s
  · intro channel hchannel
    exact SimTimer.flagged_clearFlag _ _ _ hchannel

section Parts

variable {parts : UptimeParts (Registry c H M) H} (ht : parts.timer = timer clock notify)

include ht

/-- The alarm stays the same one, and others notice nothing. -/
theorem triple_setTimerActive_elsewhere {delay : Option DelayAlarm}
    (hdelay : delay.map (·.alarm.channel) = own) (active : Bool)
    (v : Bool × Vector (Option H) chainLength × (Nat → Option (AlarmSlot H)) ×
      (Nat → Option SimChannel)) :
    Triple (fun s => elsewhere own s = v) (delay.mapM fun d => d.setTimerActive parts active)
      (fun after s => after.map (·.alarm.channel) = own ∧ elsewhere own s = v) E := by
  cases delay with
  | none => exact triple_pure _ fun _ hs => ⟨hdelay, hs⟩
  | some d =>
    obtain rfl : some d.alarm.channel = own := hdelay
    have hswitched : Triple (fun s => elsewhere (some d.alarm.channel) s = v)
        (d.setTimerActive parts active)
        (fun after s => after.alarm = d.alarm ∧ elsewhere (some d.alarm.channel) s = v) E := by
      unfold DelayAlarm.setTimerActive DelayAlarm.reconcile
      rw [ht]
      split
      · exact triple_pure _ fun _ hs => ⟨rfl, hs⟩
      · apply Triple.bind ((indifferent_elsewhere d.alarm.channel v).setEnabled _)
        intro _
        exact triple_pure _ fun _ hs => ⟨rfl, hs⟩
    apply hswitched.map some
    rintro after s ⟨halarm, hs⟩
    exact ⟨congrArg (fun a : Alarm => some a.channel) halarm, hs⟩

/-- Giving up the clock always comes to an end: the timer stands still, others have what they had,
and the channel of the alarm is vacated. -/
theorem triple_free {u : Uptime} (hu : u.channel = own) (running : Bool)
    (v : Vector (Option H) chainLength × (Nat → Option (AlarmSlot H)) × (Nat → Option SimChannel)) :
    Triple (fun s => elsewhere own s = (running, v)) (u.free parts)
      (fun _ s => elsewhere own s = (true, v) ∧ ∀ i, own = some i → Vacated i s) E := by
  have hstop : Triple (fun s : Registry c H M => elsewhere own s = (running, v))
      (simPort clock : TimerPort (Registry c H M)).stop
      (fun _ s => elsewhere own s = (true, v)) E := by
    apply triple_of_start
    intro patience s hs
    refine ⟨(), _, start_changeControl _ patience s, ?_⟩
    have hstopped : (s.registers.writeControl
        (clearBits TimerControl.mode s.registers.control)).stopped = true := by
      rw [SimTimer.stopped_writeControl, anyBits_clear_self]
      rfl
    simp only [elsewhere, hstopped]
    exact congrArg (true, ·) (congrArg Prod.snd hs)
  have hsuspend : Triple (fun s => elsewhere own s = (running, v)) (u.suspend parts)
      (fun after s => after.channel = own ∧ elsewhere own s = (true, v)) E := by
    unfold Uptime.suspend
    rw [ht]
    apply Triple.bind hstop
    intro _
    apply Triple.bind (triple_setTimerActive_elsewhere ht hu false (true, v))
    intro delay
    exact triple_pure _ fun _ hs => hs
  unfold Uptime.free
  apply Triple.bind hsuspend
  intro after
  apply triple_of_fact
  intro hafter
  cases hd : after.delay with
  | none =>
    rw [Uptime.channel, hd] at hafter
    subst hafter
    exact triple_pure _ fun _ hs => ⟨hs, fun i hi => by cases hi⟩
  | some d =>
    rw [Uptime.channel, hd] at hafter
    subst hafter
    rw [ht]
    have hothers : Triple (fun s => elsewhere (some d.alarm.channel) s = (true, v))
        (d.alarm.release (timer clock notify))
        (fun _ s => elsewhere (some d.alarm.channel) s = (true, v)) E :=
      (indifferent_elsewhere d.alarm.channel (true, v)).release trivial
    have hown : Ensures (fun _ => True) (d.alarm.release (timer clock notify)) fun _ =>
        Vacated d.alarm.channel := ensures_vacated d.alarm
    apply (hothers.and hown).mono
    · exact fun _ hs => ⟨hs, trivial⟩
    · rintro _ s ⟨hs, hvacated⟩
      refine ⟨hs, fun i hi => ?_⟩
      rw [← Option.some.inj hi]
      exact hvacated
    · exact fun _ he => he

end Parts

/-! ## Starting -/

/-- Asking has an answer and leaves alone what a clock is started on. -/
def Glances (α : Type) (run : Run (Registry c H M) α) : Prop :=
  run.Answers ∧ run.Leaves fun s => (s.registers, s.shared, s.memory.1, s.memory.2.rest.switches)

theorem Glances.aside {α : Type} {run : Run (Registry c H M) α} (h : Glances α run) :
    Aside α run :=
  h.2.map fun v => (v.1.stopped, v.1.interrupting, v.2.1.slots, v.2.2.1, v.2.2.2)

theorem Glances.keeps {α : Type} {run : Run (Registry c H M) α} (h : Glances α run)
    {I : Registry c H M → Prop}
    (hi : ∀ s t, t.registers = s.registers → t.shared = s.shared → I s → I t) : Keeps I E run := by
  apply h.2.keeps_of_answers h.1
  intro s t hst
  exact hi s t (congrArg Prod.fst hst) (congrArg (·.2.1) hst)

/-- The slots of others are the ones that there were. -/
def Others (own : Option (Fin maxChannels)) (slots : Vector (AlarmSlot H) maxChannels)
    (s : Registry c H M) : Prop :=
  ∀ j, own.map Fin.val ≠ some j → s.shared.slots[j]? = slots[j]?

/-- The count is zero. What a read does to it is told apart from it. -/
structure Zeroed (reads : UInt16 × List Nat) (s : Registry c H M) : Prop where
  count : s.registers.count = 0
  overflowed : s.registers.overflowed = false
  overflows : s.shared.overflows = 0
  reads : (s.registers.readStep, s.registers.countScript) = reads

theorem Zeroed.congr {reads : UInt16 × List Nat} (h : Zeroed reads s)
    (hcore : t.registers.core = s.registers.core) (hoverflows : t.shared.overflows = 0) :
    Zeroed reads t where
  count := (SimTimer.eq_of_core hcore SimTimer.count).trans h.count
  overflowed := (SimTimer.eq_of_core hcore SimTimer.overflowed).trans h.overflowed
  overflows := hoverflows
  reads := (SimTimer.eq_of_core hcore fun r => (r.readStep, r.countScript)).trans h.reads

/-- Writing the control register can only clear the count. -/
theorem keeps_zeroed_changeControl {reads : UInt16 × List Nat} {f : UInt16 → UInt16}
    (hf : ∀ bits, anyBits TimerControl.overflowFlag (f bits) =
      anyBits TimerControl.overflowFlag bits) :
    Keeps (Zeroed reads) E ((simPort clock : TimerPort (Registry c H M)).changeControl f) := by
  apply triple_of_start
  intro patience s hs
  refine ⟨(), _, start_changeControl f patience s, ?_, ?_, hs.overflows, hs.reads⟩
  · have hcount := hs.count
    simp only [SimTimer.writeControl]
    split
    · rfl
    · exact hcount
  · exact ((anyBits_clear_other (by decide) _).trans (hf _)).trans hs.overflowed

/-- What is read off a count of zero. -/
theorem Zeroed.start_counter (h : Zeroed (0, []) s) (patience : Nat) :
    (timer clock notify).counter.start patience s = .ok 0 s := by
  have hread : s.registers.readCount = (s.registers.count, s.registers) :=
    SimTimer.readCount_steady (congrArg Prod.fst h.reads) (congrArg Prod.snd h.reads)
  have hnow : s.now = 0 := by
    rw [now, SimTimer.extended, h.overflowed, h.count, h.overflows]
    decide
  rw [start_counter_steady clock notify hread, hnow]

section Parts

variable {parts : UptimeParts (Registry c H M) H} (ht : parts.timer = timer clock notify)

include ht

/-- A fresh alarm is registered when the clock begins to run. -/
theorem keeps_resume_fresh {rates : Rates (Registry c H M)} {I : Registry c H M → Prop}
    (hrates : RatesAmong (fun _ run => Keeps I E run) rates)
    (hcontrol : Keeps I E (simPort clock : TimerPort (Registry c H M)).readControl)
    (hrun : Keeps I E (simPort clock : TimerPort (Registry c H M)).runContinuously)
    (hslot : ∀ i, own = some i → ∀ f, Keeps I E ((timer clock notify).modifySlot i f)) :
    Keeps I E (Uptime.resume ⟨own.map freshDelay, 0, 0, .suspended⟩ parts rates) := by
  have hfrequency : Keeps I E ((timer clock notify).frequency rates) := by
    have divided (rate : UInt32) : Keeps I E (do
        return rate >>> (← (timer clock notify).port.dividerShift).toUInt32) :=
      (hcontrol.bind fun _ => keeps_pure _).bind fun _ => keeps_pure _
    apply Keeps.bind (hcontrol.bind fun _ => keeps_pure _)
    intro source
    cases source with
    | aclk => exact Keeps.bind hrates.aclk divided
    | smclk => exact Keeps.bind hrates.smclk divided
    | taclk => exact Keeps.bind (keeps_pure 0) divided
    | inclk => exact Keeps.bind (keeps_pure 0) divided
  have hactivate : Keeps I E
      ((own.map freshDelay).mapM fun d => d.setTimerActive parts true) := by
    cases own with
    | none => exact keeps_pure _
    | some i =>
      have hswitched : Keeps I E ((freshDelay i).setTimerActive parts true) := by
        unfold DelayAlarm.setTimerActive DelayAlarm.reconcile
        rw [ht, if_neg (by rintro ⟨⟩)]
        apply Keeps.bind (hslot i rfl _)
        intro _
        exact keeps_pure _
      exact hswitched.map some fun _ _ hs => hs
  unfold Uptime.resume
  rw [ht]
  apply hfrequency.bind
  intro ticksPerSecond
  apply Keeps.bind hrates.mclk
  intro mclkHz
  apply hactivate.bind
  intro delay
  exact hrun.bind fun _ => keeps_pure _

/-! ### The slots of others -/

/-- The claim takes a free channel or leaves every slot alone. -/
theorem ensures_claimDelay_others {held : Uptime} {switches : List Bool}
    (slots : Vector (AlarmSlot H) maxChannels) (channel : Nat) :
    Ensures (fun s => premises s = (slots, held, switches)) (DelayAlarm.claim parts channel)
      fun delay s => delay = (freeChannel c slots channel).map freshDelay ∧
        Others (freeChannel c slots channel) slots s := by
  have hclaim : Ensures (fun s : Registry c H M => s.shared.slots = slots)
      (Alarm.claim (timer clock notify) channel parts.onAlarm).run fun answer =>
        Others (answer.toOption.map (·.channel)) slots := by
    have hnone {s : Registry c H M} (hs : s.shared.slots = slots) : Others none slots s :=
      fun j _ => by rw [hs]
    rw [Alarm.run_claim]
    split
    · split
      · apply Triple.bind (Q := fun _ s => s.shared.slots = slots)
        · exact fun _ _ hs => hs
        intro slot
        split
        · exact triple_pure _ fun _ hs => hnone hs
        · rename_i bound _
          intro patience s hs j hj
          rw [← hs]
          exact Vector.getElem?_set_ne bound fun he => hj (congrArg some he)
      · exact triple_pure _ fun _ hs => hnone hs
    · exact triple_pure _ fun _ hs => hnone hs
  unfold DelayAlarm.claim
  rw [ht]
  have hown : Ensures (fun s => premises s = (slots, held, switches))
      (Alarm.claim (timer clock notify) channel parts.onAlarm).run _ :=
    standing_claimOwn slots channel parts.onAlarm
  apply Triple.bind ((hown.and hclaim).of_imp fun s hs => ⟨hs, congrArg Prod.fst hs⟩)
  intro answer
  cases answer with
  | error why =>
    apply triple_pure
    rintro s ⟨⟨hfree, -⟩, hs⟩
    rw [hfree]
    exact ⟨rfl, hs⟩
  | ok a =>
    apply triple_pure
    rintro s ⟨⟨hfree, -⟩, hs⟩
    rw [hfree]
    exact ⟨rfl, hs⟩

/-- Starting a clock changes the slot of the channel that it claims and no other. -/
theorem ensures_start_others {rates : Rates (Registry c H M)} (hrates : RatesAmong Aside rates)
    (plan : UptimePlan) {held : Uptime} {switches : List Bool}
    (slots : Vector (AlarmSlot H) maxChannels) :
    Ensures (fun s => premises s = (slots, held, switches)) (Uptime.start parts plan rates)
      fun _ => Others (plan.delayChannel.bind (freeChannel c slots)) slots := by
  have hasked {own : Option (Fin maxChannels)} {run : Run (Registry c H M) UInt32}
      (h : Aside UInt32 run) : Ensures (Others own slots) run fun _ => Others own slots := by
    have hslots : run.Leaves fun s => s.shared.slots := h.map fun v => v.2.2.1
    apply hslots.keeps_of_congr
    · intro s t hst hs j hj
      rw [hst]
      exact hs j hj
    · exact fun _ _ => trivial
  have hresume (own : Option (Fin maxChannels)) : Ensures (Others own slots)
      (Uptime.resume ⟨own.map freshDelay, 0, 0, .suspended⟩ parts rates)
      fun _ => Others own slots := by
    apply keeps_resume_fresh ht
    · exact ⟨hasked hrates.aclk, hasked hrates.smclk, hasked hrates.mclk⟩
    · exact fun _ _ hs => hs
    · exact fun _ _ hs => hs
    · rintro i rfl f patience s hs j hj
      rw [← hs j hj]
      exact Vector.getElem?_set_ne i.isLt fun he => hj (congrArg some he)
  unfold Uptime.start
  rw [ht]
  apply Triple.bind (Q := fun _ s => premises s = (slots, held, switches)) fun _ _ hs => hs
  intro _
  apply Triple.bind (Q := fun _ s => premises s = (slots, held, switches)) fun _ _ hs => hs
  intro _
  apply Triple.bind (Q := fun _ s => premises s = (slots, held, switches)) fun _ _ hs => hs
  intro _
  apply Triple.bind (Q := fun _ s => premises s = (slots, held, switches)) fun _ _ hs => hs
  intro _
  dsimp only
  cases hplan : plan.delayChannel with
  | none =>
    apply (hresume none).of_imp
    intro s hs j _
    rw [show s.shared.slots = slots from congrArg Prod.fst hs]
  | some channel =>
    apply Triple.bind (ensures_claimDelay_others ht slots channel)
    intro delay
    apply triple_of_fact
    rintro rfl
    exact hresume _

/-! ### From zero -/

/-- The start has an end, and the count is zero. -/
theorem triple_start_zeroed {rates : Rates (Registry c H M)} (hrates : RatesAmong Glances rates)
    (plan : UptimePlan) (reads : UInt16 × List Nat) :
    Triple (fun s => (s.registers.readStep, s.registers.countScript) = reads)
      (Uptime.start parts plan rates) (fun _ => Zeroed reads) E := by
  have hslot (i : Fin maxChannels) (f : AlarmSlot H → AlarmSlot H) :
      Keeps (Zeroed reads) E ((timer clock notify).modifySlot i f) :=
    triple_modifySlot fun s hs => hs.congr rfl hs.overflows
  have hasked {run : Run (Registry c H M) UInt32} (h : Glances UInt32 run) :
      Keeps (Zeroed reads) E run := by
    apply h.keeps
    intro s t hregisters hshared hs
    exact hs.congr (congrArg SimTimer.core hregisters) (by rw [hshared]; exact hs.overflows)
  have hresume (own : Option (Fin maxChannels)) : Keeps (Zeroed reads) E
      (Uptime.resume ⟨own.map freshDelay, 0, 0, .suspended⟩ parts rates) := by
    apply keeps_resume_fresh ht
    · exact ⟨hasked hrates.aclk, hasked hrates.smclk, hasked hrates.mclk⟩
    · exact fun _ _ hs => hs
    · exact keeps_zeroed_changeControl fun _ => anyBits_replace_other (by decide) (by decide) ..
    · exact fun i _ f => hslot i f
  have hclaim (channel : Nat) : Triple (Zeroed reads) (DelayAlarm.claim parts channel)
      (fun delay s => (∃ own : Option (Fin maxChannels), delay = own.map freshDelay) ∧
        Zeroed reads s) E := by
    have halarm : Keeps (Zeroed reads) E
        (Alarm.claim (timer clock notify) channel parts.onAlarm).run := by
      apply Alarm.keeps_claim_of_writes
      · exact fun bound f _ => hslot ⟨channel, bound⟩ f
      · exact fun _ _ _ s hs => hs.congr (SimTimer.core_writeChannel ..) hs.overflows
    unfold DelayAlarm.claim
    rw [ht]
    apply Triple.bind halarm
    intro answer
    cases answer with
    | error why => exact triple_pure _ fun _ hs => ⟨⟨none, rfl⟩, hs⟩
    | ok a => exact triple_pure _ fun _ hs => ⟨⟨some a.channel, rfl⟩, hs⟩
  unfold Uptime.start
  rw [ht]
  apply Triple.bind (Q := fun _ s => (s.registers.readStep, s.registers.countScript) = reads)
  · exact fun _ _ hs => hs
  intro _
  apply Triple.bind (Q := fun _ s => s.shared.overflows = 0 ∧
    (s.registers.readStep, s.registers.countScript) = reads)
  · exact fun _ _ hs => ⟨rfl, hs⟩
  intro _
  apply Triple.bind (Q := fun _ => Zeroed reads)
  · rintro patience s ⟨hoverflows, hreads⟩
    refine ⟨?_, ?_, hoverflows, hreads⟩
    · cases plan.source <;> cases plan.divider <;> rfl
    · apply (anyBits_clear_other (by decide) _).trans
      cases plan.source <;> cases plan.divider <;> decide
  intro _
  apply Triple.bind (keeps_zeroed_changeControl fun _ => anyBits_set_other (by decide) _)
  intro _
  dsimp only
  cases plan.delayChannel with
  | none => exact hresume none
  | some channel =>
    apply Triple.bind (hclaim channel)
    intro delay
    apply triple_of_fact
    rintro ⟨own, rfl⟩
    exact hresume own

end Parts

/-! ## A whole life -/

def freeClock (parts : UptimeParts (Registry c H M) H) : Run (Registry c H M) Unit := do
  (← uptimeCell.read).free parts

/-- What giving up a clock makes of what there was. -/
structure Released (own : Option (Fin maxChannels)) (before after : Registry c H M) : Prop where
  stopped : after.registers.stopped = true
  chain : after.shared.chain = before.shared.chain
  slots : Others own before.shared.slots after
  channels : ∀ j, own.map Fin.val ≠ some j →
    after.registers.channels[j]? = before.registers.channels[j]?
  vacated : ∀ i, own = some i → Vacated i after

/-- The clock has its alarm on the channel, registered, and counts from zero where reading the count
does not move it. -/
structure Restarted (parts : UptimeParts (Registry c H M) H) (i : Fin maxChannels) (u : Uptime)
    (s : Registry c H M) : Prop where
  channel : u.channel = some i
  flags : u.flags = ⟨true, true, true, true⟩
  taken : (s.shared.slot i).handler.isSome = true
  enabled : (s.shared.slot i).enabled = true
  now : s.registers.readStep = 0 → s.registers.countScript = [] →
    ∀ patience, parts.now.start patience s = .ok 0 s

theorem released_of_elsewhere {v : Vector (Option H) chainLength × (Nat → Option (AlarmSlot H)) ×
      (Nat → Option SimChannel)} {running : Bool} (hs : elsewhere own s = (running, v))
    (ht : elsewhere own t = (true, v)) (hvacated : ∀ i, own = some i → Vacated i t) :
    Released own s t := by
  have hsame : (elsewhere own t).2 = (elsewhere own s).2 := by rw [ht, hs]
  constructor
  case stopped => exact congrArg Prod.fst ht
  case chain => exact congrArg (·.1) hsame
  case slots =>
    intro j hj
    have hslot := congrFun (congrArg (·.2.1) hsame) j
    simpa only [elsewhere, otherSlots, if_neg hj] using hslot
  case channels =>
    intro j hj
    have hchannel := congrFun (congrArg (·.2.2) hsame) j
    simpa only [elsewhere, otherChannels, if_neg hj] using hchannel
  case vacated => exact hvacated

/-- A channel that was free once is free again when it is vacated. -/
theorem freeChannel_of_vacated {slots : Vector (AlarmSlot H) maxChannels} {channel : Nat}
    {i : Fin maxChannels} (h : freeChannel c slots channel = some i) (hi : Vacated i t) :
    freeChannel c t.shared.slots channel = some i := by
  unfold freeChannel at h ⊢
  by_cases hbound : channel < maxChannels
  · rw [dif_pos hbound] at h ⊢
    by_cases hfree : channel < c ∧ slots[channel].handler.isSome = false
    · rw [if_pos hfree] at h
      obtain rfl := Option.some.inj h
      have hhandler : t.shared.slots[channel].handler = none := hi.handler
      rw [if_pos ⟨hfree.1, by rw [hhandler]; rfl⟩]
    · rw [if_neg hfree] at h
      cases h
  · rw [dif_neg hbound] at h
    cases h

theorem start_again {parts : UptimeParts (Registry c H M) H} (ht : parts.timer = timer clock notify)
    {rates : Rates (Registry c H M)} (hrates : RatesAmong Glances rates) (plan : UptimePlan)
    {i : Fin maxChannels} (hi : plan.delayChannel.bind (freeChannel c s.shared.slots) = some i)
    (patience : Nat) :
    ∃ u t, (Uptime.start parts plan rates).start patience s = .ok u t ∧ Restarted parts i u t ∧
      t.registers.readStep = s.registers.readStep ∧
      t.registers.countScript = s.registers.countScript := by
  let reads := (s.registers.readStep, s.registers.countScript)
  have hzeroed := triple_start_zeroed (E := fun _ => False) ht hrates plan reads
  obtain ⟨u, t, hrun, hcount⟩ := hzeroed.answers rfl patience
  have haside : RatesAmong Aside rates :=
    ⟨hrates.aclk.aside, hrates.smclk.aside, hrates.mclk.aside⟩
  have hpremises : premises s = (s.shared.slots, s.memory.1, s.memory.2.rest.switches) := rfl
  obtain ⟨hdelay, -, hstanding⟩ :=
    (standing_start ht haside plan s.shared.slots).of_start hpremises hrun
  rw [hi] at hdelay
  have henlisted := hstanding.slot _ hdelay
  refine ⟨u, t, hrun, ?_, congrArg Prod.fst hcount.reads, congrArg Prod.snd hcount.reads⟩
  constructor
  case channel =>
    rw [Uptime.channel, hdelay]
    rfl
  case flags =>
    rw [Uptime.flags, hdelay]
    rfl
  case taken => exact henlisted.taken
  case enabled => exact henlisted.enabled
  case now =>
    intro hstep hscript patience
    have hreads : reads = (0, []) := by
      rw [← hcount.reads, hstep, hscript]
    rw [hreads] at hcount
    rw [UptimeParts.now, ht]
    exact hcount.start_counter patience

section Programs

variable [DecidableEq H] {onAlarm : H} {cpu : Cpu (Registry c H M)}
variable {code : Notify (Registry c H M) H → Notify (Registry c H M) H}
variable {activity : LowPowerMode → Run (Registry c H M) Unit}
variable (hsurroundings : Surroundings (simPort clock) onAlarm Aside code activity)
variable (hcpu : CpuAmong (timer clock (.ofCode (withDelay onAlarm code))) onAlarm cpu)

include hsurroundings hcpu

/-- Take any timer, start a clock on it, with an alarm or without, use it in whatever way and give
it up: that always succeeds and stops the timer, the channel of the alarm is vacated, and what
others have of the timer is as it was. A clock that is started as before gets the same channel, and
its alarm is registered. A start only takes the slot of a free channel, so an alarm that stood in
its way is left alone from the start to the end. -/
theorem release_leaves_nothing (plan : UptimePlan) {rates : Rates (Registry c H M)}
    (hrates : RatesAmong Aside rates) {α : Type} {program : Run (Registry c H M) α}
    (hprogram : Built (DelayUse (bedsideParts (simPort clock) cpu onAlarm code activity)) program)
    {patience : Nat} {a : α} {final : Registry c H M} (hfresh : s.memory.2.rest.switches = [])
    (hreached : (do
      startClock (bedsideParts (simPort clock) cpu onAlarm code activity) plan rates
      program).start patience s = .ok a final) :
    (∀ patience u t, (Uptime.start (bedsideParts (simPort clock) cpu onAlarm code activity) plan
        rates).start patience s = .ok u t →
      Others (plan.delayChannel.bind (freeChannel c s.shared.slots)) s.shared.slots t) ∧
    ∀ patience, ∃ t,
      (freeClock (bedsideParts (simPort clock) cpu onAlarm code activity)).start patience final =
        .ok () t ∧
      Released (plan.delayChannel.bind (freeChannel c s.shared.slots)) final t ∧
      ∀ i, plan.delayChannel.bind (freeChannel c s.shared.slots) = some i →
        ∀ rates : Rates (Registry c H M), RatesAmong Glances rates → ∀ patience, ∃ u v,
          (Uptime.start (bedsideParts (simPort clock) cpu onAlarm code activity) plan rates).start
            patience t = .ok u v ∧
          Restarted (bedsideParts (simPort clock) cpu onAlarm code activity) i u v ∧
          v.registers.readStep = t.registers.readStep ∧
          v.registers.countScript = t.registers.countScript := by
  have used : Ensures (fun t => t.shared.slots = s.shared.slots ∧ t.memory.2.rest.switches = [])
      (do
        startClock (bedsideParts (simPort clock) cpu onAlarm code activity) plan rates
        program) fun _ => InOrder (plan.delayChannel.bind (freeChannel c s.shared.slots)) := by
    apply Triple.bind (inOrder_startClock rfl hrates plan s.shared.slots)
    intro _
    exact keeps_built (fun _ _ => inOrder_delayUse hsurroundings hcpu) hprogram
  have hfinal := used.of_start ⟨rfl, hfresh⟩ hreached
  constructor
  · intro patience u t hstart
    exact (ensures_start_others rfl hrates plan s.shared.slots).of_start
      (Q := fun _ => Others _ s.shared.slots) (rfl : premises s = (s.shared.slots, _, _)) hstart
  · intro patience
    let own := plan.delayChannel.bind (freeChannel c s.shared.slots)
    have hfree : Triple (fun t => elsewhere own t = elsewhere own final)
        (final.memory.1.free (bedsideParts (simPort clock) cpu onAlarm code activity))
        (fun _ t => elsewhere own t = (true, (elsewhere own final).2) ∧
          ∀ i, own = some i → Vacated i t) fun _ => False :=
      triple_free rfl hfinal.channel final.registers.stopped (elsewhere own final).2
    obtain ⟨_, t, hrun, ht, hvacated⟩ := hfree.answers rfl patience
    refine ⟨t, hrun, released_of_elsewhere rfl ht hvacated, ?_⟩
    intro i hi rates hrates patience
    apply start_again rfl hrates plan
    obtain ⟨channel, hchannel, hfree⟩ := Option.bind_eq_some_iff.mp hi
    rw [hchannel]
    exact freeChannel_of_vacated hfree (hvacated i hi)

end Programs

/-- The sleep ends before its alarm, and the clock is suspended. -/
def suspendedAsleep : Run (Registry 2 Unit ClockModule) Unit := do
  discard (sleepOnce nappingParts 100 .lpm0)
  suspendClock nappingParts

theorem release_leaves_nothing_napping :
    ∃ final t u v,
      (do
        startClock nappingParts ⟨.smclk, .by1, some 1⟩ (.fixed 0 0 0)
        suspendedAsleep).start 9 beforeNap = .ok () final ∧
      (freeClock nappingParts).start 9 final = .ok () t ∧ Released (some 1) final t ∧
      (Uptime.start nappingParts ⟨.smclk, .by1, some 1⟩ (.fixed 0 0 0)).start 9 t = .ok u v ∧
      Restarted nappingParts 1 u v := by
  have reached : (do
      startClock nappingParts ⟨.smclk, .by1, some 1⟩ (.fixed 0 0 0)
      suspendedAsleep).answer? 9 beforeNap = some () := by decide +kernel
  have used : Built (DelayUse nappingParts) suspendedAsleep := by
    apply Built.andThen
    · exact .andThen (.step (.sleep 100 .lpm0)) fun _ => .done _
    · exact fun _ => .step .suspend
  have unmoved : RatesAmong Aside (.fixed 0 0 0 : Rates (Registry 2 Unit ClockModule)) :=
    ⟨leaves_pure regime 0, leaves_pure regime 0, leaves_pure regime 0⟩
  have glanced : Glances UInt32 (return 0 : Run (Registry 2 Unit ClockModule) UInt32) :=
    ⟨answers_pure 0, leaves_pure _ 0⟩
  obtain ⟨-, released⟩ := release_leaves_nothing surroundings_napping
    ⟨.done (), fun _ => .done ()⟩ ⟨.smclk, .by1, some 1⟩ unmoved used rfl (start_of_answer reached)
  obtain ⟨t, hfree, hreleased, hagain⟩ := released 9
  obtain ⟨u, v, hstart, hrestarted, -⟩ :=
    hagain 1 rfl (.fixed 0 0 0) ⟨glanced, glanced, glanced⟩ 9
  exact ⟨_, t, u, v, start_of_answer reached, hfree, hreleased, hstart, hrestarted⟩

end Scene

end Msp430
