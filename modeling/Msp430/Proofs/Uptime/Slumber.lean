import Msp430.Proofs.Uptime.Bedside

/-!
What others leave to the sleeper. Whatever they do, they do not touch the slot of the delay alarm
but for taking it when it is due, and then its handler raises the flag. So the alarm is armed until
it has fired, and neither again nor at all while nobody waits.
-/
namespace Msp430.Scene

open Run

variable {R H M : Type}

/-! ## The hardware -/

/-- All that a wait depends on beside the hardware. -/
def concerns (s : Bedroom R H M) :
    Vector (AlarmSlot H) maxChannels × Chain H × Uptime × Bool × List SleepEvent :=
  (s.shared.slots, s.shared.chain, s.memory.1, s.memory.2.fired, s.sleeperEvents)

/-- The sleeper takes no part in the other events. -/
theorem leaves_record {event : SleepEvent} (he : event.ofSleeper = false) :
    (record event : Run (Bedroom R H M) Unit).Leaves concerns := fun v _ s hs => by
  change concerns (eventsCell.set (event :: s.memory.2.events) s) = v
  rw [← hs]
  have hevents : (eventsCell.set (event :: s.memory.2.events) s).sleeperEvents = s.sleeperEvents :=
    List.filter_cons_of_neg (by rw [he]; decide)
  exact congrArg (fun events => (s.shared.slots, s.shared.chain, s.memory.1, s.memory.2.fired,
    events)) hevents

def countOverflow (s : Bedroom R H M) : Bedroom R H M :=
  { s with shared := { s.shared with overflows := s.shared.overflows + 1 } }

/-- What a timer is relied on for. `fit reached muted` says that the count has reached a setting, if
there is one to reach, and that a channel does not request interrupts, if one should not; `counted`
relates what is read from the count to where it was read. -/
structure Hardware (port : TimerPort (Bedroom R H M))
    (fit : Option UInt32 → Option (Fin maxChannels) → Bedroom R H M → Prop)
    (counted : UInt32 → Bedroom R H M → Prop) : Prop where
  spares : port.Spares concerns
  unreached : ∀ reached muted s, fit reached muted s → fit none muted s
  unmuted : ∀ reached muted s, fit reached muted s → fit reached none s
  readControl : ∀ reached muted,
    Ensures (fit reached muted) port.readControl fun _ => fit reached muted
  writeControl : ∀ muted bits,
    Ensures (fit none muted) (port.writeControl bits) fun _ => fit none muted
  readChannel : ∀ reached muted i,
    Ensures (fit reached muted) (port.readChannel i) fun _ => fit reached muted
  writeChannel : ∀ reached muted i bits, muted.map Fin.val ≠ some i →
    Ensures (fit reached muted) (port.writeChannel i bits) fun _ => fit reached muted
  mute : ∀ reached (i : Fin maxChannels) bits,
    anyBits ChannelControl.interruptEnable bits = false →
    Ensures (fit reached none) (port.writeChannel i bits) fun _ => fit reached (some i)
  clearFlag : ∀ reached (i : Fin maxChannels),
    Ensures (fit reached (some i)) (port.clearFlag i) fun _ => fit reached (some i)
  writeCompare : ∀ reached muted i count,
    Ensures (fit reached muted) (port.writeCompare i count) fun _ => fit reached muted
  readVector : ∀ reached muted, Ensures (fit reached muted) port.readVector fun vector s =>
    fit reached muted (if vector = overflowVector then countOverflow s else s)
  counter : ∀ notify reached muted,
    Ensures (fit reached muted) (onPort port notify).counter fun now s =>
      fit reached muted s ∧ counted now s ∧
        ∀ target, ticksUntil target now ≤ 0 → fit (some target) muted s
  shared : ∀ reached muted s shared, shared.overflows = s.shared.overflows →
    fit reached muted s → fit reached muted { s with shared }
  restart : ∀ muted s, fit none muted s →
    fit none muted { s with shared := { s.shared with overflows := 0 } }
  clock : ∀ reached muted s u, fit reached muted s →
    fit reached muted { s with memory := (u, s.memory.2) }
  fired : ∀ reached muted s fired, fit reached muted s → fit reached muted (firedCell.set fired s)
  asked : ∀ reached muted s answer, fit reached muted s →
    fit reached muted (eventsCell.set (.asked answer :: s.memory.2.events) s)
  slept : ∀ muted s mode, fit none muted s →
    fit none muted (eventsCell.set (.slept mode :: s.memory.2.events) s)
  woke : ∀ reached muted s, fit reached muted s →
    fit reached muted (eventsCell.set (.woke :: s.memory.2.events) s)

/-! ## What is kept -/

/-- What the sleeper knows of its surroundings. -/
structure Watch where
  clock : Uptime
  events : List SleepEvent
  /-- The channel of the delay alarm, whether the alarm is enabled, and the time it waits for. -/
  own : Option (Fin maxChannels)
  on : Bool
  target : Option UInt32

namespace Watch

variable (w : Watch)

def reached (fired : Bool) : Option UInt32 := if fired then w.target else none

/-- A delay alarm that is not armed requests no interrupt. -/
def muted (fired : Bool) : Option (Fin maxChannels) :=
  if w.target.isSome && !fired then none else w.own

/-- One more event has come. -/
def seen (event : SleepEvent) : Watch := { w with events := event :: w.events }

/-- The clock in the memory is the one that is watched. -/
structure Coherent : Prop where
  own : w.own = w.clock.channel
  on : w.target.isSome → w.on = true

variable {w} in
theorem Coherent.seen (h : w.Coherent) (event : SleepEvent) : (w.seen event).Coherent :=
  ⟨h.own, h.on⟩

end Watch

/-- The delay alarm is armed while somebody waits for it and it has not fired. -/
structure OwnSlot (onAlarm : H) (w : Watch) (fired : Bool) (slot : AlarmSlot H) : Prop where
  handler : slot.handler = some onAlarm
  enabled : slot.enabled = w.on
  armed : slot.armed = (w.target.isSome && !fired)
  setting : ∀ target, w.target = some target → slot.setting = target

/-- Nobody but the clock uses the handler. -/
structure Entries (onAlarm : H) (w : Watch) (fired : Bool) (s : Bedroom R H M) : Prop where
  clock : s.memory.1 = w.clock
  events : s.sleeperEvents = w.events
  alone : ∀ i, (s.shared.slot i).handler = some onAlarm → w.own = some i
  unchained : some onAlarm ∉ s.shared.chain
  slot : ∀ i, w.own = some i → OwnSlot onAlarm w fired (s.shared.slot i)

variable {port : TimerPort (Bedroom R H M)} {counted : UInt32 → Bedroom R H M → Prop}
variable {fit : Option UInt32 → Option (Fin maxChannels) → Bedroom R H M → Prop}
variable {onAlarm : H} {w : Watch} {fired : Bool} {s t : Bedroom R H M}

theorem Entries.congr (h : Entries onAlarm w fired s) (hc : concerns t = concerns s) :
    Entries onAlarm w fired t := by
  obtain ⟨hslots, hrest⟩ := Prod.mk.inj hc
  obtain ⟨hchain, hrest⟩ := Prod.mk.inj hrest
  obtain ⟨hclock, hrest⟩ := Prod.mk.inj hrest
  obtain ⟨-, hevents⟩ := Prod.mk.inj hrest
  have hslot (i : Fin maxChannels) : t.shared.slot i = s.shared.slot i :=
    congrArg (·[i]) hslots
  exact {
    clock := hclock.trans h.clock
    events := hevents.trans h.events
    alone := fun i hi => h.alone i (by rw [← hslot]; exact hi)
    unchained := by rw [hchain]; exact h.unchained
    slot := fun i hi => by rw [hslot]; exact h.slot i hi }

variable (fit onAlarm w) in
/-- The entries and the hardware are as they are when the flag is up, or when it is down. -/
structure KeptAs (fired : Bool) (s : Bedroom R H M) : Prop where
  entries : Entries onAlarm w fired s
  hardware : fit (w.reached fired) (w.muted fired) s

variable (fit onAlarm w) in
def Kept (s : Bedroom R H M) : Prop := KeptAs fit onAlarm w s.memory.2.fired s

theorem concerns_fired (hc : concerns t = concerns s) : t.memory.2.fired = s.memory.2.fired :=
  congrArg (·.2.2.2.1) hc

/-- A run that leaves the concerns to others does to the hardware what it does. -/
theorem ensures_kept {α : Type} {run : Run (Bedroom R H M) α}
    {Q : Bool → α → Bedroom R H M → Prop} (hl : run.Leaves concerns)
    (hf : ∀ fired, Ensures (fit (w.reached fired) (w.muted fired)) run (Q fired)) :
    Ensures (Kept fit onAlarm w) run fun a s =>
      Entries onAlarm w s.memory.2.fired s ∧ Q s.memory.2.fired a s := by
  intro patience s hs
  have hleft := hl (concerns s) patience s rfl
  have hfit := hf s.memory.2.fired patience s hs.hardware
  cases hrun : run.start patience s with
  | error why t => trivial
  | ok a t =>
    simp only [hrun] at hleft hfit ⊢
    rw [concerns_fired hleft]
    exact ⟨hs.entries.congr hleft, hfit⟩

theorem keeps_kept {α : Type} {run : Run (Bedroom R H M) α} (hl : run.Leaves concerns)
    (hf : ∀ fired, Ensures (fit (w.reached fired) (w.muted fired)) run
      fun _ => fit (w.reached fired) (w.muted fired)) :
    Ensures (Kept fit onAlarm w) run fun _ => Kept fit onAlarm w :=
  (ensures_kept hl hf).weaken fun _ _ h => ⟨h.1, h.2⟩

variable (hw : Hardware port fit counted)

/-! ## Other channels -/

section Others

variable {notify : Notify (Bedroom R H M) H} {i : Fin maxChannels}

theorem Entries.modifySlot (h : Entries onAlarm w fired s) (hi : w.own ≠ some i)
    {f : AlarmSlot H → AlarmSlot H}
    (hf : ∀ slot, (f slot).handler = slot.handler ∨ (f slot).handler ≠ some onAlarm) :
    Entries onAlarm w fired { s with shared := s.shared.modifySlot i f } where
  clock := h.clock
  events := h.events
  alone j hj := by
    by_cases hij : i = j
    · subst hij
      change ((s.shared.modifySlot i f).slot i).handler = _ at hj
      rw [TimerShared.slot_modifySlot_self] at hj
      rcases hf (s.shared.slot i) with hsame | hother
      · exact h.alone i (hsame ▸ hj)
      · exact absurd hj hother
    · change ((s.shared.modifySlot i f).slot j).handler = _ at hj
      rw [TimerShared.slot_modifySlot_other _ _ _ hij] at hj
      exact h.alone j hj
  unchained := h.unchained
  slot j hj := by
    have hij : i ≠ j := fun he => hi (he ▸ hj)
    change OwnSlot onAlarm w fired ((s.shared.modifySlot i f).slot j)
    rw [TimerShared.slot_modifySlot_other _ _ _ hij]
    exact h.slot j hj

theorem Entries.chain (h : Entries onAlarm w fired s) {chain : Chain H}
    (hchain : ∀ x, some x ∈ chain → some x ∈ s.shared.chain ∨ x ≠ onAlarm) :
    Entries onAlarm w fired { s with shared := { s.shared with chain } } where
  clock := h.clock
  events := h.events
  alone := h.alone
  unchained hm := (hchain onAlarm hm).elim h.unchained fun hne => hne rfl
  slot := h.slot

theorem muted_ne (hi : w.own ≠ some i) (fired : Bool) :
    (w.muted fired).map Fin.val ≠ some i.val := by
  unfold Watch.muted
  split
  · exact fun h => by cases h
  · intro h
    obtain ⟨j, hj, he⟩ := Option.map_eq_some_iff.mp h
    exact hi (hj.trans (congrArg some (Fin.ext he)))

include hw

theorem indifferentAt (hi : w.own ≠ some i) : (onPort port notify).IndifferentAt i
    (· ≠ some onAlarm) (Kept fit onAlarm w) fun _ => True where
  modifySlot f hf := fun _ s h =>
    ⟨h.entries.modifySlot hi hf, hw.shared _ _ s (s.shared.modifySlot i f) rfl h.hardware⟩
  readChannel := keeps_kept (hw.spares.readChannel i) fun _ => hw.readChannel _ _ _
  writeChannel bits := keeps_kept (hw.spares.writeChannel i bits) fun fired =>
    hw.writeChannel _ _ _ _ (muted_ne hi fired)
  writeCompare count := keeps_kept (hw.spares.writeCompare i count) fun _ =>
    hw.writeCompare _ _ _ _
  counter := keeps_kept (Timer.counter_leaves hw.spares) fun _ =>
    (hw.counter notify _ _).weaken fun _ _ h => h.1

theorem Kept.chain (h : Kept fit onAlarm w s) {chain : Chain H}
    (hchain : ∀ x, some x ∈ chain → some x ∈ s.shared.chain ∨ x ≠ onAlarm) :
    Kept fit onAlarm w { s with shared := { s.shared with chain } } :=
  ⟨h.entries.chain hchain, hw.shared _ _ _ _ rfl h.hardware⟩

end Others

/-! ## The delay's own channel -/

/-- Where a handler is called: the one of the delay has its alarm behind it. -/
def Ready [DecidableEq H] (fit : Option UInt32 → Option (Fin maxChannels) → Bedroom R H M → Prop)
    (onAlarm : H) (w : Watch) (h : H) (s : Bedroom R H M) : Prop :=
  KeptAs fit onAlarm w (if h = onAlarm then true else s.memory.2.fired) s

section Own

variable {notify : Notify (Bedroom R H M) H} {i : Fin maxChannels}

/-- What the concerns decide stays beside what a run does to the hardware. -/
theorem ensures_beside {α : Type} {run : Run (Bedroom R H M) α} {C P : Bedroom R H M → Prop}
    {Q : α → Bedroom R H M → Prop} (hl : run.Leaves concerns)
    (hc : ∀ s t, concerns t = concerns s → C s → C t) (hf : Ensures P run Q) :
    Ensures (fun s => C s ∧ P s) run fun a s => C s ∧ Q a s :=
  (Triple.and (hl.keeps_of_congr hc fun _ _ => trivial : Keeps C (fun _ => True) run) hf).mono
    (fun _ h => h) (fun _ _ h => h) fun _ _ => trivial

include hw

/-- Switching the interrupt of a channel off. -/
theorem ensures_disableChannel (reached : Option UInt32) :
    Ensures (fit reached none) (port.disableChannel i) fun _ => fit reached (some i) := by
  refine Triple.bind (hw.readChannel reached none i) fun bits => ?_
  exact hw.mute reached i _ (anyBits_clear_self ..)

/-- The flag of any channel can be cleared. -/
theorem keeps_clearFlag (i : Nat) (reached : Option UInt32) (muted : Option (Fin maxChannels)) :
    Ensures (fit reached muted) (port.clearFlag i) fun _ => fit reached muted := by
  by_cases hi : muted.map Fin.val = some i
  · obtain ⟨j, rfl, rfl⟩ := Option.map_eq_some_iff.mp hi
    exact hw.clearFlag reached j
  · refine Triple.bind (hw.readChannel reached muted i) fun bits => ?_
    exact hw.writeChannel reached muted i _ hi

omit hw in
/-- What the clock does to its slot turns one watch into another. -/
theorem Entries.modifyOwn (h : Entries onAlarm w fired s) (w' : Watch) {fired' : Bool}
    (hi : w.own = some i) (hclock : w'.clock = w.clock) (hevents : w'.events = w.events)
    (hown : w'.own = w.own) {f : AlarmSlot H → AlarmSlot H}
    (hf : ∀ slot, OwnSlot onAlarm w fired slot → OwnSlot onAlarm w' fired' (f slot)) :
    Entries onAlarm w' fired' { s with shared := s.shared.modifySlot i f } where
  clock := h.clock.trans hclock.symm
  events := h.events.trans hevents.symm
  alone j hj := by
    by_cases hij : i = j
    · rw [hown, hi, hij]
    · change ((s.shared.modifySlot i f).slot j).handler = _ at hj
      rw [TimerShared.slot_modifySlot_other _ _ _ hij] at hj
      rw [hown]
      exact h.alone j hj
  unchained := h.unchained
  slot j hj := by
    obtain rfl : i = j := Option.some.inj (hi.symm.trans (hown ▸ hj))
    change OwnSlot onAlarm w' fired' ((s.shared.modifySlot i f).slot i)
    rw [TimerShared.slot_modifySlot_self]
    exact hf _ (h.slot i hi)

variable [DecidableEq H]

/-- The delay alarm is taken while somebody waits for it, once its time has come. -/
theorem ensures_takeDue_waiting {target : UInt32} (hown : w.own = some i)
    (htarget : w.target = some target) :
    Ensures (fun s => (s.memory.2.fired = false ∧ Entries onAlarm w false s) ∧ fit none none s)
      (do
        let now ← (onPort port notify).counter
        if ticksUntil target now > 0 then
          return none
        else
          (onPort port notify).modifySlot i fun slot => { slot with armed := false }
          (onPort port notify).port.disableChannel i
          return (← (onPort port notify).slot i).handler.map (·, now))
      fun due s => match due with
        | some (h, _) => Ready fit onAlarm w h s
        | none => Kept fit onAlarm w s := by
  refine Triple.bind (ensures_beside (Timer.counter_leaves hw.spares) (fun s t hc h =>
    ⟨(concerns_fired hc).trans h.1, h.2.congr hc⟩) (hw.counter notify none none)) fun now => ?_
  by_cases hd : ticksUntil target now > 0
  · rw [if_pos hd]
    refine triple_pure _ fun s ⟨⟨hfired, hentries⟩, hfit, _⟩ => ?_
    unfold Kept
    rw [hfired]
    refine ⟨hentries, ?_⟩
    rw [Watch.reached, Watch.muted, htarget]
    exact hfit
  · rw [if_neg hd]
    refine Triple.bind (Q := fun _ s => Entries onAlarm w true s ∧ fit (some target) none s)
      (fun _ s ⟨⟨_, hentries⟩, _, _, hreached⟩ => ⟨?_, ?_⟩) fun _ => ?_
    · refine hentries.modifyOwn w hown rfl rfl rfl fun slot hslot => ?_
      exact ⟨hslot.handler, hslot.enabled, by rw [Bool.not_true, Bool.and_false], hslot.setting⟩
    · exact hw.shared _ _ _ _ rfl (hreached target (Int32.not_lt.mp hd))
    refine Triple.bind (ensures_beside (hw.spares.changeChannel i _)
      (fun s t hc h => Entries.congr h hc) (ensures_disableChannel hw (some target))) fun _ => ?_
    intro patience s ⟨hentries, hfit⟩
    have hhandler : (s.shared.slot i).handler = some onAlarm := (hentries.slot i hown).handler
    change (match (s.shared.slot i).handler.map (·, now) with
      | some (h, _) => Ready fit onAlarm w h s
      | none => Kept fit onAlarm w s)
    rw [hhandler]
    change KeptAs fit onAlarm w (if onAlarm = onAlarm then true else s.memory.2.fired) s
    rw [if_pos rfl]
    refine ⟨hentries, ?_⟩
    rw [Watch.reached, Watch.muted, if_pos rfl, htarget, Bool.not_true, Bool.and_false,
      if_neg (by decide), hown]
    exact hfit

theorem ensures_takeDue_own (hown : w.own = some i) (hon : w.target.isSome → w.on = true) :
    Ensures (Kept fit onAlarm w) ((onPort port notify).takeDue i) fun due s => match due with
      | some (h, _) => Ready fit onAlarm w h s
      | none => Kept fit onAlarm w s := by
  unfold Timer.takeDue
  rw [dif_pos i.isLt]
  refine Triple.bind (Q := fun slot s => Kept fit onAlarm w s ∧ slot = s.shared.slot i)
    (fun _ s h => ⟨h, rfl⟩) fun slot => ?_
  by_cases hs : (slot.enabled && slot.armed) = true
  · rw [if_pos hs]
    intro patience s ⟨h, he⟩
    obtain ⟨-, harmed⟩ := Bool.and_eq_true_iff.mp hs
    have hslot := h.entries.slot i hown
    rw [he, hslot.armed, Bool.and_eq_true_iff] at harmed
    obtain ⟨target, htarget⟩ := Option.isSome_iff_exists.mp harmed.1
    have hfired : s.memory.2.fired = false := by simpa using harmed.2
    have hsetting : slot.setting = target := he ▸ hslot.setting target htarget
    rw [hsetting]
    refine ensures_takeDue_waiting hw hown htarget patience s ⟨⟨hfired, hfired ▸ h.entries⟩, ?_⟩
    exact hw.unmuted _ _ _ (hw.unreached _ _ _ h.hardware)
  · rw [if_neg hs]
    refine Triple.bind (Q := fun _ => Kept fit onAlarm w) ?_ fun _ => triple_pure _ fun _ h => h
    intro patience s ⟨h, he⟩
    have hslot := h.entries.slot i hown
    -- an alarm that waits is enabled and armed, so this one does not wait
    have hidle : (w.target.isSome && !s.memory.2.fired) = false := by
      refine Bool.eq_false_iff.mpr fun hwaits => hs ?_
      rw [he, hslot.armed, hslot.enabled, hwaits,
        hon (Bool.and_eq_true_iff.mp hwaits).1, Bool.and_self]
    have hmuted : w.muted s.memory.2.fired = some i := by
      rw [Watch.muted, hidle, if_neg (by decide), hown]
    have disabled := ensures_beside (C := fun t => t.memory.2.fired = s.memory.2.fired ∧
        Entries onAlarm w s.memory.2.fired t) (hw.spares.changeChannel i _)
      (fun _ _ hc ht => ⟨(concerns_fired hc).trans ht.1, ht.2.congr hc⟩)
      (ensures_disableChannel (i := i) hw (w.reached s.memory.2.fired))
    refine disabled.weaken (fun _ t ⟨⟨hfired, hentries⟩, hfit⟩ => ?_) patience s
      ⟨⟨rfl, h.entries⟩, hw.unmuted _ _ _ h.hardware⟩
    unfold Kept
    rw [hfired]
    exact ⟨hentries, hmuted ▸ hfit⟩

end Own

/-! ## Dispatch -/

section Dispatch

variable [DecidableEq H] {notify : Notify (Bedroom R H M) H}

theorem ready_of_ne {h : H} (hne : h ≠ onAlarm) (hs : Kept fit onAlarm w s) :
    Ready fit onAlarm w h s := by
  unfold Ready
  rw [if_neg hne]
  exact hs

/-- Handlers go on from where they are called. -/
def Heeds (fit : Option UInt32 → Option (Fin maxChannels) → Bedroom R H M → Prop) (onAlarm : H)
    (w : Watch) (notify : Notify (Bedroom R H M) H) : Prop :=
  ∀ h event, Ensures (Ready fit onAlarm w h) (notify h event) fun _ => Kept fit onAlarm w

include hw

theorem ensures_takeDue (hon : w.target.isSome → w.on = true) (channel : Nat) :
    Ensures (Kept fit onAlarm w) ((onPort port notify).takeDue channel) fun due s =>
      match due with
      | some (h, _) => Ready fit onAlarm w h s
      | none => Kept fit onAlarm w s := by
  by_cases hown : ∃ i : Fin maxChannels, i.val = channel ∧ w.own = some i
  · obtain ⟨i, rfl, hi⟩ := hown
    exact ensures_takeDue_own hw hi hon
  · have hother (bound : channel < maxChannels) : w.own ≠ some ⟨channel, bound⟩ :=
      fun h => hown ⟨_, rfl, h⟩
    refine (Timer.triple_takeDue fun bound => indifferentAt hw (hother bound)).weaken
      fun due s ⟨hs, hfound⟩ => ?_
    cases due with
    | none => exact hs
    | some found =>
      obtain ⟨i, hi, hhandler⟩ := hfound found.1 found.2 rfl
      refine ready_of_ne (fun he => hown ⟨i, hi, hs.entries.alone i ?_⟩) hs
      rw [← he]
      exact hhandler

theorem ensures_serviceAlarm (hon : w.target.isSome → w.on = true)
    (hnotify : Heeds fit onAlarm w notify) (channel : Nat) :
    Ensures (Kept fit onAlarm w) ((onPort port notify).serviceAlarm channel)
      fun _ => Kept fit onAlarm w :=
  Timer.triple_serviceAlarm_found (ensures_takeDue hw hon channel) fun h => hnotify h _

theorem ensures_dispatchFirst (hon : w.target.isSome → w.on = true)
    (hnotify : Heeds fit onAlarm w notify) :
    Ensures (Kept fit onAlarm w) (onPort port notify).dispatchFirst
      fun _ => Kept fit onAlarm w := by
  refine Triple.bind (keeps_kept (hw.spares.changeChannel 0 _) fun _ => keeps_clearFlag hw 0 _ _)
    fun _ => ?_
  exact ensures_serviceAlarm hw hon hnotify 0

theorem ensures_serviceOverflow (hnotify : Heeds fit onAlarm w notify) :
    Ensures (fun s => Kept fit onAlarm w (countOverflow s)) (onPort port notify).serviceOverflow
      fun _ => Kept fit onAlarm w := by
  refine Timer.triple_serviceOverflow_chained (fun _ _ => trivial) (fun _ h => h)
    (fun s shorter h hs => h.chain hw fun x hx => .inl (hs x hx)) fun h => ?_
  refine (hnotify h .overflow).of_imp fun s ⟨hs, hh⟩ => ready_of_ne (fun he => ?_) hs
  exact hs.entries.unchained (he ▸ hh)

theorem ensures_dispatchShared (hon : w.target.isSome → w.on = true)
    (hnotify : Heeds fit onAlarm w notify) :
    Ensures (Kept fit onAlarm w) (onPort port notify).dispatchShared
      fun _ => Kept fit onAlarm w := by
  refine Triple.bind (Q := fun vector s => if vector = overflowVector then
      Kept fit onAlarm w (countOverflow s) else Kept fit onAlarm w s)
    ((ensures_kept hw.spares.readVector fun _ => hw.readVector _ _).weaken
      fun vector s ⟨hentries, hfit⟩ => ?_) fun vector => ?_
  · split at hfit
    · rename_i hv
      rw [if_pos hv]
      exact ⟨hentries.congr rfl, hfit⟩
    · rename_i hv
      rw [if_neg hv]
      exact ⟨hentries, hfit⟩
  by_cases hz : vector = 0
  · simp only [if_pos hz]
    refine triple_pure _ fun s h => ?_
    rwa [if_neg (by rw [hz]; decide)] at h
  · simp only [if_neg hz]
    by_cases ho : vector = overflowVector
    · simp only [if_pos ho]
      exact ensures_serviceOverflow hw hnotify
    · simp only [if_neg ho]
      exact ensures_serviceAlarm hw hon hnotify _

/-! ## Others -/

omit hw [DecidableEq H] in
/-- Others may do this without the sleeper noticing. -/
structure Harmless (fit : Option UInt32 → Option (Fin maxChannels) → Bedroom R H M → Prop)
    {α : Type} (run : Run (Bedroom R H M) α) : Prop where
  leaves : run.Leaves concerns
  keeps : ∀ reached muted, Ensures (fit reached muted) run fun _ => fit reached muted

omit hw [DecidableEq H] in
theorem Harmless.kept {α : Type} {run : Run (Bedroom R H M) α} (h : Harmless fit run) :
    Ensures (Kept fit onAlarm w) run fun _ => Kept fit onAlarm w :=
  keeps_kept h.leaves fun _ => h.keeps _ _

omit [DecidableEq H] in
theorem ensures_onOther (hcoherent : w.Coherent) (a : Alarm) {α : Type}
    {run : Run (Bedroom R H M) α}
    (hrun : (onPort port notify).IndifferentAt a.channel (· ≠ some onAlarm) (Kept fit onAlarm w)
      (fun _ => True) → Ensures (Kept fit onAlarm w) run fun _ => Kept fit onAlarm w) :
    Ensures (Kept fit onAlarm w) (onOther a run) fun _ => Kept fit onAlarm w := by
  refine Triple.bind (triple_assume fun _ _ => trivial) fun _ => ?_
  intro patience s ⟨h, ha⟩
  have hother : w.own ≠ some a.channel := by
    rw [hcoherent.own, ← h.entries.clock]
    exact of_decide_eq_true ha
  exact hrun (indifferentAt hw hother) patience s h

variable {other : ∀ α : Type, Run (Bedroom R H M) α → Prop}

omit [DecidableEq H] in
/-- The channel of the delay alarm is taken, so others are refused it. -/
theorem ensures_claim (channel : Nat) {h : H} (hne : h ≠ onAlarm) :
    Ensures (Kept fit onAlarm w) (Alarm.claim (onPort port notify) channel h).run
      fun _ => Kept fit onAlarm w := by
  by_cases hown : ∃ i : Fin maxChannels, i.val = channel ∧ w.own = some i
  · obtain ⟨i, rfl, hi⟩ := hown
    rw [Alarm.run_claim, dif_pos i.isLt]
    split
    · refine Triple.bind (Q := fun slot s => Kept fit onAlarm w s ∧ slot = s.shared.slot i)
        (fun _ s hs => ⟨hs, rfl⟩) fun slot => ?_
      intro patience s ⟨hs, he⟩
      have htaken : slot.handler = some onAlarm := he ▸ (hs.entries.slot i hi).handler
      rw [htaken]
      exact hs
    · exact triple_pure _ fun _ hs => hs
  · refine Alarm.keeps_claim (fun bound => indifferentAt hw fun hi => hown ⟨_, rfl, hi⟩) ?_
    exact fun he => hne (Option.some.inj he)

theorem ensures_activity (hcoherent : w.Coherent)
    (hother : ∀ α run, other α run → Harmless fit run) (hnotify : Heeds fit onAlarm w notify)
    {α : Type} {run : Run (Bedroom R H M) α}
    (hrun : Activity (onPort port notify) onAlarm other α run) :
    Ensures (Kept fit onAlarm w) run fun _ => Kept fit onAlarm w := by
  cases hrun with
  | dispatchFirst => exact ensures_dispatchFirst hw hcoherent.on hnotify
  | dispatchShared => exact ensures_dispatchShared hw hcoherent.on hnotify
  | claim channel h hne => exact ensures_claim hw channel hne
  | setEnabled a on => exact ensures_onOther hw hcoherent a fun hi => hi.setEnabled on
  | set a setting => exact ensures_onOther hw hcoherent a fun hi => hi.set setting
  | cancel a => exact ensures_onOther hw hcoherent a fun hi => hi.cancel
  | release a => exact ensures_onOther hw hcoherent a fun hi => hi.release fun he => by cases he
  | addOverflowHandler h hne =>
    exact Timer.keeps_addOverflowHandler h fun s longer hs hlonger => hs.chain hw fun x hx =>
      (hlonger x hx).imp_right fun he => by rw [he]; exact hne
  | removeOverflowHandler h =>
    exact Timer.keeps_removeOverflowHandler h fun s shorter hs hshorter => hs.chain hw fun x hx =>
      .inl (hshorter x hx)
  | other run hrun => exact (hother _ run hrun).kept

/-- The delay's handler raises the flag for the alarm behind it; the others are active like anyone
else. -/
theorem heeds_withDelay (hcoherent : w.Coherent)
    (hother : ∀ α run, other α run → Harmless fit run)
    {code : Notify (Bedroom R H M) H → Notify (Bedroom R H M) H}
    (hcode : ∀ notify h event,
      Built (Activity (onPort port notify) onAlarm other) (code notify h event)) :
    Heeds fit onAlarm w (.ofCode (withDelay onAlarm code)) := by
  apply Notify.triple_ofCode (fun _ _ _ => trivial)
  intro notify hnotify h event
  unfold withDelay
  by_cases hh : h = onAlarm
  · rw [if_pos hh]
    refine fun patience s hs => ?_
    unfold Ready at hs
    rw [if_pos hh] at hs
    exact ⟨⟨hs.entries.clock, hs.entries.events, hs.entries.alone, hs.entries.unchained,
      hs.entries.slot⟩, hw.fired _ _ s true hs.hardware⟩
  · rw [if_neg hh]
    refine Triple.of_imp (keeps_built (fun _ _ => ensures_activity hw hcoherent hother hnotify)
      (hcode notify h event)) fun s hs => ?_
    unfold Ready at hs
    rw [if_neg hh] at hs
    exact hs

end Dispatch

end Msp430.Scene
