import Msp430.Proofs.Timer.Scene

/-!
What the journal of a scene tells of its alarms, and how the slots follow it.
-/
namespace Msp430

/-- The setting of an alarm that was set and has neither been called nor withdrawn since. -/
def standing (channel : Nat) : List Moment → Option UInt32
  | [] => none
  | .armed i setting :: earlier => if i = channel then some setting else standing channel earlier
  | .withdrawn i :: earlier => if i = channel then none else standing channel earlier
  | .called i _ :: earlier => if i = channel then none else standing channel earlier
  | .passed _ :: earlier => standing channel earlier
  | .counted _ :: earlier => standing channel earlier

def timesSet (channel : Nat) : List Moment → Nat
  | [] => 0
  | .armed i _ :: earlier => timesSet channel earlier + if i = channel then 1 else 0
  | _ :: earlier => timesSet channel earlier

def timesCalled (channel : Nat) : List Moment → Nat
  | [] => 0
  | .called i _ :: earlier => timesCalled channel earlier + if i = channel then 1 else 0
  | _ :: earlier => timesCalled channel earlier

/-- Each call answers to a setting that stood and that the count had reached. -/
abbrev Orderly : List Moment → Prop :=
  Throughout fun moment earlier => ∀ channel now, moment = .called channel now →
    ∃ setting, standing channel earlier = some setting ∧ ticksUntil setting now ≤ 0

/-- An alarm that still stands was set once more often than called. -/
theorem timesCalled_le {journal : List Moment} (h : Orderly journal) (channel : Nat) :
    timesCalled channel journal + (if (standing channel journal).isSome then 1 else 0) ≤
      timesSet channel journal := by
  induction journal with
  | nil => simp [timesCalled, timesSet, standing]
  | cons moment journal ih =>
    have hearlier : Orderly ([moment] ++ journal) := h
    have hi := ih hearlier.of_append
    cases moment with
    | called i now =>
      by_cases hc : i = channel
      · subst hc
        obtain ⟨setting, hs, -⟩ := h [] _ journal rfl i now rfl
        simp [timesCalled, timesSet, standing, hs] at hi ⊢
        omega
      · simpa [timesCalled, timesSet, standing, hc] using hi
    | armed i setting =>
      by_cases hc : i = channel
      · simp [timesCalled, timesSet, standing, hc] at hi ⊢
        omega
      · simpa [timesCalled, timesSet, standing, hc] using hi
    | withdrawn i =>
      by_cases hc : i = channel
      · simp [timesCalled, timesSet, standing, hc] at hi ⊢
        omega
      · simpa [timesCalled, timesSet, standing, hc] using hi
    | passed ticks => exact hi
    | counted count => exact hi

/-! ## Slots and journal -/

/-- What decides which handlers of alarms are called. -/
structure Books (H : Type) where
  slot : Fin maxChannels → AlarmSlot H
  journal : List Moment

namespace Books

variable {H : Type}

/-- A slot that is armed holds the setting that stands. -/
structure Faithful (b : Books H) : Prop where
  orderly : Orderly b.journal
  stands : ∀ i : Fin maxChannels, (b.slot i).armed = true →
    standing i b.journal = some (b.slot i).setting

/-- The slot was read and has not changed since. -/
structure Seen (i : Fin maxChannels) (slot : AlarmSlot H) (b : Books H) : Prop
    extends Faithful b where
  seen : b.slot i = slot

/-- The alarm of the channel is not armed, whatever stands. -/
structure Idle (channel : Nat) (b : Books H) : Prop extends Faithful b where
  idle : ∀ i : Fin maxChannels, i.val = channel → (b.slot i).armed = false

/-- The alarm was armed and is due, and has just been disarmed. -/
structure Due (channel : Nat) (now : UInt32) (b : Books H) : Prop extends Idle channel b where
  due : ∃ setting, standing channel b.journal = some setting ∧ ticksUntil setting now ≤ 0

/-- The slot was armed, which the journal does not tell yet. -/
structure Arming (i : Fin maxChannels) (setting : UInt32) (b : Books H) : Prop where
  orderly : Orderly b.journal
  setting : (b.slot i).setting = setting
  stands : ∀ j : Fin maxChannels, i ≠ j → (b.slot j).armed = true →
    standing j b.journal = some (b.slot j).setting

def modifySlot (b : Books H) (i : Fin maxChannels) (f : AlarmSlot H → AlarmSlot H) : Books H :=
  { b with slot := fun j => if i = j then f (b.slot i) else b.slot j }

def enter (b : Books H) (moment : Moment) : Books H := { b with journal := moment :: b.journal }

theorem slot_modifySlot (b : Books H) (i j : Fin maxChannels) (f : AlarmSlot H → AlarmSlot H) :
    (b.modifySlot i f).slot j = if i = j then f (b.slot i) else b.slot j := rfl

variable {b : Books H} {i : Fin maxChannels} {channel : Nat} {f : AlarmSlot H → AlarmSlot H}

/-- Slots may change as long as they arm nothing. -/
theorem Faithful.modifySlot (h : b.Faithful)
    (hf : ∀ slot, (f slot).armed = true → slot.armed = true ∧ (f slot).setting = slot.setting) :
    (b.modifySlot i f).Faithful where
  orderly := h.orderly
  stands j ha := by
    rw [slot_modifySlot] at ha ⊢
    by_cases hij : i = j
    · subst hij
      rw [if_pos rfl] at ha ⊢
      obtain ⟨harmed, hsetting⟩ := hf _ ha
      rw [hsetting]
      exact h.stands i harmed
    · rw [if_neg hij] at ha ⊢
      exact h.stands j ha

theorem Idle.modifySlot (h : b.Idle channel)
    (hf : ∀ slot, (f slot).armed = true → slot.armed = true ∧ (f slot).setting = slot.setting) :
    (b.modifySlot i f).Idle channel where
  toFaithful := h.toFaithful.modifySlot hf
  idle j hj := by
    have hidle := h.idle j hj
    rw [slot_modifySlot]
    by_cases hij : i = j
    · subst hij
      rw [if_pos rfl]
      cases ha : (f (b.slot i)).armed with
      | false => rfl
      | true => rw [(hf _ ha).1] at hidle; cases hidle
    · rw [if_neg hij]
      exact hidle

theorem Faithful.disarm (h : b.Faithful) (hf : ∀ slot, (f slot).armed = false) :
    (b.modifySlot i f).Idle i where
  toFaithful := h.modifySlot fun slot ha => by rw [hf] at ha; cases ha
  idle j hj := by
    rw [slot_modifySlot, if_pos (Fin.ext hj.symm)]
    exact hf _

theorem Seen.take {slot : AlarmSlot H} {now : UInt32} (h : b.Seen i slot)
    (ha : slot.armed = true) (hd : ticksUntil slot.setting now ≤ 0)
    (hf : ∀ slot, (f slot).armed = false) : (b.modifySlot i f).Due i now where
  toIdle := h.disarm hf
  due := ⟨slot.setting, by rw [← h.seen] at ha ⊢; exact h.stands i ha, hd⟩

theorem Faithful.arm (h : b.Faithful) (setting : UInt32) :
    (b.modifySlot i fun slot => { slot with setting, armed := true }).Arming i setting where
  orderly := h.orderly
  setting := by rw [slot_modifySlot, if_pos rfl]
  stands j hij ha := by
    rw [slot_modifySlot, if_neg hij] at ha ⊢
    exact h.stands j ha

/-! ### Entries -/

theorem Arming.enter {setting : UInt32} (h : b.Arming i setting) :
    (b.enter (.armed i setting)).Faithful where
  orderly := h.orderly.cons fun _ _ he => by cases he
  stands j ha := by
    by_cases hij : i = j
    · subst hij
      simp only [Books.enter, standing, if_true]
      rw [h.setting]
    · have hne : ¬ i.val = j.val := fun he => hij (Fin.ext he)
      simp only [Books.enter, standing, if_neg hne]
      exact h.stands j hij ha

theorem Idle.withdraw (h : b.Idle channel) : (b.enter (.withdrawn channel)).Faithful where
  orderly := h.orderly.cons fun _ _ he => by cases he
  stands j ha := by
    have hne : ¬ channel = j.val := fun he => by
      rw [show ((b.enter (.withdrawn channel)).slot j).armed = false from h.idle j he.symm] at ha
      cases ha
    simp only [Books.enter, standing, if_neg hne]
    exact h.stands j ha

theorem Due.call {now : UInt32} (h : b.Due channel now) :
    (b.enter (.called channel now)).Faithful where
  orderly := h.orderly.cons fun i n he => by
    cases he
    exact h.due
  stands j ha := by
    have hne : ¬ channel = j.val := fun he => by
      rw [show ((b.enter (.called channel now)).slot j).armed = false from h.idle j he.symm] at ha
      cases ha
    simp only [Books.enter, standing, if_neg hne]
    exact h.stands j ha

end Books

end Msp430
