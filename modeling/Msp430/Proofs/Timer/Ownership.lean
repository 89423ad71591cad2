import Msp430.Proofs.Timer.Channels
import Msp430.Proofs.Timer.Operations
import Msp430.Proofs.Timer.Scene
import Msp430.Proofs.Timer.Service

/-!
Who owns the channels of a timer. An alarm that was claimed and not released yet is alive; the
slots, the interrupt enable bits and the live alarms tell the same story between any two operations,
also between those of a handler.
-/
namespace Msp430

open Run

/-- The alarms that are alive and the writes to registers, the latest first, beside the rest. -/
structure Holdings (M : Type) where
  live : List Alarm := []
  writes : List TimerAccess := []
  rest : M

/-- A simulated timer whose alarms and writes are recorded. -/
abbrev Estate (c : Nat) (H M : Type) := Scene (SimTimer c) H (Holdings M)

namespace Estate

variable {c : Nat} {H M : Type}

/-! ## Slots -/

/-- What a slot may hold, with its interrupt enabled or not, on a channel that is owned or not. -/
structure Tenure (slot : AlarmSlot H) (interrupting : Bool) (owned : Prop) : Prop where
  handler : slot.handler.isSome = true ↔ owned
  armed : slot.armed = true → slot.enabled = true
  enabled : slot.enabled = true → owned
  interrupting : owned → interrupting = slot.armed

namespace Tenure

variable {slot : AlarmSlot H} {interrupting : Bool} {owned : Prop}

theorem vacant (setting : UInt32) (interrupting : Bool) :
    Tenure ({ setting } : AlarmSlot H) interrupting False where
  handler := by simp
  armed := by simp
  enabled := by simp
  interrupting := False.elim

theorem disarm (h : Tenure slot interrupting owned) :
    Tenure { slot with armed := false } false owned where
  handler := h.handler
  armed := by simp
  enabled := h.enabled
  interrupting _ := rfl

theorem enable (h : Tenure slot interrupting owned) (howned : owned) :
    Tenure { slot with enabled := true } interrupting owned where
  handler := h.handler
  armed _ := rfl
  enabled _ := howned
  interrupting := h.interrupting

theorem disable (h : Tenure slot false owned) (hidle : slot.armed = false) :
    Tenure { slot with enabled := false } false owned where
  handler := h.handler
  armed ha := by simp [hidle] at ha
  enabled := by simp
  interrupting _ := hidle.symm

/-- A slot that has nothing to wait for may have its interrupt switched off. -/
theorem silence (h : Tenure slot interrupting owned)
    (hidle : (slot.enabled && slot.armed) = false) : Tenure slot false owned where
  handler := h.handler
  armed := h.armed
  enabled := h.enabled
  interrupting _ := by
    cases ha : slot.armed with
    | false => rfl
    | true => simp [ha, h.armed ha] at hidle

theorem claim (slot : AlarmSlot H) (h : H) :
    Tenure { slot with handler := some h, enabled := false, armed := false } false True where
  handler := by simp
  armed := by simp
  enabled := by simp
  interrupting _ := rfl

theorem arm (h : Tenure slot interrupting owned) (henabled : slot.enabled = true)
    (setting : UInt32) : Tenure { slot with setting, armed := true } true owned where
  handler := h.handler
  armed _ := henabled
  enabled := h.enabled
  interrupting _ := rfl

end Tenure

/-! ## Invariant -/

/-- The channel has a live alarm. -/
def Held (i : Fin maxChannels) (s : Estate c H M) : Prop := ⟨i⟩ ∈ s.memory.live

/-- At most one live alarm owns each channel, live alarms own channels that the timer has, and every
slot holds what its owner may have put there. -/
structure Owned (s : Estate c H M) : Prop where
  single : s.memory.live.Nodup
  present : ∀ a ∈ s.memory.live, a.channel < c
  slots : ∀ i, Tenure (s.shared.slot i) (s.registers.interrupting i) (Held i s)

/-- What decides who owns what. -/
def titles (s : Estate c H M) : (Fin maxChannels → AlarmSlot H) × (Nat → Bool) × List Alarm :=
  (s.shared.slot, s.registers.interrupting, s.memory.live)

theorem Owned.congr {s t : Estate c H M} (h : Owned s) (ht : titles t = titles s) : Owned t := by
  obtain ⟨hslots, hrest⟩ := Prod.mk.inj ht
  obtain ⟨hinterrupting, hlive⟩ := Prod.mk.inj hrest
  constructor
  · rw [hlive]
    exact h.single
  · rw [hlive]
    exact h.present
  · intro i
    unfold Held
    rw [hslots, hinterrupting, hlive]
    exact h.slots i

theorem owned_empty {s : Estate c H M} (hshared : s.shared = {}) (hlive : s.memory.live = []) :
    Owned s := by
  constructor
  · simp [hlive]
  · simp [hlive]
  · intro i
    have hslot : s.shared.slot i = {} := by
      rw [hshared]
      simp [TimerShared.slot]
    have hfree : ¬Held i s := by simp [Held, hlive]
    rw [hslot, eq_false hfree]
    exact .vacant 0 _

/-- In the middle of an operation on one channel: its slot, whether its interrupt is enabled, and
the live alarms. Everything else is as it is between operations. -/
structure Focus (i : Fin maxChannels) (slot : AlarmSlot H) (interrupting : Bool) (live : List Alarm)
    (s : Estate c H M) : Prop where
  slot : s.shared.slot i = slot
  interrupting : s.registers.interrupting i = interrupting
  live : s.memory.live = live
  others : ∀ j, i ≠ j → Tenure (s.shared.slot j) (s.registers.interrupting j) (Held j s)

variable {i : Fin maxChannels} {slot : AlarmSlot H} {on : Bool} {live : List Alarm}

theorem Owned.focus {s : Estate c H M} (h : Owned s) (i : Fin maxChannels) :
    Focus i (s.shared.slot i) (s.registers.interrupting i) s.memory.live s :=
  ⟨rfl, rfl, rfl, fun j _ => h.slots j⟩

theorem Focus.owned {s : Estate c H M} (h : Focus i slot on live s) (hsingle : live.Nodup)
    (hpresent : ∀ a ∈ live, a.channel < c) (hi : Tenure slot on (⟨i⟩ ∈ live)) : Owned s where
  single := h.live ▸ hsingle
  present := h.live ▸ hpresent
  slots j := by
    by_cases hj : i = j
    · subst hj
      rw [h.slot, h.interrupting, Held, h.live]
      exact hi
    · exact h.others j hj

/-- Changes of the registers that only matter to the channel. -/
theorem Focus.registers {s t : Estate c H M} {on' : Bool} (h : Focus i slot on live s)
    (hshared : t.shared = s.shared) (hlive : t.memory.live = s.memory.live)
    (hself : t.registers.interrupting i = on')
    (hothers : ∀ j : Nat, i.val ≠ j → t.registers.interrupting j = s.registers.interrupting j) :
    Focus i slot on' live t where
  slot := hshared ▸ h.slot
  interrupting := hself
  live := hlive.trans h.live
  others j hj := by
    rw [hshared, hothers j fun hv => hj (Fin.ext hv), Held, hlive]
    exact h.others j hj

theorem Focus.congr {s t : Estate c H M} (h : Focus i slot on live s) (ht : titles t = titles s) :
    Focus i slot on live t := by
  obtain ⟨hslots, hrest⟩ := Prod.mk.inj ht
  obtain ⟨hinterrupting, hlive⟩ := Prod.mk.inj hrest
  constructor
  · rw [hslots]
    exact h.slot
  · rw [hinterrupting]
    exact h.interrupting
  · exact hlive.trans h.live
  · intro j hj
    unfold Held
    rw [hslots, hinterrupting, hlive]
    exact h.others j hj

/-! ## Registers -/

variable {clock : Holdings M → ClockModule} {notify : Notify (Estate c H M) H}

def writesCell : Cell (Estate c H M) (List TimerAccess) where
  get s := s.memory.writes
  set writes s := { s with memory := { s.memory with writes } }

def liveCell : Cell (Estate c H M) (List Alarm) where
  get s := s.memory.live
  set live s := { s with memory := { s.memory with live } }

variable (clock notify) in
/-- The simulated timer, every write to which is recorded. -/
def timer : Timer (Estate c H M) H where
  port := SimTimer.port Scene.registersCell (return clock (← Scene.memoryCell.read))
    fun access => writesCell.update (access :: ·)
  shared := Scene.sharedCell
  notify := notify

variable {E : Estate c H M → Prop}

theorem triple_modifySlot (i : Fin maxChannels) (f : AlarmSlot H → AlarmSlot H) :
    Triple (Focus i slot on live) ((timer clock notify).modifySlot i f)
      (fun _ => Focus i (f slot) on live) E := by
  intro patience s h
  constructor
  · change (s.shared.modifySlot i f).slot i = _
    rw [TimerShared.slot_modifySlot_self, h.slot]
  · exact h.interrupting
  · exact h.live
  · intro j hj
    have hother : (s.shared.modifySlot i f).slot j = s.shared.slot j :=
      s.shared.slot_modifySlot_other i f hj
    have hold := h.others j hj
    rw [← hother] at hold
    exact hold

theorem triple_writeChannel (i : Fin maxChannels) (bits : UInt16) :
    Triple (Focus i slot on live) ((timer clock notify).port.writeChannel i bits)
      (fun _ => Focus i slot (decide (i < c) && anyBits ChannelControl.interruptEnable bits) live)
      E := by
  intro patience s h
  refine h.registers (s := s) rfl rfl ?_ ?_
  · exact SimTimer.interrupting_writeChannel _ i bits
  · intro j hj
    exact SimTimer.interrupting_writeChannel_other _ hj bits

/-- What is read of a channel tells whether its interrupt is enabled. -/
theorem triple_readChannel (i : Fin maxChannels) :
    Triple (Focus i slot on live) ((timer clock notify).port.readChannel i)
      (fun bits s => anyBits ChannelControl.interruptEnable bits = on ∧ Focus i slot on live s)
      E := by
  intro patience s h
  refine ⟨?_, h.registers (s := s) rfl rfl ?_ ?_⟩
  · exact (SimTimer.readChannel_interrupting _ _ i).trans h.interrupting
  · exact (SimTimer.interrupting_readChannel _ _ i i).trans h.interrupting
  · intro j _
    exact SimTimer.interrupting_readChannel _ _ j i

theorem triple_changeChannel (i : Fin maxChannels) {f : UInt16 → UInt16} {on' : Bool}
    (hf : ∀ bits, anyBits ChannelControl.interruptEnable bits = on →
      (decide (i < c) && anyBits ChannelControl.interruptEnable (f bits)) = on') :
    Triple (Focus i slot on live) ((timer clock notify).port.changeChannel i f)
      (fun _ => Focus i slot on' live) E := by
  apply Triple.bind (triple_readChannel i)
  intro bits
  refine triple_of_fact fun hbits => ?_
  rw [← hf bits hbits]
  exact triple_writeChannel i (f bits)

theorem triple_disableChannel (i : Fin maxChannels) :
    Triple (Focus i slot on live) ((timer clock notify).port.disableChannel i)
      (fun _ => Focus i slot false live) E := by
  apply triple_changeChannel
  intro bits _
  rw [anyBits_clear_self, Bool.and_false]

theorem triple_enableChannel (i : Fin maxChannels) :
    Triple (Focus i slot on live) ((timer clock notify).port.enableChannel i)
      (fun _ => Focus i slot (decide (i < c)) live) E := by
  apply triple_changeChannel
  intro bits _
  rw [anyBits_set_self (by decide), Bool.and_true]

/-- The flag of a channel has nothing to do with its interrupt being enabled. -/
theorem keeps_changeFlag (i : Fin maxChannels) {f : UInt16 → UInt16}
    (hf : ∀ bits, anyBits ChannelControl.interruptEnable (f bits) =
      anyBits ChannelControl.interruptEnable bits) :
    Keeps (Focus i slot on live) E ((timer clock notify).port.changeChannel i f) := by
  have present : ∀ s : Estate c H M, Focus i slot on live s →
      (on = true → i.val < c) ∧ Focus i slot on live s :=
    fun s h => ⟨fun hon => SimTimer.lt_of_interrupting (h.interrupting.trans hon), h⟩
  have changed (hi : on = true → i.val < c) :
      Keeps (Focus i slot on live) E ((timer clock notify).port.changeChannel i f) := by
    apply triple_changeChannel
    intro bits hbits
    rw [hf, hbits]
    cases on with
    | false => exact Bool.and_false _
    | true => rw [decide_eq_true (hi rfl), Bool.true_and]
  exact Triple.of_imp (triple_of_fact changed) present

theorem keeps_writeCompare (i : Fin maxChannels) (count : UInt16) :
    Keeps (Focus i slot on live) E ((timer clock notify).port.writeCompare i count) := by
  intro patience s h
  refine h.registers (s := s) rfl rfl ?_ ?_
  · exact (SimTimer.interrupting_writeCompare _ i i count).trans h.interrupting
  · intro j _
    exact SimTimer.interrupting_writeCompare _ j i count

theorem leaves_counter {τ : Type} {view : Estate c H M → τ}
    (hview : ∀ (s : Estate c H M) registers, registers.channels = s.registers.channels →
      view { s with registers } = view s) : (timer clock notify).counter.Leaves view := by
  apply Timer.leaves_counter
  · intro v patience s hs
    exact (hview s _ (s.registers.channels_readCount)).trans hs
  · exact fun _ _ _ hs => hs

theorem leaves_titles_counter :
    (timer clock notify : Timer (Estate c H M) H).counter.Leaves titles := by
  apply leaves_counter
  intro s registers hchannels
  have hinterrupting : registers.interrupting = s.registers.interrupting :=
    SimTimer.interrupting_of_channels hchannels
  exact congrArg (fun f => (s.shared.slot, f, s.memory.live)) hinterrupting

theorem answers_port : (timer clock notify : Timer (Estate c H M) H).port.Answers where
  readControl _ _ := ⟨_, _, rfl⟩
  readCount _ _ := ⟨_, _, rfl⟩
  readChannel _ _ _ := ⟨_, _, rfl⟩
  writeChannel _ _ _ _ := ⟨_, _, rfl⟩
  writeCompare _ _ _ _ := ⟨_, _, rfl⟩

theorem keeps_counter : Keeps (Focus i slot on live) E (timer clock notify).counter :=
  leaves_titles_counter.keeps_of_answers (Timer.answers_counter answers_port)
    fun _ _ ht h => h.congr ht

/-! ## Operations on the channel in focus -/

variable (a : Alarm)

theorem keeps_clearFlag (i : Fin maxChannels) :
    Keeps (Focus i slot on live) E ((timer clock notify).port.clearFlag i) :=
  keeps_changeFlag i fun bits => anyBits_clear_other (by decide) bits

theorem triple_cancel :
    Triple (Focus a.channel slot on live) (a.cancel (timer clock notify))
      (fun _ => Focus a.channel { slot with armed := false } false live) E := by
  apply Triple.bind (Q := fun _ => Focus a.channel slot on live)
  · exact fun _ _ h => h
  intro _
  apply Triple.bind (triple_modifySlot a.channel _)
  intro _
  apply Triple.bind (triple_disableChannel a.channel)
  intro _
  apply Triple.bind (keeps_clearFlag a.channel)
  intro _
  exact keeps_pure _

theorem triple_disable :
    Triple (Focus a.channel slot on live) (a.setEnabled (timer clock notify) false)
      (fun _ => Focus a.channel { slot with armed := false, enabled := false } false live) E := by
  apply Triple.bind (Q := fun _ => Focus a.channel { slot with armed := false } false live)
  · exact (triple_cancel a).map _ fun _ _ h => h
  intro _
  exact triple_modifySlot a.channel _

theorem triple_release :
    Triple (Focus a.channel slot on live) (a.release (timer clock notify))
      (fun _ => Focus a.channel { slot with armed := false, enabled := false, handler := none }
        false live) E := by
  apply Triple.bind (triple_disable a)
  intro _
  exact triple_modifySlot a.channel _

theorem triple_asked (i : Fin maxChannels) (f : AlarmSlot H → Bool) :
    Triple (Focus i slot on live) (do return f (← (timer clock notify).slot i))
      (fun answer s => answer = f slot ∧ Focus i slot on live s) E :=
  fun _ _ h => ⟨congrArg f h.slot, h⟩

theorem triple_arm (setting : UInt32) :
    Triple (Focus a.channel slot on live) (a.arm (timer clock notify) setting)
      (fun _ => Focus a.channel { slot with setting, armed := true } (decide (a.channel < c)) live)
      E := by
  apply Triple.bind (triple_modifySlot a.channel _)
  intro _
  apply Triple.bind (triple_writeChannel a.channel 0)
  intro _
  apply Triple.bind (keeps_writeCompare a.channel _)
  intro _
  apply Triple.bind (triple_enableChannel a.channel)
  intro _
  apply Triple.bind keeps_counter
  intro now
  split
  · apply Triple.bind (Q := fun _ => Focus a.channel { slot with setting, armed := true } _ live)
    · exact ((triple_readChannel a.channel).weaken fun _ _ h => h.2).bind fun _ => keeps_pure _
    intro flagged
    split
    · exact keeps_pure _
    · exact keeps_changeFlag a.channel fun bits => anyBits_set_other (by decide) bits
  · exact keeps_pure _

/-- An alarm that can be set is enabled. -/
theorem triple_set (setting : UInt32) :
    Triple (Focus a.channel slot on live) (a.set (timer clock notify) setting).run
      (fun _ s => Focus a.channel slot on live s ∨ (slot.enabled = true ∧ Focus a.channel
        { slot with setting, armed := true } (decide (a.channel < c)) live s)) E := by
  rw [Alarm.run_set]
  apply Triple.bind (triple_asked a.channel AlarmSlot.enabled)
  intro enabled
  refine triple_of_fact fun henabled => ?_
  split
  · exact triple_pure _ fun _ h => .inl h
  rename_i hon
  apply Triple.bind (triple_asked a.channel AlarmSlot.armed)
  intro armed
  refine triple_of_fact fun _ => ?_
  split
  · exact triple_pure _ fun _ h => .inl h
  apply Triple.bind keeps_counter
  intro now
  split
  · exact triple_pure _ fun _ h => .inl h
  · have hslot : slot.enabled = true := by
      rw [← henabled]
      simpa using hon
    exact (triple_arm a setting).map _ fun _ _ h => .inr ⟨hslot, h⟩

/-- What a claim finds and leaves. -/
theorem triple_claim {channel : Nat} (bound : channel < maxChannels) (h : H) :
    Triple (Focus ⟨channel, bound⟩ slot on live) (Alarm.claim (timer clock notify) channel h).run
      (fun answer s => match answer with
        | .ok a => a = ⟨⟨channel, bound⟩⟩ ∧ channel < c ∧ slot.handler.isSome = false ∧
          Focus ⟨channel, bound⟩
            { slot with handler := some h, enabled := false, armed := false } false live s
        | .error _ => (channel < c → slot.handler.isSome = true) ∧
          Focus ⟨channel, bound⟩ slot on live s) E := by
  rw [Alarm.run_claim]
  split
  · rename_i hpresent
    apply Triple.bind (Q := fun found s => found = slot ∧ Focus ⟨channel, bound⟩ slot on live s)
    · exact fun _ _ h => ⟨h.slot, h⟩
    intro found
    refine triple_of_fact fun hfound => ?_
    split
    · rename_i htaken
      exact triple_pure _ fun _ h => ⟨fun _ => hfound ▸ htaken, h⟩
    rename_i hfree
    apply Triple.bind (triple_modifySlot _ _)
    intro _
    apply Triple.bind (triple_writeChannel _ 0)
    intro _
    apply triple_pure
    intro s hs
    have hnone : slot.handler.isSome = false := by
      rw [← hfound]
      simpa using hfree
    have hzero : anyBits ChannelControl.interruptEnable 0 = false := by decide
    rw [hzero, Bool.and_false] at hs
    exact ⟨rfl, hpresent, hnone, hs⟩
  · rename_i habsent
    exact triple_pure _ fun _ h => ⟨fun hpresent => absurd hpresent habsent, h⟩

/-- Service leaves a slot alone, or disarms it, or has found it disarmed. -/
theorem triple_takeDue (i : Fin maxChannels) :
    Triple (Focus i slot on live) ((timer clock notify).takeDue i)
      (fun _ s => Focus i slot on live s ∨ Focus i { slot with armed := false } false live s ∨
        ((slot.enabled && slot.armed) = false ∧ Focus i slot false live s)) E := by
  unfold Timer.takeDue
  rw [dif_pos i.isLt]
  apply Triple.bind (Q := fun found s => found = slot ∧ Focus i slot on live s)
  · exact fun _ _ h => ⟨h.slot, h⟩
  intro found
  refine triple_of_fact fun hfound => ?_
  subst hfound
  split
  · apply Triple.bind keeps_counter
    intro now
    split
    · exact triple_pure _ fun _ h => .inl h
    apply Triple.bind (triple_modifySlot i _)
    intro _
    apply Triple.bind (triple_disableChannel i)
    intro _
    apply Triple.bind (Q := fun _ => Focus i { found with armed := false } false live)
    · exact fun _ _ h => h
    intro _
    exact triple_pure _ fun _ h => .inr (.inl h)
  · rename_i hidle
    apply Triple.bind (triple_disableChannel i)
    intro _
    exact triple_pure _ fun _ h => .inr (.inr ⟨by simpa using hidle, h⟩)

/-! ## Steps -/

/-- Claims a channel and records the alarm. -/
def claimNoting (t : Timer (Estate c H M) H) (channel : Nat) (h : H) :
    Run (Estate c H M) (Except AlarmError Alarm) := do
  let answer ← (Alarm.claim t channel h).run
  if let .ok a := answer then
    liveCell.update (a :: ·)
  return answer

/-- Only alarms that are alive can be used. -/
def withLive {α : Type} (a : Alarm) (run : Run (Estate c H M) α) : Run (Estate c H M) α := do
  Scene.assume fun s => decide (a ∈ s.memory.live)
  run

def releaseNoting (t : Timer (Estate c H M) H) (a : Alarm) : Run (Estate c H M) Unit :=
  withLive a do
    a.release t
    liveCell.update (·.erase a)

/-- The alarms that are alive change as those of other channels do not notice. -/
theorem Focus.relive {s : Estate c H M} (h : Focus i slot on live s) {live' : List Alarm}
    (hothers : ∀ j, i ≠ j → (⟨j⟩ ∈ live' ↔ ⟨j⟩ ∈ live)) :
    Focus i slot on live' (liveCell.set live' s) where
  slot := h.slot
  interrupting := h.interrupting
  live := rfl
  others j hj := by
    have hheld : Held j (liveCell.set live' s) = Held j s := by
      apply propext
      rw [Held, Held, h.live]
      exact hothers j hj
    rw [hheld]
    exact h.others j hj

/-- An operation that focuses on one channel. -/
theorem triple_of_focus {α : Type} {run : Run (Estate c H M) α} {P : Estate c H M → Prop}
    (i : Fin maxChannels)
    (h : ∀ s, P s → Owned s ∧
      Triple (Focus i (s.shared.slot i) (s.registers.interrupting i) s.memory.live) run
        (fun _ => Owned) E) : Triple P run (fun _ => Owned) E := by
  intro patience s hs
  obtain ⟨howned, hrun⟩ := h s hs
  exact hrun patience s (howned.focus i)

theorem keeps_withLive {α : Type} {a : Alarm} {run : Run (Estate c H M) α}
    (h : Triple (fun s => Owned s ∧ a ∈ s.memory.live) run (fun _ => Owned) Owned) :
    Keeps Owned Owned (withLive a run) := by
  apply Triple.bind (Scene.triple_assume fun _ h => h)
  intro _
  exact h.of_imp fun s hs => ⟨hs.1, of_decide_eq_true hs.2⟩

theorem keeps_claimNoting (channel : Nat) (h : H) :
    Keeps Owned E (claimNoting (timer clock notify) channel h) := by
  by_cases bound : channel < maxChannels
  · let i : Fin maxChannels := ⟨channel, bound⟩
    apply triple_of_focus i
    intro s hs
    refine ⟨hs, Triple.bind (triple_claim bound h) fun answer => ?_⟩
    cases answer with
    | error why => exact triple_pure _ fun t ht => ht.2.owned hs.single hs.present (hs.slots i)
    | ok a =>
      rintro patience t ⟨rfl, hpresent, hfree, ht⟩
      have hnew : ⟨i⟩ ∉ s.memory.live := by
        intro hmem
        rw [(hs.slots i).handler.mpr hmem] at hfree
        cases hfree
      have hlive : t.memory.live = s.memory.live := ht.live
      have hclaimed : Focus i _ false (⟨i⟩ :: s.memory.live) (liveCell.set _ t) :=
        ht.relive fun j hj => by
          have hne : j ≠ i := Ne.symm hj
          simp [hne]
      change Owned (liveCell.set (⟨i⟩ :: t.memory.live) t)
      rw [hlive]
      refine hclaimed.owned (List.nodup_cons.mpr ⟨hnew, hs.single⟩) ?_ ?_
      · intro b hb
        rcases List.mem_cons.mp hb with rfl | hb
        · exact hpresent
        · exact hs.present b hb
      · rw [eq_true (List.mem_cons_self (a := (⟨i⟩ : Alarm)) (l := s.memory.live))]
        exact .claim _ h
  · rw [claimNoting, Alarm.run_claim, dif_neg bound]
    split
    · exact keeps_pure _
    · exact keeps_pure _

theorem triple_cancelLive : Triple (fun s => Owned s ∧ a ∈ s.memory.live)
    (a.cancel (timer clock notify)) (fun _ => Owned) E := by
  apply triple_of_focus a.channel
  rintro s ⟨hs, -⟩
  refine ⟨hs, (triple_cancel a).weaken fun _ t ht => ?_⟩
  exact ht.owned hs.single hs.present (hs.slots a.channel).disarm

theorem triple_setEnabledLive (on : Bool) : Triple (fun s => Owned s ∧ a ∈ s.memory.live)
    (a.setEnabled (timer clock notify) on) (fun _ => Owned) E := by
  apply triple_of_focus a.channel
  rintro s ⟨hs, ha⟩
  have hslot := hs.slots a.channel
  cases on with
  | true =>
    refine ⟨hs, (triple_modifySlot a.channel _).weaken fun _ t ht => ?_⟩
    exact ht.owned hs.single hs.present (hslot.enable ha)
  | false =>
    refine ⟨hs, (triple_disable a).weaken fun _ t ht => ?_⟩
    exact ht.owned hs.single hs.present (hslot.disarm.disable rfl)

theorem triple_setLive (setting : UInt32) : Triple (fun s => Owned s ∧ a ∈ s.memory.live)
    (a.set (timer clock notify) setting).run (fun _ => Owned) E := by
  apply triple_of_focus a.channel
  rintro s ⟨hs, ha⟩
  have hslot := hs.slots a.channel
  refine ⟨hs, (triple_set a setting).weaken fun _ t ht => ?_⟩
  rcases ht with ht | ⟨henabled, ht⟩
  · exact ht.owned hs.single hs.present hslot
  · rw [decide_eq_true (hs.present a ha)] at ht
    exact ht.owned hs.single hs.present (hslot.arm henabled setting)

theorem triple_releaseLive : Triple (fun s => Owned s ∧ a ∈ s.memory.live)
    (do a.release (timer clock notify); liveCell.update (·.erase a)) (fun _ => Owned) E := by
  apply triple_of_focus a.channel
  rintro s ⟨hs, -⟩
  refine ⟨hs, (triple_release a).bind fun _ => triple_update fun t ht => ?_⟩
  have hgone : ¬(⟨a.channel⟩ : Alarm) ∈ s.memory.live.erase a := hs.single.not_mem_erase
  have hlive : liveCell.get t = s.memory.live := ht.live
  have hreleased : Focus a.channel _ false (s.memory.live.erase a) (liveCell.set _ t) :=
    ht.relive fun j hj => List.mem_erase_of_ne fun he => hj (congrArg Alarm.channel he).symm
  rw [hlive]
  refine hreleased.owned (hs.single.erase a) ?_ ?_
  · intro b hb
    exact hs.present b (List.mem_of_mem_erase hb)
  · rw [eq_false hgone]
    exact .vacant _ _

theorem keeps_takeDue (channel : Nat) :
    Keeps Owned E ((timer clock notify).takeDue channel) := by
  by_cases bound : channel < maxChannels
  · let i : Fin maxChannels := ⟨channel, bound⟩
    apply triple_of_focus i
    intro s hs
    have hslot := hs.slots i
    refine ⟨hs, (triple_takeDue i).weaken fun _ t ht => ?_⟩
    rcases ht with ht | ht | ⟨hidle, ht⟩
    · exact ht.owned hs.single hs.present hslot
    · exact ht.owned hs.single hs.present hslot.disarm
    · exact ht.owned hs.single hs.present (hslot.silence hidle)
  · rw [Timer.takeDue, dif_neg bound]
    exact keeps_pure _

section Dispatch

variable (hnotify : ∀ h event, Keeps Owned Owned (notify h event))

include hnotify

theorem keeps_serviceAlarm (channel : Nat) :
    Keeps Owned Owned ((timer clock notify).serviceAlarm channel) := by
  apply Timer.triple_serviceAlarm (J := Owned)
  · exact (keeps_takeDue channel).weaken fun _ _ h => by split <;> exact h
  · intro h
    exact hnotify h _

theorem keeps_dispatchFirst : Keeps Owned Owned (timer clock notify).dispatchFirst := by
  have hclear : Keeps Owned Owned ((timer clock notify).port.clearFlag 0) := by
    apply triple_of_focus 0
    intro s hs
    refine ⟨hs, Triple.weaken (keeps_clearFlag 0) fun _ t ht => ?_⟩
    exact ht.owned hs.single hs.present (hs.slots 0)
  apply hclear.bind
  intro _
  exact keeps_serviceAlarm hnotify 0

theorem keeps_dispatchShared [DecidableEq H] :
    Keeps Owned Owned (timer clock notify).dispatchShared := by
  have hvector : Keeps Owned Owned (timer clock notify).port.readVector := by
    intro patience s hs
    have hsame : s.registers.readVector.2.interrupting = s.registers.interrupting :=
      funext s.registers.interrupting_readVector
    exact hs.congr (congrArg (fun f => (s.shared.slot, f, s.memory.live)) hsame)
  apply Triple.bind hvector
  intro vector
  split
  · exact keeps_pure _
  split
  · apply Timer.triple_serviceOverflow fun _ h => h
    · exact fun s h => h.congr rfl
    · exact fun s _ h => h.congr rfl
    · exact fun h => hnotify h _
  · exact keeps_serviceAlarm hnotify _

end Dispatch

end Estate

end Msp430
