import Msp430.Proofs.Machine.Triples
import Msp430.Sim.Ports
import Msp430.Timer.Capture
import Msp430.Timer.Dispatch

/-!
The operations of a timer on any port. Operations that can be refused are brought into the form of
plain runs. A port that spares a view of the state lets all that is only made of register accesses
spare it.
-/
namespace Msp430

open Run

variable {σ τ H : Type}

namespace Alarm

theorem run_claim (t : Timer σ H) (channel : Nat) (h : H) :
    (claim t channel h).run =
      if channel < t.port.channels then
        if bound : channel < maxChannels then do
          if (← t.slot ⟨channel, bound⟩).handler.isSome then return .error .busy
          else
            t.modifySlot ⟨channel, bound⟩ fun slot =>
              { slot with handler := some h, enabled := false, armed := false }
            t.port.compareMode channel
            return .ok ⟨⟨channel, bound⟩⟩
        else return .error .noChannel
      else return .error .noChannel := by
  by_cases hp : channel < t.port.channels
  · by_cases hb : channel < maxChannels
    · simp only [claim, hp, hb, if_true, dif_pos, run_liftM_bind]
      congr 1
      funext slot
      cases slot.handler.isSome with
      | true => rfl
      | false =>
        rw [if_neg (by decide), if_neg (by decide)]
        exact (run_liftM_bind ..).trans (congrArg _ (funext fun _ => run_liftM_bind ..))
    · simp [claim, hp, hb]
  · simp [claim, hp]

theorem run_set (a : Alarm) (t : Timer σ H) (setting : UInt32) :
    (a.set t setting).run = (do
      if !(← a.isEnabled t) then return .error .disabled
      else if ← a.isArmed t then return .error .busy
      else if ticksUntil setting (← t.counter) ≤ 0 then return .error .past
      else .ok <$> a.arm t setting) := by
  simp only [set, run_liftM_bind, run_liftM, apply_ite ExceptT.run, ExceptT.run_throw]

end Alarm

theorem Timer.run_addOverflowHandler (t : Timer σ H) (h : H) :
    (t.addOverflowHandler h).run = (do
      match Chain.append? (← t.shared.read).chain h with
      | none => return .error .full
      | some chain => .ok <$> t.shared.update fun shared => { shared with chain }) := by
  simp only [addOverflowHandler, run_liftM_bind]
  congr 1

/-- A chain that a handler was added to has no other new entry. -/
theorem Chain.mem_of_mem_append {chain longer : Chain H} {h x : H} (ha : append? chain h = some longer)
    (hx : some x ∈ longer) : some x ∈ chain ∨ x = h := by
  obtain ⟨i, -, hi⟩ := Option.bind_eq_some_iff.mp ha
  obtain rfl := Option.some.inj hi
  rcases Vector.mem_or_eq_of_mem_set hx with hm | he
  · exact .inl hm
  · exact .inr (Option.some.inj he)

theorem Timer.keeps_addOverflowHandler {t : Timer σ H} {I E : σ → Prop} (h : H)
    (chain : ∀ s chain, I s → (∀ x, some x ∈ chain → some x ∈ (t.shared.get s).chain ∨ x = h) →
      I (t.shared.set { t.shared.get s with chain } s)) :
    Keeps I E (t.addOverflowHandler h).run := by
  rw [run_addOverflowHandler]
  refine Triple.bind (Q := fun shared s => I s ∧ shared = t.shared.get s)
    (triple_read fun _ hs => ⟨hs, rfl⟩) fun shared => ?_
  split
  · exact triple_pure _ fun _ hs => hs.1
  · rename_i longer hlonger
    refine Triple.map (Q := fun _ => I) _ (triple_update fun s ⟨hs, he⟩ => chain s _ hs fun x hx => ?_)
      fun _ _ hs => hs
    rw [← he]
    exact Chain.mem_of_mem_append hlonger hx

namespace TimerPort

/-- No register access changes what the view shows. -/
structure Spares (p : TimerPort σ) (view : σ → τ) : Prop where
  readControl : p.readControl.Leaves view
  writeControl : ∀ bits, (p.writeControl bits).Leaves view
  readCount : p.readCount.Leaves view
  writeCount : ∀ count, (p.writeCount count).Leaves view
  readChannel : ∀ i, (p.readChannel i).Leaves view
  writeChannel : ∀ i bits, (p.writeChannel i bits).Leaves view
  readCompare : ∀ i, (p.readCompare i).Leaves view
  writeCompare : ∀ i count, (p.writeCompare i count).Leaves view
  readVector : p.readVector.Leaves view

namespace Spares

variable {p : TimerPort σ} {view : σ → τ} (hp : p.Spares view)

include hp

theorem changeChannel (i : Nat) (f : UInt16 → UInt16) : (p.changeChannel i f).Leaves view :=
  (hp.readChannel i).bind fun _ => hp.writeChannel i _

theorem flagged (i : Nat) : (p.flagged i).Leaves view :=
  (hp.readChannel i).bind fun _ => leaves_pure view _

end Spares

end TimerPort

/-- Accesses to a simulated timer do not reach what lies beside it. -/
theorem SimTimer.spares_port {c : Nat} {here : Cell σ (SimTimer c)} {clock : Run σ ClockModule}
    {view : σ → τ} (hview : ∀ timer s, view (here.set timer s) = view s)
    (hclock : clock.Leaves view) :
    (SimTimer.port here clock fun _ => return ()).Spares view where
  readControl _ _ _ hs := hs
  writeControl _ _ _ s hs := (hview _ s).trans hs
  readCount _ _ s hs := (hview _ s).trans hs
  writeCount _ _ _ s hs := (hview _ s).trans hs
  readChannel _ := hclock.bind fun _ _ _ s hs => (hview _ s).trans hs
  writeChannel _ _ _ _ s hs := (hview _ s).trans hs
  readCompare _ _ _ _ hs := hs
  writeCompare _ _ _ _ s hs := (hview _ s).trans hs
  readVector _ _ s hs := (hview _ s).trans hs

/-! ## Measuring -/

section Measuring

variable {p : TimerPort σ} {view : σ → τ} (hread : ∀ i, (p.readChannel i).Leaves view)
variable (hwrite : ∀ i bits, (p.writeChannel i bits).Leaves view)

include hread hwrite

/-- Only its two readings are seen of a measurement: `I` before the first, `J` between them and `K`
behind the last. -/
theorem TimerPort.triple_captureSpan {I : τ → Prop} {J : UInt16 → τ → Prop}
    {K : UInt16 → UInt16 → τ → Prop} {E : σ → Prop} (hI : ∀ s, I (view s) → E s)
    (hJ : ∀ first s, J first (view s) → E s) (hK : ∀ first last s, K first last (view s) → E s)
    {channel : Nat}
    (hfirst : Triple (fun s => I (view s)) (p.readCompare channel)
      (fun first s => J first (view s)) E)
    (hlast : ∀ first, Triple (fun s => J first (view s)) (p.readCompare channel)
      (fun last s => K first last (view s)) E)
    (edge : CaptureEdge) (input : CaptureInput) (edges : Nat) :
    Triple (fun s => I (view s)) (p.captureSpan channel edge input edges)
      (fun measured s => ∃ first last, measured = last - first ∧ K first last (view s)) E := by
  have hspares {α : Type} {run : Run σ α} (h : run.Leaves view) {L : τ → Prop}
      (hL : ∀ s, L (view s) → E s) : Keeps (fun s => L (view s)) E run :=
    h.keeps_of_congr (fun _ _ ht hs => by rw [ht]; exact hs) hL
  have hclear : (p.clearFlag channel).Leaves view := (hread channel).bind fun _ => hwrite channel _
  have hflagged : (p.flagged channel).Leaves view :=
    (hread channel).bind fun _ => leaves_pure view _
  have hawait : (p.awaitCapture channel).Leaves view := hflagged.poll
  apply Triple.bind (hspares (hwrite channel _) hI)
  intro _
  apply Triple.bind (hspares hclear hI)
  intro _
  apply Triple.bind (hspares hawait hI)
  intro _
  apply Triple.bind hfirst
  intro first
  apply Triple.bind (hspares hclear (hJ first))
  intro _
  apply Triple.bind (hspares ((hawait.bind fun _ => hclear).times edges) (hJ first))
  intro _
  apply Triple.bind (hlast first)
  intro last
  apply Triple.bind (hspares (hwrite channel 0) (hK first last))
  intro _
  exact triple_pure _ fun _ hs => ⟨first, last, rfl, hs⟩

end Measuring

theorem TimerPort.Spares.captureSpan {p : TimerPort σ} {view : σ → τ} (hp : p.Spares view)
    (channel : Nat) (edge : CaptureEdge) (input : CaptureInput) (edges : Nat) :
    (p.captureSpan channel edge input edges).Leaves view := by
  intro v
  have hspan := triple_captureSpan hp.readChannel hp.writeChannel (I := (· = v))
    (J := fun _ => (· = v)) (K := fun _ _ => (· = v)) (fun _ hs => hs) (fun _ _ hs => hs)
    (fun _ _ _ hs => hs) (hp.readCompare channel v) (fun _ => hp.readCompare channel v) edge input
    edges
  exact hspan.weaken fun _ _ ⟨_, _, _, hs⟩ => hs

/-! ## Counting -/

section Counting

variable {p : TimerPort σ} {view : σ → τ} (hcount : p.readCount.Leaves view)
variable (hcontrol : p.readControl.Leaves view)

include hcount

theorem TimerPort.leaves_settledCount (last : UInt16) (n : Nat) :
    (p.settledCount last n).Leaves view := by
  induction n generalizing last with
  | zero => exact leaves_pure view _
  | succ n ih =>
    refine hcount.bind fun count => ?_
    split
    · exact leaves_pure view _
    · exact ih count

include hcontrol

theorem TimerPort.leaves_stableCount : p.stableCount.Leaves view := by
  refine hcount.bind fun count => ?_
  refine Leaves.bind (hcontrol.bind fun _ => leaves_pure view _) fun source => ?_
  split
  · exact leaves_pure view _
  · exact leaves_settledCount hcount count _

end Counting

/-- Counting reads the shared state and two registers. -/
theorem Timer.leaves_counter {t : Timer σ H} {view : σ → τ}
    (hcount : t.port.readCount.Leaves view) (hcontrol : t.port.readControl.Leaves view) :
    t.counter.Leaves view := by
  have stable := TimerPort.leaves_stableCount hcount hcontrol
  refine Leaves.bind (fun _ => triple_read fun _ h => h) fun shared => ?_
  refine stable.bind fun low => ?_
  refine Leaves.bind (hcontrol.bind fun _ => leaves_pure view _) fun overflowed => ?_
  split
  · exact stable.bind fun _ => leaves_pure view _
  · exact leaves_pure view _

theorem Timer.counter_leaves {t : Timer σ H} {view : σ → τ} (hp : t.port.Spares view) :
    t.counter.Leaves view :=
  Timer.leaves_counter hp.readCount hp.readControl

/-- What holds once the slot is armed holds when the channel has been programmed if accesses to the
channel keep it. -/
theorem Alarm.triple_arm {t : Timer σ H} {a : Alarm} {setting : UInt32} {P I E : σ → Prop}
    (slot : Triple P (t.modifySlot a.channel fun slot => { slot with setting, armed := true })
      (fun _ => I) E)
    (readChannel : Keeps I E (t.port.readChannel a.channel))
    (writeChannel : ∀ bits, Keeps I E (t.port.writeChannel a.channel bits))
    (writeCompare : ∀ count, Keeps I E (t.port.writeCompare a.channel count))
    (counter : Keeps I E t.counter) : Triple P (a.arm t setting) (fun _ => I) E := by
  refine Triple.bind slot fun _ => ?_
  refine (writeChannel 0).bind fun _ => (writeCompare _).bind fun _ => ?_
  refine (readChannel.bind fun _ => writeChannel _).bind fun _ => counter.bind fun now => ?_
  split
  · refine Keeps.bind (readChannel.bind fun _ => keeps_pure _) fun flagged => ?_
    split
    · exact keeps_pure _
    · exact readChannel.bind fun _ => writeChannel _
  · exact keeps_pure _

/-! ## Ports that always answer -/

/-- No access that alarms are made of halts. -/
structure TimerPort.Answers (p : TimerPort σ) : Prop where
  readControl : p.readControl.Answers
  readCount : p.readCount.Answers
  readChannel : ∀ i, (p.readChannel i).Answers
  writeChannel : ∀ i bits, (p.writeChannel i bits).Answers
  writeCompare : ∀ i count, (p.writeCompare i count).Answers

namespace TimerPort.Answers

variable {p : TimerPort σ} (hp : p.Answers)

include hp

theorem changeChannel (i : Nat) (f : UInt16 → UInt16) : (p.changeChannel i f).Answers :=
  (hp.readChannel i).bind fun _ => hp.writeChannel i _

theorem settledCount (last : UInt16) (n : Nat) : (p.settledCount last n).Answers := by
  induction n generalizing last with
  | zero => exact answers_pure _
  | succ n ih =>
    refine hp.readCount.bind fun count => ?_
    split
    · exact answers_pure _
    · exact ih count

theorem stableCount : p.stableCount.Answers := by
  refine hp.readCount.bind fun count => ?_
  refine (hp.readControl.bind fun _ => answers_pure _).bind fun source => ?_
  split
  · exact answers_pure _
  · exact hp.settledCount _ _

end TimerPort.Answers

section Answers

variable {t : Timer σ H} (ht : t.port.Answers)

theorem Timer.answers_slot (t : Timer σ H) (i : Fin maxChannels) : (t.slot i).Answers :=
  (answers_read _).bind fun _ => answers_pure _

include ht

theorem Timer.answers_counter : t.counter.Answers := by
  refine (answers_read _).bind fun shared => ?_
  refine ht.stableCount.bind fun low => ?_
  refine (ht.readControl.bind fun _ => answers_pure _).bind fun overflowed => ?_
  split
  · exact ht.stableCount.bind fun _ => answers_pure _
  · exact answers_pure _

theorem Timer.answers_takeDue (channel : Nat) : (t.takeDue channel).Answers := by
  unfold Timer.takeDue
  split
  · refine (Timer.answers_slot t _).bind fun slot => ?_
    by_cases hs : (slot.enabled && slot.armed) = true
    · rw [if_pos hs]
      refine (Timer.answers_counter ht).bind fun now => ?_
      by_cases hd : ticksUntil slot.setting now > 0
      · rw [if_pos hd]
        exact answers_pure _
      · rw [if_neg hd]
        refine (answers_update _ _).bind fun _ => (ht.changeChannel _ _).bind fun _ => ?_
        exact (Timer.answers_slot t _).bind fun _ => answers_pure _
    · rw [if_neg hs]
      exact (ht.changeChannel _ _).bind fun _ => answers_pure _
  · exact answers_pure _

namespace Alarm

variable (a : Alarm)

theorem answers_cancel : (a.cancel t).Answers := by
  refine Run.Answers.bind ((Timer.answers_slot t _).bind fun _ => answers_pure _) fun armed => ?_
  refine (answers_update _ _).bind fun _ => (ht.changeChannel _ _).bind fun _ => ?_
  exact (ht.changeChannel _ _).bind fun _ => answers_pure _

theorem answers_arm (setting : UInt32) : (a.arm t setting).Answers := by
  refine (answers_update _ _).bind fun _ => (ht.writeChannel _ _).bind fun _ => ?_
  refine (ht.writeCompare _ _).bind fun _ => (ht.changeChannel _ _).bind fun _ => ?_
  refine (Timer.answers_counter ht).bind fun now => ?_
  split
  · refine ((ht.readChannel _).bind fun _ => answers_pure _).bind fun flagged => ?_
    split
    · exact answers_pure _
    · exact ht.changeChannel _ _
  · exact answers_pure _

theorem answers_set (setting : UInt32) : (a.set t setting).run.Answers := by
  have asked (f : AlarmSlot H → Bool) : (return f (← t.slot a.channel) : Run σ Bool).Answers :=
    (Timer.answers_slot t _).bind fun _ => answers_pure _
  rw [Alarm.run_set]
  refine (asked _).bind fun enabled => ?_
  split
  · exact answers_pure _
  refine (asked _).bind fun armed => ?_
  split
  · exact answers_pure _
  refine (Timer.answers_counter ht).bind fun now => ?_
  split
  · exact answers_pure _
  · exact (answers_arm ht a setting).map _

end Alarm

end Answers

/-! ## Invariants that a channel does not matter to -/

/-- Neither accesses to the channel nor changes of its slot break the invariant, and counting keeps
it. The slot may only be given handlers that are allowed. -/
structure Timer.IndifferentAt (t : Timer σ H) (i : Fin maxChannels) (allowed : Option H → Prop)
    (I E : σ → Prop) : Prop where
  modifySlot : ∀ f : AlarmSlot H → AlarmSlot H,
    (∀ slot, (f slot).handler = slot.handler ∨ allowed (f slot).handler) →
    Keeps I E (t.modifySlot i f)
  readChannel : Keeps I E (t.port.readChannel i)
  writeChannel : ∀ bits, Keeps I E (t.port.writeChannel i bits)
  writeCompare : ∀ count, Keeps I E (t.port.writeCompare i count)
  counter : Keeps I E t.counter

namespace Timer.IndifferentAt

variable {t : Timer σ H} {i : Fin maxChannels} {allowed : Option H → Prop} {I E : σ → Prop}
variable (ht : t.IndifferentAt i allowed I E)

include ht

theorem changeChannel (f : UInt16 → UInt16) : Keeps I E (t.port.changeChannel i f) :=
  ht.readChannel.bind fun _ => ht.writeChannel _

theorem cancel : Keeps I E (Alarm.cancel ⟨i⟩ t) := by
  refine Keeps.bind (fun _ _ h => h) fun armed => ?_
  refine Keeps.bind (ht.modifySlot _ fun _ => .inl rfl) fun _ => ?_
  refine (ht.changeChannel _).bind fun _ => ?_
  exact (ht.changeChannel _).bind fun _ => keeps_pure _

theorem setEnabled (on : Bool) : Keeps I E (Alarm.setEnabled ⟨i⟩ t on) := by
  cases on with
  | true => exact ht.modifySlot _ fun _ => .inl rfl
  | false =>
    refine Keeps.bind ?_ fun _ => ht.modifySlot _ fun _ => .inl rfl
    exact ht.cancel.map _ fun _ _ h => h

theorem release (hnone : allowed none) : Keeps I E (Alarm.release ⟨i⟩ t) :=
  (ht.setEnabled false).bind fun _ => ht.modifySlot _ fun _ => .inr hnone

theorem arm (setting : UInt32) : Keeps I E (Alarm.arm ⟨i⟩ t setting) :=
  Alarm.triple_arm (ht.modifySlot _ fun _ => .inl rfl) ht.readChannel ht.writeChannel
    ht.writeCompare ht.counter

theorem set (setting : UInt32) : Keeps I E (Alarm.set ⟨i⟩ t setting).run := by
  rw [Alarm.run_set]
  refine Keeps.bind (fun _ _ h => h) fun enabled => ?_
  split
  · exact keeps_pure _
  refine Keeps.bind (fun _ _ h => h) fun armed => ?_
  split
  · exact keeps_pure _
  refine ht.counter.bind fun now => ?_
  split
  · exact keeps_pure _
  · exact (ht.arm setting).map _ fun _ _ h => h

end Timer.IndifferentAt

/-- A claim gives a handler to the slot and then writes to the channel. -/
theorem Alarm.keeps_claim_of_writes {t : Timer σ H} {channel : Nat} {h : H} {I E : σ → Prop}
    (hslot : ∀ (bound : channel < maxChannels) (f : AlarmSlot H → AlarmSlot H),
      (∀ slot, (f slot).handler = some h) → Keeps I E (t.modifySlot ⟨channel, bound⟩ f))
    (hwrite : channel < maxChannels → ∀ bits, Keeps I E (t.port.writeChannel channel bits)) :
    Keeps I E (claim t channel h).run := by
  rw [run_claim]
  split
  · split
    · rename_i bound
      apply Keeps.bind fun _ _ hs => hs
      intro slot
      split
      · exact keeps_pure _
      · apply (hslot bound _ fun _ => rfl).bind
        intro _
        exact (hwrite bound _).bind fun _ => keeps_pure _
    · exact keeps_pure _
  · exact keeps_pure _

theorem Alarm.keeps_claim {t : Timer σ H} {channel : Nat} {allowed : Option H → Prop}
    {I E : σ → Prop}
    (ht : ∀ bound : channel < maxChannels, t.IndifferentAt ⟨channel, bound⟩ allowed I E) {h : H}
    (hallowed : allowed (some h)) : Keeps I E (claim t channel h).run := by
  apply keeps_claim_of_writes
  · intro bound f hf
    exact (ht bound).modifySlot f fun slot => .inr (by rw [hf]; exact hallowed)
  · exact fun bound bits => (ht bound).writeChannel bits

/-- An alarm that is due answers with the handler in its slot. -/
theorem Timer.triple_takeDue {t : Timer σ H} {channel : Nat} {allowed : Option H → Prop}
    {I E : σ → Prop}
    (ht : ∀ bound : channel < maxChannels, t.IndifferentAt ⟨channel, bound⟩ allowed I E) :
    Triple I (t.takeDue channel) (fun due s => I s ∧ ∀ h now, due = some (h, now) →
      ∃ i : Fin maxChannels, i.val = channel ∧ ((t.shared.get s).slot i).handler = some h) E := by
  have nobody {s : σ} (hs : I s) : I s ∧ ∀ h now, (none : Option (H × UInt32)) = some (h, now) →
      ∃ i : Fin maxChannels, i.val = channel ∧ ((t.shared.get s).slot i).handler = some h :=
    ⟨hs, fun _ _ he => by cases he⟩
  unfold Timer.takeDue
  split
  · rename_i bound
    refine Triple.bind (Q := fun _ => I) (fun _ _ h => h) fun slot => ?_
    by_cases hs : (slot.enabled && slot.armed) = true
    · rw [if_pos hs]
      refine Triple.bind (ht bound).counter fun now => ?_
      by_cases hd : ticksUntil slot.setting now > 0
      · rw [if_pos hd]
        exact triple_pure _ fun _ => nobody
      · rw [if_neg hd]
        refine Triple.bind ((ht bound).modifySlot _ fun _ => .inl rfl) fun _ => ?_
        refine Triple.bind ((ht bound).changeChannel _) fun _ => ?_
        refine fun patience s hs => ⟨hs, fun h now he => ⟨⟨channel, bound⟩, rfl, ?_⟩⟩
        obtain ⟨handler, hhandler, hpair⟩ := Option.map_eq_some_iff.mp he
        rw [← show handler = h from congrArg Prod.fst hpair]
        exact hhandler
    · rw [if_neg hs]
      refine Triple.bind ((ht bound).changeChannel _) fun _ => ?_
      exact triple_pure _ fun _ => nobody
  · exact triple_pure _ fun _ => nobody

/-! ## Invariants that no channel matters to -/

/-- Neither accesses to channels nor changes of slots break the invariant, and counting keeps it. -/
structure Timer.Indifferent (t : Timer σ H) (I E : σ → Prop) : Prop where
  modifySlot : ∀ i f, Keeps I E (t.modifySlot i f)
  readChannel : ∀ i, Keeps I E (t.port.readChannel i)
  writeChannel : ∀ i bits, Keeps I E (t.port.writeChannel i bits)
  writeCompare : ∀ i count, Keeps I E (t.port.writeCompare i count)
  counter : Keeps I E t.counter

namespace Timer.Indifferent

variable {t : Timer σ H} {I E : σ → Prop} (ht : t.Indifferent I E) (a : Alarm)

include ht

theorem at_channel (i : Fin maxChannels) : t.IndifferentAt i (fun _ => True) I E :=
  ⟨fun f _ => ht.modifySlot i f, ht.readChannel i, ht.writeChannel i, ht.writeCompare i, ht.counter⟩

theorem cancel : Keeps I E (a.cancel t) := (ht.at_channel a.channel).cancel

theorem setEnabled (on : Bool) : Keeps I E (a.setEnabled t on) :=
  (ht.at_channel a.channel).setEnabled on

theorem release : Keeps I E (a.release t) := (ht.at_channel a.channel).release trivial

theorem claim (channel : Nat) (h : H) : Keeps I E (Alarm.claim t channel h).run :=
  Alarm.keeps_claim (fun bound => ht.at_channel ⟨channel, bound⟩) trivial

theorem set (setting : UInt32) : Keeps I E (a.set t setting).run :=
  (ht.at_channel a.channel).set setting

theorem takeDue (channel : Nat) : Keeps I E (t.takeDue channel) :=
  (triple_takeDue fun bound => ht.at_channel ⟨channel, bound⟩).weaken fun _ _ h => h.1

end Timer.Indifferent

end Msp430
