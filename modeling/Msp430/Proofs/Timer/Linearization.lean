import Msp430.Proofs.Timer.Simulated

/-!
Reading a count that moves between the reads of its lower half. What the driver answers with is the
count of one moment of the call: that of the last read that it makes use of, and the flag that it
looks at behind tells whether a wrap lay before that moment.
-/
namespace Msp430.Scene

open Run

variable {H M : Type} {c : Nat}

/-- The count without a limit, as far as the flag holds the wraps that are not counted yet. -/
def trueCount (s : Scene (SimTimer c) H M) : Nat :=
  (s.shared.overflows.toNat + if s.registers.overflowed then 1 else 0) * 65536 +
    s.registers.count.toNat

theorem now_toNat (s : Scene (SimTimer c) H M) : s.now.toNat = s.trueCount % 4294967296 := by
  have hcount := s.registers.count.toNat_lt
  rw [now, SimTimer.extended_toNat, trueCount]
  omega

/-! ## Moments of a call -/

/-- The next read makes the count wrap. -/
def wrapsNext (t : SimTimer c) : Bool := decide (65536 ≤ t.count.toNat + t.readStep.toNat)

/-- The memory is a tally of the wraps that reads have caused. -/
def tallying (clock : Nat → ClockModule) : TimerPort (Scene (SimTimer c) H Nat) :=
  { simPort clock with
    readCount := do
      let wraps := wrapsNext (← registersCell.read)
      memoryCell.update (· + wraps.toNat)
      (simPort clock).readCount }

/-- The count moves by the same step with every read, and a wrap raises the flag. -/
structure Honest (t : SimTimer c) : Prop where
  unscripted : t.countScript = []
  flagging : t.readStepOverflows = true

theorem Honest.shift {t : SimTimer c} (h : Honest t) (step : UInt16) (flagging : Bool) :
    Honest (t.shift step flagging) := by
  unfold SimTimer.shift SimTimer.raiseOverflow
  split <;> exact ⟨h.unscripted, h.flagging⟩

/-- The flag has room for the wraps of a call: for one, unless it is up already. -/
def Lossless (s t : Scene (SimTimer c) H Nat) : Prop :=
  t.memory ≤ s.memory + if s.registers.overflowed then 0 else 1

instance (s t : Scene (SimTimer c) H Nat) : Decidable (s.Lossless t) :=
  inferInstanceAs (Decidable (_ ≤ _))

/-- Reads lead from one moment to the other. -/
structure Leads (s t : Scene (SimTimer c) H Nat) : Prop where
  honest : Honest t.registers
  shared : t.shared = s.shared
  tally : s.memory ≤ t.memory
  position : s.registers.count.toNat + s.memory * 65536 ≤
    t.registers.count.toNat + t.memory * 65536
  overflowed : t.registers.overflowed = (s.registers.overflowed || decide (s.memory < t.memory))

variable {clock : Nat → ClockModule} {notify : Notify (Scene (SimTimer c) H Nat) H}
variable {s t u : Scene (SimTimer c) H Nat}

theorem Leads.refl (h : Honest s.registers) : s.Leads s where
  honest := h
  shared := rfl
  tally := Nat.le_refl _
  position := Nat.le_refl _
  overflowed := by simp

theorem Leads.trans (h : s.Leads t) (h' : t.Leads u) : s.Leads u where
  honest := h'.honest
  shared := h'.shared.trans h.shared
  tally := Nat.le_trans h.tally h'.tally
  position := Nat.le_trans h.position h'.position
  overflowed := by
    have htally := h.tally
    have htally' := h'.tally
    rw [h'.overflowed, h.overflowed, Bool.or_assoc]
    congr 1
    rw [Bool.eq_iff_iff]
    simp only [Bool.or_eq_true, decide_eq_true_eq]
    omega

theorem Leads.raised (h : s.Leads t) (hs : s.registers.overflowed = true) :
    t.registers.overflowed = true := by
  rw [h.overflowed, hs, Bool.true_or]

/-- As long as the flag has room, it comes up with every wrap. -/
theorem Leads.wraps (h : s.Leads t) (hl : s.Lossless t) :
    t.memory + (if s.registers.overflowed then 1 else 0) =
      s.memory + if t.registers.overflowed then 1 else 0 := by
  have htally := h.tally
  unfold Lossless at hl
  rw [h.overflowed]
  cases hflag : s.registers.overflowed with
  | true =>
    simp only [hflag, if_true, Bool.true_or] at hl ⊢
    omega
  | false =>
    simp only [hflag, Bool.false_eq_true, if_false, Bool.false_or, decide_eq_true_eq] at hl ⊢
    split <;> omega

/-- The count does not run backwards then. -/
theorem Leads.trueCount_le (h : s.Leads t) (hl : s.Lossless t) : s.trueCount ≤ t.trueCount := by
  have hposition := h.position
  have hwraps := h.wraps hl
  rw [trueCount, trueCount, h.shared]
  omega

/-- The flag has room for the wraps of each part if it has room for all. -/
theorem Lossless.split (hl : s.Lossless u) (h : s.Leads t) (h' : t.Leads u) :
    s.Lossless t ∧ t.Lossless u := by
  have hfirst : s.Lossless t := Nat.le_trans h'.tally hl
  have hwraps := h.wraps hfirst
  have hroom (flag : Bool) : (if flag then 0 else 1) + (if flag then 1 else 0) = 1 := by
    cases flag <;> rfl
  have hbefore := hroom s.registers.overflowed
  have hmeanwhile := hroom t.registers.overflowed
  refine ⟨hfirst, ?_⟩
  unfold Lossless at hl ⊢
  omega

/-! ## Reads -/

/-- The count of a moment between the two. -/
def Seen (s : Scene (SimTimer c) H Nat) (low : UInt16) (t : Scene (SimTimer c) H Nat) : Prop :=
  ∃ u, s.Leads u ∧ u.Leads t ∧ low = u.registers.count

section Reads

variable (clock)

/-- The tally does not get in the way of a read. -/
theorem start_tallying (patience : Nat) (s : Scene (SimTimer c) H Nat) :
    (tallying clock).readCount.start patience s = (simPort clock).readCount.start patience
      { s with memory := s.memory + (wrapsNext s.registers).toNat } := rfl

/-- A read answers with the count before its step. -/
theorem triple_readCount (u : Scene (SimTimer c) H Nat) :
    Triple (fun s => s = u ∧ Honest s.registers) (tallying clock).readCount
      (fun low t => low = u.registers.count ∧ u.Leads t) fun _ => False := by
  rintro patience s ⟨rfl, hhonest⟩
  have hcount := s.registers.count.toNat_lt
  let moved := s.registers.shift s.registers.readStep true
  have hread : s.registers.readCount = (s.registers.count, moved) := by
    rw [SimTimer.readCount, hhonest.unscripted, hhonest.flagging]
  let after : Scene (SimTimer c) H Nat :=
    { s with registers := moved, memory := s.memory + (wrapsNext s.registers).toNat }
  have hrun : (tallying clock).readCount.start patience s = .ok s.registers.count after := by
    have hstart (u : Scene (SimTimer c) H Nat) : (simPort clock).readCount.start patience u =
        .ok u.registers.readCount.1 { u with registers := u.registers.readCount.2 } := rfl
    rw [start_tallying, hstart, hread]
  have hposition : moved.count.toNat =
      (s.registers.count.toNat + s.registers.readStep.toNat) % 65536 := by
    rw [SimTimer.shift_count]
    exact UInt16.toNat_ofNat'
  have hflag : moved.overflowed = (s.registers.overflowed || wrapsNext s.registers) :=
    s.registers.shift_overflowed s.registers.readStep
  rw [hrun]
  refine ⟨rfl, hhonest.shift _ _, rfl, Nat.le_add_right _ _, ?_, ?_⟩
  · change _ ≤ moved.count.toNat + (s.memory + (wrapsNext s.registers).toNat) * 65536
    cases hwraps : wrapsNext s.registers with
    | true =>
      change _ ≤ moved.count.toNat + (s.memory + 1) * 65536
      omega
    | false =>
      have hstays := of_decide_eq_false hwraps
      change _ ≤ moved.count.toNat + (s.memory + 0) * 65536
      omega
  · change moved.overflowed = (_ || decide (s.memory < s.memory + (wrapsNext s.registers).toNat))
    rw [hflag]
    cases wrapsNext s.registers <;> simp

theorem Seen.honest {low : UInt16} (h : s.Seen low t) : Honest t.registers := by
  obtain ⟨u, -, hu, -⟩ := h
  exact hu.honest

/-- Between two moments both what was seen before and what the read answers with were there. -/
theorem triple_readCount_seen (s : Scene (SimTimer c) H Nat) (last : UInt16) :
    Triple (Seen s last) (tallying clock).readCount (fun low t => Seen s low t ∧ Seen s last t)
      fun _ => False := by
  rintro patience t ⟨u, hsu, hut, hlast⟩
  obtain ⟨low, v, hread, rfl, htv⟩ :=
    (triple_readCount clock t).answers ⟨rfl, hut.honest⟩ patience
  rw [hread]
  exact ⟨⟨t, hsu.trans hut, htv, rfl⟩, u, hsu, hut.trans htv, hlast⟩

theorem triple_settledCount (s : Scene (SimTimer c) H Nat) (n : Nat) (last : UInt16) :
    Triple (Seen s last) ((tallying clock).settledCount last n) (Seen s) fun _ => False := by
  induction n generalizing last with
  | zero => exact triple_pure _ fun _ h => h
  | succ n ih =>
    apply Triple.bind (triple_readCount_seen clock s last)
    intro low
    by_cases hsame : low = last
    · rw [if_pos hsame]
      exact triple_pure _ fun _ h => h.2
    · rw [if_neg hsame]
      exact (ih low).of_imp fun _ h => h.1

/-- Whatever the timer counts, and however often it is read, the answer was its count once. -/
theorem triple_stableCount (s : Scene (SimTimer c) H Nat) :
    Triple (fun t => t = s ∧ Honest t.registers) (tallying clock).stableCount (Seen s)
      fun _ => False := by
  apply Triple.bind (Q := Seen s)
  · rintro patience t ⟨rfl, hhonest⟩
    obtain ⟨low, u, hread, rfl, htu⟩ := (triple_readCount clock t).answers ⟨rfl, hhonest⟩ patience
    rw [hread]
    exact ⟨t, .refl hhonest, htu, rfl⟩
  · intro low
    apply Triple.bind (Q := fun _ => Seen s low) (fun _ _ h => h)
    intro source
    split
    · exact triple_pure _ fun _ h => h
    · exact triple_settledCount clock s _ low

variable (notify)

/-- The count of one moment of the call is the answer. -/
theorem triple_counter_moment (s : Scene (SimTimer c) H Nat) :
    Triple (fun t => t = s ∧ Honest t.registers) (onPort (tallying clock) notify).counter
      (fun now t => ∃ u, s.Leads u ∧ u.Leads t ∧ now = u.now) fun _ => False := by
  rintro patience s ⟨rfl, hhonest⟩
  have hshared : (onPort (tallying clock) notify).shared.read.start patience s =
      .ok s.shared s := rfl
  rw [Timer.counter, start_bind_ok hshared]
  obtain ⟨low, t, hlow, u, hsu, hut, rfl⟩ :=
    (triple_stableCount clock s).answers ⟨rfl, hhonest⟩ patience
  change (onPort (tallying clock) notify).port.stableCount.start patience s = _ at hlow
  have hflag : (onPort (tallying clock) notify).port.overflowed.start patience t =
      .ok t.registers.overflowed t := rfl
  dsimp only
  rw [start_bind_ok hlow, start_bind_ok hflag]
  have hst := hsu.trans hut
  cases hraised : t.registers.overflowed with
  | false =>
    -- the flag was down at the moment of the read, too
    have hdown : u.registers.overflowed = false := by
      cases hu : u.registers.overflowed with
      | false => rfl
      | true => exact absurd (hut.raised hu) (by rw [hraised]; decide)
    refine ⟨u, hsu, hut, ?_⟩
    rw [now, SimTimer.extended, hdown, hsu.shared]
    rfl
  | true =>
    obtain ⟨low', v, hlow', w, htw, hwv, rfl⟩ :=
      (triple_stableCount clock t).answers ⟨rfl, hut.honest⟩ patience
    change (onPort (tallying clock) notify).port.stableCount.start patience t = _ at hlow'
    rw [if_pos rfl, start_bind_ok hlow']
    refine ⟨w, hst.trans htw, hwv, ?_⟩
    rw [now, SimTimer.extended, htw.raised hraised, (hst.trans htw).shared]
    rfl

/-- A call answers with a count that lies between the true counts at its two ends, as long as the
flag holds every wrap that happens meanwhile. A later call therefore never answers with an earlier
count. -/
theorem counter_linearizable (hhonest : Honest s.registers) (patience : Nat) :
    ∃ now t, (onPort (tallying clock) notify).counter.start patience s = .ok now t ∧
      (s.Lossless t → ∃ n, s.trueCount ≤ n ∧ n ≤ t.trueCount ∧ now.toNat = n % 4294967296 ∧
        ∀ u later v, t.trueCount ≤ u.trueCount → Honest u.registers → u.Lossless v →
          (onPort (tallying clock) notify).counter.start patience u = .ok later v →
          ∃ m, n ≤ m ∧ m ≤ v.trueCount ∧ later.toNat = m % 4294967296) := by
  obtain ⟨now, t, hrun, m, hsm, hmt, rfl⟩ :=
    (triple_counter_moment clock notify s).answers ⟨rfl, hhonest⟩ patience
  refine ⟨m.now, t, hrun, fun hl => ?_⟩
  obtain ⟨hfirst, hlast⟩ := hl.split hsm hmt
  refine ⟨m.trueCount, hsm.trueCount_le hfirst, hmt.trueCount_le hlast, m.now_toNat, ?_⟩
  intro u later v hafter hhonest' hl' hrun'
  obtain ⟨m', hum, hmv, rfl⟩ := Triple.of_start
    (triple_counter_moment clock notify u) ⟨rfl, hhonest'⟩ hrun'
  obtain ⟨hfirst', hlast'⟩ := hl'.split hum hmv
  refine ⟨m'.trueCount, ?_, hmv.trueCount_le hlast', m'.now_toNat⟩
  exact Nat.le_trans (hmt.trueCount_le hlast) (Nat.le_trans hafter (hum.trueCount_le hfirst'))

end Reads

/-! ## A call across a wrap -/

/-- A timer on ACLK two ticks before a wrap, which never settles. -/
def crossing : Scene (SimTimer 2) Unit Nat where
  registers := { control := 0x0120, count := 0xFFFE, readStep := 1 }
  shared := { overflows := 7 }
  memory := 0

def crossingTimer : Timer (Scene (SimTimer 2) Unit Nat) Unit :=
  onPort (tallying fun _ => {}) fun _ _ => return .none

theorem counter_linearizable_crossing :
    crossingTimer.counter.start 1 crossing =
        .ok 0x80007 (crossingTimer.counter.finish 1 crossing) ∧
      crossing.trueCount = 0x7FFFE ∧
      crossing.Lossless (crossingTimer.counter.finish 1 crossing) ∧
      ∃ n, 0x7FFFE ≤ n ∧ n ≤ (crossingTimer.counter.finish 1 crossing).trueCount ∧
        0x80007 = n % 4294967296 := by
  have hanswer : crossingTimer.counter.answer? 1 crossing = some 0x80007 := by decide +kernel
  have hrun := start_of_answer hanswer
  have hlossless : crossing.Lossless (crossingTimer.counter.finish 1 crossing) := by
    decide +kernel
  obtain ⟨now, t, hrun', hcall⟩ :=
    counter_linearizable (fun _ => {}) (fun _ _ => return .none) (s := crossing) ⟨rfl, rfl⟩ 1
  obtain ⟨rfl, rfl⟩ := EStateM.Result.ok.inj (hrun.symm.trans hrun')
  obtain ⟨n, hlow, hhigh, hnow, -⟩ := hcall hlossless
  exact ⟨hrun, by decide +kernel, hlossless, n, hlow, hhigh, hnow⟩

end Msp430.Scene
