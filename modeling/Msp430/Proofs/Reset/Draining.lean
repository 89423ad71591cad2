import Msp430.Proofs.Machine.Triples
import Msp430.Reset.Families

/-!
Draining the reset causes. Whatever values the register yields, the calls give those before the
first zero in order and nothing from then on, and they read the register once each until then and
never again. A cause means what the first row with its value says.
-/
namespace Msp430

open Run

/-! ## The meaning of a cause -/

/-- What the table says of the value of a cause: its first row with that value counts. -/
inductive ResetTable.Explains (table : ResetTable) (cause : ResetCause) : Prop
  | known (before : ResetTable) (row : ResetVector) (after : ResetTable)
      (rows : table = before ++ row :: after)
      (first : ∀ earlier ∈ before, earlier.value ≠ cause.value) (value : row.value = cause.value)
      (brownout : cause.brownout = row.severe) (description : cause.description = row.description)
  | unknown (absent : ∀ row ∈ table, row.value ≠ cause.value) (brownout : cause.brownout = false)
      (description : cause.description = "?")

def ResetTable.meaning (table : ResetTable) (value : UInt16) : ResetCause :=
  ⟨value, table.isSevere value, table.describe value⟩

/-- Severity and description come from one and the same row. -/
theorem ResetTable.explains_meaning (table : ResetTable) (value : UInt16) :
    table.Explains (table.meaning value) := by
  cases hrow : table.lookup value with
  | none =>
    refine .unknown (fun row hm he => ?_) ?_ ?_
    · have := List.find?_eq_none.mp hrow row hm
      exact this (decide_eq_true he)
    · rw [meaning, isSevere, hrow]
      rfl
    · rw [meaning, describe, hrow]
      rfl
  | some row =>
    obtain ⟨hvalue, before, after, hrows, hfirst⟩ := List.find?_eq_some_iff_append.mp hrow
    refine .known before row after hrows (fun earlier hm he => ?_) (of_decide_eq_true hvalue) ?_ ?_
    · simpa [meaning] using absurd (hfirst earlier hm) (by simpa [meaning] using he)
    · rw [meaning, isSevere, hrow]
      rfl
    · rw [meaning, describe, hrow]
      rfl

namespace ResetCauses

variable {σ : Type}

/-- The register yields the values one after another; the view counts how many it has yielded. -/
def Yields (register : Run σ UInt16) (values : Nat → UInt16) (reads : σ → Nat) : Prop :=
  ∀ patience s, ∃ t, register.start patience s = .ok (values (reads s)) t ∧ reads t = reads s + 1

/-- The values still to come behind so many. -/
def upcoming (values : Nat → UInt16) (behind k : Nat) : UInt16 := values (behind + k)

/-- What a call gives, counted from zero, if each call up to the first zero gets the next value. -/
def answer (table : ResetTable) (values : Nat → UInt16) (call : Nat) : Option ResetCause :=
  if ∀ k ≤ call, values k ≠ 0 then some (table.meaning (values call)) else none

/-- How many of the calls have no zero before them. -/
def undrained (values : Nat → UInt16) (calls : List Nat) : Nat :=
  calls.countP fun call => ∀ k < call, values k ≠ 0

section Stream

variable {values : Nat → UInt16} {table : ResetTable} {first n : Nat}

/-- Behind a zero there is nothing to be had. -/
theorem answers_behind_zero (h : ∃ k < first, values k = 0) :
    (List.range' first n).map (answer table values) = List.replicate n none := by
  obtain ⟨k, hk, hzero⟩ := h
  rw [List.eq_replicate_iff]
  refine ⟨by rw [List.length_map, List.length_range'], fun cause hcause => ?_⟩
  obtain ⟨call, hcall, rfl⟩ := List.mem_map.mp hcause
  have hlate := (List.mem_range'_1.mp hcall).1
  exact if_neg fun hall => hall k (by omega) hzero

theorem undrained_behind_zero (h : ∃ k < first, values k = 0) :
    undrained values (List.range' first n) = 0 := by
  obtain ⟨k, hk, hzero⟩ := h
  rw [undrained, List.countP_eq_zero]
  intro call hcall hall
  have hlate := (List.mem_range'_1.mp hcall).1
  exact of_decide_eq_true hall k (by omega) hzero

theorem undrained_succ (h : ∀ k < first, values k ≠ 0) :
    undrained values (List.range' first (n + 1)) =
      undrained values (List.range' (first + 1) n) + 1 := by
  rw [undrained, List.range'_succ]
  exact List.countP_cons_of_pos (decide_eq_true h)

end Stream

variable {register : Run σ UInt16} {values : Nat → UInt16} {reads : σ → Nat} {table : ResetTable}
variable {patience : Nat} {s t : σ}

theorem start_next_drained :
    (next ⟨register, table, true⟩).start patience s =
      .ok (none, ⟨register, table, true⟩) s := rfl

theorem start_next {value : UInt16} (hread : register.start patience s = .ok value t)
    (table : ResetTable) :
    (next ⟨register, table, false⟩).start patience s =
      if value = 0 then .ok (none, ⟨register, table, true⟩) t
      else .ok (some (table.meaning value), ⟨register, table, false⟩) t := by
  rw [next, if_neg Bool.false_ne_true, start_bind_ok hread]
  split <;> rfl

theorem start_take_drained (n : Nat) :
    (take ⟨register, table, true⟩ n).start patience s = .ok (List.replicate n none) s := by
  induction n with
  | zero => rfl
  | succ n ih =>
    rw [take, start_bind_ok start_next_drained, start_bind_ok ih]
    rfl

/-- The calls from the given one on, if no value before it was zero. -/
theorem start_take (h : Yields register values reads) {behind first n : Nat}
    (hbefore : ∀ k < first, upcoming values behind k ≠ 0) (hs : reads s = behind + first) :
    ∃ t, (take ⟨register, table, false⟩ n).start patience s =
        .ok ((List.range' first n).map (answer table (upcoming values behind))) t ∧
      reads t = reads s + undrained (upcoming values behind) (List.range' first n) := by
  induction n generalizing first s with
  | zero => exact ⟨s, rfl, rfl⟩
  | succ n ih =>
    obtain ⟨t, hread, ht⟩ := h patience s
    have hfirst : register.start patience s = .ok (upcoming values behind first) t := by
      rw [hread, hs, upcoming]
    have hnext := start_next hfirst table
    rw [undrained_succ hbefore, List.range'_succ, List.map_cons]
    by_cases hzero : upcoming values behind first = 0
    · -- from here on no call reads
      rw [if_pos hzero] at hnext
      have gone : ∃ k < first + 1, upcoming values behind k = 0 :=
        ⟨first, Nat.lt_succ_self first, hzero⟩
      have hnone : answer table (upcoming values behind) first = none :=
        if_neg fun hall => hall first (Nat.le_refl first) hzero
      refine ⟨t, ?_, by rw [undrained_behind_zero gone, ht]⟩
      rw [take, start_bind_ok hnext, start_bind_ok (start_take_drained n), hnone,
        answers_behind_zero gone]
      rfl
    · rw [if_neg hzero] at hnext
      have hupto : ∀ k < first + 1, upcoming values behind k ≠ 0 := by
        intro k hk
        rcases Nat.lt_succ_iff_lt_or_eq.mp hk with hlt | rfl
        · exact hbefore k hlt
        · exact hzero
      have hcause : answer table (upcoming values behind) first =
          some (table.meaning (upcoming values behind first)) :=
        if_pos fun k hk => hupto k (Nat.lt_succ_of_le hk)
      obtain ⟨u, hrest, hu⟩ := ih hupto (by rw [ht, hs, Nat.add_assoc])
      refine ⟨u, ?_, by rw [hu, ht]; omega⟩
      rw [take, start_bind_ok hnext, start_bind_ok hrest, hcause]
      rfl

/-- For every table, every stream of values and every number of calls: the calls give the causes of
the values before the first zero, in order, and then nothing; they read the register once each as
long as there was no zero, and not at all behind it; and of a cause they tell what the first row
with its value says. -/
theorem causes_drained_once (h : Yields register values reads) (table : ResetTable)
    (n patience : Nat) (s : σ) :
    ∃ t, (take ⟨register, table, false⟩ n).start patience s =
        .ok ((List.range n).map (answer table (upcoming values (reads s)))) t ∧
      reads t = reads s + undrained (upcoming values (reads s)) (List.range n) ∧
      ∀ value, table.Explains (table.meaning value) := by
  have none_before : ∀ k < 0, upcoming values (reads s) k ≠ 0 := fun k hk => absurd hk k.not_lt_zero
  obtain ⟨t, hrun, ht⟩ := start_take h none_before (Nat.add_zero (reads s)).symm
  rw [← List.range_eq_range'] at hrun ht
  exact ⟨t, hrun, ht, table.explains_meaning⟩

/-- A register with a fixed list of causes. The state counts the reads. -/
def listed (causes : List UInt16) : Run Nat UInt16 :=
  modifyGet fun reads => (causes.getD reads 0, reads + 1)

theorem listed_yields (causes : List UInt16) : Yields (listed causes) (causes.getD · 0) id :=
  fun _ reads => ⟨reads + 1, rfl, rfl⟩

/-- The cause behind the zero stays in the register, and the table does not know the second one. -/
theorem causes_drained_once_unknown : ∃ t : Nat,
    (take ⟨listed [0x16, 0x7E, 0, 0x02], .f5xx, false⟩ 5).start 0 0 =
      .ok [some ⟨0x16, false, "WDT Time out"⟩, some ⟨0x7E, false, "?"⟩, none, none, none] t ∧
    t = 3 := by
  obtain ⟨t, hrun, hreads, -⟩ :=
    causes_drained_once (listed_yields [0x16, 0x7E, 0, 0x02]) .f5xx 5 0 0
  exact ⟨t, hrun, hreads⟩

end ResetCauses

end Msp430
