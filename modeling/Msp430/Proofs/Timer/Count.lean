import Msp430.Proofs.Machine.Bits
import Msp430.Sim.Timer
import Msp430.Timer.Counter

/-!
The 32-bit count that a simulated timer and the overflows counted so far stand for. As long as no
wrap is lost, it moves on by the ticks that pass, and counting an overflow does not change it.
-/
namespace Msp430

theorem joinCount_toNat (high low : UInt16) :
    (joinCount high low).toNat = high.toNat * 65536 + low.toNat := by
  have hh := high.toNat_lt
  have hl := low.toNat_lt
  have hs : high.toNat <<< 16 < 4294967296 := by rw [Nat.shiftLeft_eq]; omega
  rw [joinCount, UInt32.toNat_or, UInt32.toNat_shiftLeft, UInt16.toNat_toUInt32,
    UInt16.toNat_toUInt32]
  change high.toNat <<< 16 % 4294967296 ||| low.toNat = _
  rw [Nat.mod_eq_of_lt hs, ← Nat.shiftLeft_add_eq_or_of_lt (by omega), Nat.shiftLeft_eq]

/-- A target lies ahead if it is less than half a round of the count away. -/
theorem ticksUntil_pos_iff (target now : UInt32) :
    0 < ticksUntil target now ↔ 0 < (target - now).toNat ∧ (target - now).toNat < 2147483648 := by
  rw [ticksUntil, Int32.lt_iff_toInt_lt, Int32.toInt_zero, ← Int32.toInt_toBitVec]
  generalize target - now = d
  have := d.toNat_lt
  simp only [UInt32.toBitVec_toInt32, BitVec.toInt_eq_toNat_cond, UInt32.toNat_toBitVec]
  split <;> omega

theorem ticksUntil_nonpos_iff (target now : UInt32) :
    ticksUntil target now ≤ 0 ↔ ¬ 0 < ticksUntil target now := Int32.not_lt.symm

theorem le_of_reached {target now later : UInt32} {ticks : Nat}
    (hlater : later.toNat = (now.toNat + ticks) % 4294967296) (ha : 0 < ticksUntil target now)
    (hr : ticksUntil target later ≤ 0) : (target - now).toNat ≤ ticks := by
  have hn := now.toNat_lt
  have ht := target.toNat_lt
  rw [ticksUntil_nonpos_iff, ticksUntil_pos_iff, UInt32.toNat_sub] at hr
  rw [ticksUntil_pos_iff, UInt32.toNat_sub] at ha
  rw [UInt32.toNat_sub]
  omega

theorem toNat_sub_passed {target now : UInt32} {ticks : Nat} (h : ticks ≤ (target - now).toNat) :
    (target - (now + ticks.toUInt32)).toNat = (target - now).toNat - ticks := by
  have hn := now.toNat_lt
  have ht := target.toNat_lt
  have hticks : ticks.toUInt32.toNat = ticks % 4294967296 := UInt32.toNat_ofNat'
  rw [UInt32.toNat_sub] at h ⊢
  rw [UInt32.toNat_sub, UInt32.toNat_add, hticks]
  omega

namespace SimTimer

variable {c : Nat} (t : SimTimer c)

/-- Reads leave the count where it is, and nothing is scripted. -/
structure Quiet : Prop where
  readStep : t.readStep = 0
  countScript : t.countScript = []
  vectorScript : t.vectorScript = []

/-- The count with its upper half, when so many overflows have been counted. -/
def extended (overflows : UInt16) : UInt32 :=
  joinCount (if t.overflowed then overflows + 1 else overflows) t.count

/-- No wrap happens while an earlier one is still uncounted. -/
def Countable (ticks : Nat) : Prop :=
  t.count.toNat + ticks < if t.overflowed then 65536 else 131072

instance (ticks : Nat) : Decidable (t.Countable ticks) :=
  inferInstanceAs (Decidable (_ < _))

/-- All of the timer but its channels and their captures. -/
def core : SimTimer c :=
  { t with channels := .replicate _ {}, source := .fixed 0, total := 0 }

theorem extended_toNat (overflows : UInt16) :
    (t.extended overflows).toNat =
      (overflows.toNat + if t.overflowed then 1 else 0) % 65536 * 65536 + t.count.toNat := by
  rw [extended, joinCount_toNat]
  have := overflows.toNat_lt
  split
  · rw [UInt16.toNat_add]; rfl
  · rw [Nat.add_zero, Nat.mod_eq_of_lt this]

theorem count_toNat (overflows : UInt16) :
    t.count.toNat = (t.extended overflows).toNat % 65536 := by
  have := t.count.toNat_lt
  rw [extended_toNat]
  omega

def changeChannel (clock : ClockModule) (i : Nat) (f : UInt16 → UInt16) : SimTimer c :=
  (t.readChannel clock i).2.writeChannel i (f (t.readChannel clock i).1)

/-- What the core of a timer determines. -/
theorem eq_of_core {α : Type} {t u : SimTimer c} (h : t.core = u.core) (f : SimTimer c → α) :
    f t.core = f u.core := congrArg f h

theorem extended_congr {t u : SimTimer c} (h : t.core = u.core) (overflows : UInt16) :
    t.extended overflows = u.extended overflows :=
  eq_of_core h (·.extended overflows)

theorem Quiet.congr {t u : SimTimer c} (hq : t.Quiet) (h : u.core = t.core) : u.Quiet where
  readStep := (eq_of_core h SimTimer.readStep).trans hq.readStep
  countScript := (eq_of_core h SimTimer.countScript).trans hq.countScript
  vectorScript := (eq_of_core h SimTimer.vectorScript).trans hq.vectorScript

/-! ## Moving on -/

theorem raiseOverflow_count (raised : Bool) : (t.raiseOverflow raised).count = t.count := by
  unfold raiseOverflow; split <;> rfl

theorem raiseOverflow_channels (raised : Bool) :
    (t.raiseOverflow raised).channels = t.channels := by
  unfold raiseOverflow; split <;> rfl

theorem raiseOverflow_overflowed (raised : Bool) :
    (t.raiseOverflow raised).overflowed = (t.overflowed || raised) := by
  cases raised with
  | false => simp [raiseOverflow]
  | true =>
    rw [Bool.or_true]
    exact anyBits_set_self (by decide) _

theorem raiseOverflow_quiet {t : SimTimer c} (raised : Bool) (h : t.Quiet) :
    (t.raiseOverflow raised).Quiet := by
  unfold raiseOverflow; split <;> exact ⟨h.readStep, h.countScript, h.vectorScript⟩

theorem raiseOverflow_drift (raised : Bool) : (t.raiseOverflow raised).drift = t.drift := by
  unfold raiseOverflow; split <;> rfl

theorem raiseOverflow_anyBits {mask : UInt16} (h : TimerControl.overflowFlag &&& mask = 0)
    (raised : Bool) :
    anyBits mask (t.raiseOverflow raised).control = anyBits mask t.control := by
  unfold raiseOverflow; split
  · exact anyBits_set_other h _
  · rfl

theorem advance_count (ticks : Nat) :
    (t.advance ticks).count = (t.count.toNat + ticks).toUInt16 := by
  unfold advance; split
  · rename_i h
    subst h
    exact UInt16.ofNat_toNat.symm
  · exact raiseOverflow_count ..

theorem advance_overflowed (ticks : Nat) :
    (t.advance ticks).overflowed = (t.overflowed || decide (65536 ≤ t.count.toNat + ticks)) := by
  have := t.count.toNat_lt
  unfold advance; split
  · rename_i h
    subst h
    simp only [Nat.add_zero, Nat.not_le.mpr this, decide_false, Bool.or_false]
  · exact raiseOverflow_overflowed ..

theorem advance_quiet {t : SimTimer c} (ticks : Nat) (h : t.Quiet) : (t.advance ticks).Quiet := by
  unfold advance; split
  · exact h
  · exact raiseOverflow_quiet _ ⟨h.readStep, h.countScript, h.vectorScript⟩

theorem advance_drift (ticks : Nat) : (t.advance ticks).drift = t.drift := by
  unfold advance; split
  · rfl
  · exact raiseOverflow_drift ..

theorem advance_anyBits {mask : UInt16} (h : TimerControl.overflowFlag &&& mask = 0)
    (ticks : Nat) : anyBits mask (t.advance ticks).control = anyBits mask t.control := by
  unfold advance; split
  · rfl
  · exact raiseOverflow_anyBits _ h _

/-- Without a lost wrap, the extended count moves on by the ticks that pass. -/
theorem extended_moved {t u : SimTimer c} {ticks : Nat} {overflows : UInt16}
    (hcount : u.count = (t.count.toNat + ticks).toUInt16)
    (hflag : u.overflowed = (t.overflowed || decide (65536 ≤ t.count.toNat + ticks)))
    (h : t.Countable ticks) :
    (u.extended overflows).toNat = ((t.extended overflows).toNat + ticks) % 4294967296 := by
  have ho := overflows.toNat_lt
  have hc := t.count.toNat_lt
  have hu : u.count.toNat = (t.count.toNat + ticks) % 65536 := by
    rw [hcount]; exact UInt16.toNat_ofNat'
  rw [extended_toNat, extended_toNat, hu, hflag]
  unfold Countable at h
  cases hf : t.overflowed with
  | true =>
    simp only [hf, if_true] at h
    simp only [Bool.true_or, if_true]
    omega
  | false =>
    simp only [hf, Bool.false_eq_true, if_false] at h
    by_cases hw : 65536 ≤ t.count.toNat + ticks
    · simp only [hw, decide_true, Bool.or_true, if_true, Bool.false_eq_true, if_false]
      omega
    · simp only [hw, decide_false, Bool.or_false, Bool.false_eq_true, if_false]
      omega

theorem extended_advance {t : SimTimer c} {ticks : Nat} (overflows : UInt16)
    (h : t.Countable ticks) :
    ((t.advance ticks).extended overflows).toNat =
      ((t.extended overflows).toNat + ticks) % 4294967296 :=
  extended_moved (t.advance_count ticks) (t.advance_overflowed ticks) h

theorem extended_advance_add {t : SimTimer c} {ticks : Nat} (overflows : UInt16)
    (h : t.Countable ticks) :
    (t.advance ticks).extended overflows = t.extended overflows + ticks.toUInt32 := by
  have hticks : ticks.toUInt32.toNat = ticks % 4294967296 := UInt32.toNat_ofNat'
  rw [← UInt32.toNat_inj, extended_advance overflows h, UInt32.toNat_add, hticks]
  omega

theorem shift_overflowed (ticks : UInt16) :
    (t.shift ticks true).overflowed =
      (t.overflowed || decide (65536 ≤ t.count.toNat + ticks.toNat)) :=
  raiseOverflow_overflowed ..

theorem shift_count (ticks : UInt16) (overflows : Bool) :
    (t.shift ticks overflows).count = (t.count.toNat + ticks.toNat).toUInt16 := by
  rw [shift, raiseOverflow_count]
  exact UInt16.toNat_inj.mp (by rw [UInt16.toNat_add]; exact UInt16.toNat_ofNat'.symm)

theorem shift_channels (ticks : UInt16) (overflows : Bool) :
    (t.shift ticks overflows).channels = t.channels := raiseOverflow_channels ..

theorem shift_quiet {t : SimTimer c} (h : t.Quiet) (ticks : UInt16) : (t.shift ticks true).Quiet :=
  raiseOverflow_quiet _ ⟨h.readStep, h.countScript, h.vectorScript⟩

theorem extended_shift {t : SimTimer c} {ticks : UInt16} (overflows : UInt16)
    (h : t.Countable ticks.toNat) :
    ((t.shift ticks true).extended overflows).toNat =
      ((t.extended overflows).toNat + ticks.toNat) % 4294967296 :=
  extended_moved (t.shift_count ticks true) (t.shift_overflowed ticks) h

/-- Reading a count that stands still gives it and changes nothing. -/
theorem readCount_steady {t : SimTimer c} (hstep : t.readStep = 0) (hscript : t.countScript = []) :
    t.readCount = (t.count, t) := by
  have hc := t.count.toNat_lt
  have hstay : t.shift 0 t.readStepOverflows = t := by
    simp [shift, raiseOverflow, Nat.not_le.mpr hc]
  rw [readCount, hscript, hstep]
  exact Prod.ext rfl hstay

theorem readCount_quiet {t : SimTimer c} (h : t.Quiet) : t.readCount = (t.count, t) :=
  readCount_steady h.readStep h.countScript

/-- Writing the control register moves neither the count nor the overflow flag unless it is told to.
-/
theorem extended_writeControl {bits : UInt16} (hclear : anyBits TimerControl.clear bits = false)
    (hflag : anyBits TimerControl.overflowFlag bits = t.overflowed) (overflows : UInt16) :
    (t.writeControl bits).extended overflows = t.extended overflows := by
  have hcount : (t.writeControl bits).count = t.count := by
    rw [writeControl, hclear]
    rfl
  have hkept : (t.writeControl bits).overflowed = t.overflowed :=
    (anyBits_clear_other (by decide) bits).trans hflag
  rw [extended, hcount, hkept, extended]

/-- Counting an overflow that did not happen moves the count by a round of the lower half. -/
theorem extended_miscounted (overflows : UInt16) :
    (t.extended (overflows + 1)).toNat = ((t.extended overflows).toNat + 65536) % 4294967296 := by
  have ho := overflows.toNat_lt
  have hc := t.count.toNat_lt
  rw [extended_toNat, extended_toNat, UInt16.toNat_add]
  change ((overflows.toNat + 1) % 65536 + _) % 65536 * 65536 + _ = _
  split <;> omega

theorem extended_acknowledge {t : SimTimer c} (overflows : UInt16) (h : t.overflowed) :
    { t with control := clearBits TimerControl.overflowFlag t.control }.extended (overflows + 1) =
      t.extended overflows := by
  simp [extended, overflowed, anyBits_clear_self] at h ⊢
  simp [h]

end SimTimer

end Msp430
