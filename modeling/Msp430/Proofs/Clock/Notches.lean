import Msp430.Clock.Tuning
import Msp430.Proofs.Machine.Bits

/-!
The scale of the DCO. A notch is a step of the tap and modulator; where these wrap the range moves by
one, so that all settings lie on one scale of 4096 places. The rest of the register that holds the
range is not touched by a step.
-/
namespace Msp430

theorem toNat_pred {b : UInt8} (h : b ≠ 0) : (b - 1).toNat + 1 = b.toNat := by
  have hpos : b.toNat ≠ 0 := fun he => h (UInt8.toNat_inj.mp he)
  have hone : (1 : UInt8) ≤ b := UInt8.le_iff_toNat_le.mpr (Nat.one_le_iff_ne_zero.mpr hpos)
  rw [UInt8.toNat_sub_of_le _ _ hone, UInt8.toNat_one]
  omega

theorem toNat_succ {b : UInt8} (h : b ≠ 0xFF) : (b + 1).toNat = b.toNat + 1 := by
  have hlt := b.toNat_lt
  have hne : b.toNat ≠ 255 := fun he => h (UInt8.toNat_inj.mp he)
  rw [UInt8.toNat_add, UInt8.toNat_one]
  omega

namespace DcoSetting

/-- Settings in the order of their frequencies. -/
def place (s : DcoSetting) : Nat := s.range.toNat * 256 + s.dcoctl.toNat

/-- What shares a register with the range. -/
def beside (s : DcoSetting) : UInt8 := clearBits ClockField.dcoRange s.bcsctl1

theorem toNat_and_dcoRange (bits : UInt8) :
    (bits &&& ClockField.dcoRange).toNat = bits.toNat % 16 := by
  rw [UInt8.toNat_and]
  exact Nat.and_two_pow_sub_one_eq_mod bits.toNat 4

theorem range_lt (s : DcoSetting) : s.range.toNat < 16 := by
  rw [range, toNat_and_dcoRange]
  exact Nat.mod_lt _ (by decide)

theorem place_lt (s : DcoSetting) : s.place < 4096 := by
  have hrange := s.range_lt
  have hdcoctl := s.dcoctl.toNat_lt
  unfold place
  omega

theorem range_replace {range : UInt8} (h : range.toNat < 16) (dcoctl bits : UInt8) :
    (DcoSetting.mk dcoctl (replaceBits ClockField.dcoRange range bits)).range = range := by
  have hapart : ~~~ClockField.dcoRange &&& ClockField.dcoRange = 0 := rfl
  rw [DcoSetting.range, replaceBits_and, hapart, UInt8.and_zero, UInt8.zero_or, UInt8.and_self]
  apply UInt8.toNat_inj.mp
  rw [toNat_and_dcoRange, Nat.mod_eq_of_lt h]

theorem beside_replace (range dcoctl bits : UInt8) :
    (DcoSetting.mk dcoctl (replaceBits ClockField.dcoRange range bits)).beside =
      clearBits ClockField.dcoRange bits := by
  have hapart : ClockField.dcoRange &&& ~~~ClockField.dcoRange = 0 := rfl
  rw [beside, clearBits, replaceBits_and, UInt8.and_self, hapart, UInt8.and_zero, UInt8.or_zero]
  rfl

/-- A step down leads to the place below. Only the lowest place has none. -/
theorem nudge_slower (s : DcoSetting) :
    (s.nudge? .slower = none ∧ s.place = 0) ∨
      ∃ t, s.nudge? .slower = some t ∧ t.place + 1 = s.place ∧ t.beside = s.beside := by
  by_cases hdcoctl : s.dcoctl = 0
  case neg =>
    refine .inr ⟨_, if_pos hdcoctl, ?_, rfl⟩
    have hpred := toNat_pred hdcoctl
    change s.range.toNat * 256 + (s.dcoctl - 1).toNat + 1 = s.range.toNat * 256 + s.dcoctl.toNat
    omega
  by_cases hrange : s.range = 0
  case pos =>
    left
    constructor
    · simp only [nudge?, hdcoctl, hrange, ne_eq, not_true, if_false]
    · simp only [place, hdcoctl, hrange]
      rfl
  right
  have hpred := toNat_pred hrange
  have hlt := s.range_lt
  refine ⟨⟨0xFF, replaceBits ClockField.dcoRange (s.range - 1) s.bcsctl1⟩, ?_, ?_, ?_⟩
  · simp only [nudge?, hdcoctl, ne_eq, not_true, if_false, hrange, not_false_iff, if_true]
  · rw [place, range_replace (by omega), place, hdcoctl]
    change (s.range - 1).toNat * 256 + 255 + 1 = s.range.toNat * 256 + 0
    omega
  · exact beside_replace ..

/-- A step up leads to the place above. Only the highest place has none. -/
theorem nudge_faster (s : DcoSetting) :
    (s.nudge? .faster = none ∧ s.place = 4095) ∨
      ∃ t, s.nudge? .faster = some t ∧ t.place = s.place + 1 ∧ t.beside = s.beside := by
  by_cases hdcoctl : s.dcoctl = 0xFF
  case neg =>
    refine .inr ⟨_, if_pos hdcoctl, ?_, rfl⟩
    change s.range.toNat * 256 + (s.dcoctl + 1).toNat = s.range.toNat * 256 + s.dcoctl.toNat + 1
    rw [toNat_succ hdcoctl, Nat.add_assoc]
  by_cases hrange : s.range = ClockField.dcoRange
  case pos =>
    left
    constructor
    · simp only [nudge?, hdcoctl, hrange, ne_eq, not_true, if_false]
    · simp only [place, hdcoctl, hrange]
      rfl
  right
  have hlt := s.range_lt
  have hne : s.range.toNat ≠ 15 := fun he => hrange (UInt8.toNat_inj.mp he)
  have hsucc : (s.range + 1).toNat = s.range.toNat + 1 := by
    apply toNat_succ
    intro he
    rw [he] at hlt
    exact absurd hlt (by decide)
  refine ⟨⟨0, replaceBits ClockField.dcoRange (s.range + 1) s.bcsctl1⟩, ?_, ?_, ?_⟩
  · simp only [nudge?, hdcoctl, ne_eq, not_true, if_false, hrange, not_false_iff, if_true]
  · rw [place, range_replace (by omega), place, hdcoctl, hsucc]
    change (s.range.toNat + 1) * 256 + 0 = s.range.toNat * 256 + 255 + 1
    omega
  · exact beside_replace ..

theorem beside_nudge {s t : DcoSetting} {direction : Nudge} (h : s.nudge? direction = some t) :
    t.beside = s.beside := by
  cases direction with
  | slower =>
    obtain ⟨hnone, -⟩ | ⟨u, hu, -, hbeside⟩ := s.nudge_slower
    · cases h.symm.trans hnone
    · cases h.symm.trans hu
      exact hbeside
  | faster =>
    obtain ⟨hnone, -⟩ | ⟨u, hu, -, hbeside⟩ := s.nudge_faster
    · cases h.symm.trans hnone
    · cases h.symm.trans hu
      exact hbeside

theorem place_nudge_slower {s t : DcoSetting} (h : s.nudge? .slower = some t) :
    t.place + 1 = s.place := by
  obtain ⟨hnone, -⟩ | ⟨u, hu, hplace, -⟩ := s.nudge_slower
  · cases h.symm.trans hnone
  · cases h.symm.trans hu
    exact hplace

theorem place_nudge_faster {s t : DcoSetting} (h : s.nudge? .faster = some t) :
    t.place = s.place + 1 := by
  obtain ⟨hnone, -⟩ | ⟨u, hu, hplace, -⟩ := s.nudge_faster
  · cases h.symm.trans hnone
  · cases h.symm.trans hu
    exact hplace

/-- From one place to the next the range stays, or the other byte wraps and the range goes up by
one. -/
theorem range_of_next {s t : DcoSetting} (h : t.place = s.place + 1) :
    t.range = s.range ∨
      s.dcoctl = 0xFF ∧ t.dcoctl = 0 ∧ t.range.toNat = s.range.toNat + 1 := by
  have hs := s.dcoctl.toNat_lt
  have ht := t.dcoctl.toNat_lt
  unfold place at h
  by_cases hrange : t.range.toNat = s.range.toNat
  · exact .inl (UInt8.toNat_inj.mp hrange)
  · refine .inr ⟨UInt8.toNat_inj.mp ?_, UInt8.toNat_inj.mp ?_, ?_⟩
    · change s.dcoctl.toNat = 255
      omega
    · change t.dcoctl.toNat = 0
      omega
    · omega

end DcoSetting

end Msp430
