import Msp430.Uptime.Conversion

/-!
How the conversions between ticks and units of time go together. The ways to ticks agree with each
other, 64 bits are enough for them, and going there and back gains no time. The way from ticks to
milliseconds keeps the low 32 bits of the count: it is faithful for all ticks at rates from 1 kHz on,
and at no slower rate.
-/
namespace Msp430

/-! ## Rounding and saturation -/

theorem saturated_eq_min (n : Nat) : saturated n = (min n 4294967295).toUInt32 := by
  unfold saturated
  split
  · rw [Nat.min_eq_left (by omega)]
  · rw [Nat.min_eq_right (by omega)]
    rfl

theorem toNat_saturated (n : Nat) : (saturated n).toNat = min n 4294967295 := by
  rw [saturated_eq_min]
  exact Nat.mod_eq_of_lt (by omega)

theorem saturated_mono {m n : Nat} (h : m ≤ n) : saturated m ≤ saturated n := by
  rw [UInt32.le_iff_toNat_le, toNat_saturated, toNat_saturated]
  omega

/-- Rounding up adds one to the quotient unless the division is exact. -/
theorem add_pred_div (n : Nat) {d : Nat} (hd : 0 < d) :
    (n + (d - 1)) / d = if n % d = 0 then n / d else n / d + 1 := by
  have hsplit := Nat.div_add_mod n d
  have hrest := Nat.mod_lt n hd
  rw [Nat.mul_comm] at hsplit
  split
  case isTrue hexact =>
    rw [Nat.div_eq_iff hd]
    omega
  case isFalse hrounded =>
    rw [Nat.div_eq_iff hd, Nat.add_mul, Nat.one_mul]
    omega

/-! ## Arithmetic of 64 bits -/

namespace Wide

/-- A product, unless it takes more than 64 bits. -/
def times? (a b : UInt64) : Option UInt64 :=
  if a.toNat * b.toNat < 18446744073709551616 then some (a * b) else none

/-- A sum, unless it takes more than 64 bits. -/
def plus? (a b : UInt64) : Option UInt64 :=
  if a.toNat + b.toNat < 18446744073709551616 then some (a + b) else none

def narrowed (n : UInt64) : UInt32 := if n < 0x100000000 then n.toUInt32 else 0xFFFFFFFF

/-- Whole ticks in a span of time that is given in the `unit`-th part of a second. -/
def ticksWithin? (unit : UInt64) (hz span : UInt32) : Option UInt32 := do
  let product ← times? span.toUInt64 hz.toUInt64
  return narrowed (product / unit)

/-- The fewest ticks that cover the span. -/
def ticksCovering? (unit : UInt64) (hz span : UInt32) : Option UInt32 := do
  let product ← times? span.toUInt64 hz.toUInt64
  return narrowed (← if product % unit = 0 then pure (product / unit) else plus? (product / unit) 1)

theorem narrowed_eq (n : UInt64) : narrowed n = saturated n.toNat := by
  unfold narrowed saturated
  by_cases h : n < 0x100000000
  · have hn : n.toNat < 0x100000000 := UInt64.lt_iff_toNat_lt.mp h
    rw [if_pos h, if_pos hn]
    apply UInt32.toNat_inj.mp
    rw [UInt64.toNat_toUInt32]
    rfl
  · have hn : ¬n.toNat < 0x100000000 := fun hn => h (UInt64.lt_iff_toNat_lt.mpr hn)
    rw [if_neg h, if_neg hn]

/-- The product of two numbers of 32 bits always fits, with room for one more. -/
theorem times?_spread (a b : UInt32) :
    ∃ product, times? a.toUInt64 b.toUInt64 = some product ∧
      product.toNat = a.toNat * b.toNat ∧ product.toNat + 1 < 18446744073709551616 := by
  have hle : a.toNat * b.toNat ≤ 4294967295 * 4294967295 :=
    Nat.mul_le_mul (Nat.le_of_lt_succ a.toNat_lt) (Nat.le_of_lt_succ b.toNat_lt)
  have hproduct : (a.toUInt64 * b.toUInt64).toNat = a.toNat * b.toNat := by
    rw [UInt64.toNat_mul, UInt32.toNat_toUInt64, UInt32.toNat_toUInt64]
    exact Nat.mod_eq_of_lt (by omega)
  refine ⟨a.toUInt64 * b.toUInt64, ?_, hproduct, by omega⟩
  rw [times?, UInt32.toNat_toUInt64, UInt32.toNat_toUInt64, if_pos (by omega)]

theorem ticksWithin?_eq (unit : UInt64) (hz span : UInt32) :
    ticksWithin? unit hz span = some (saturated (span.toNat * hz.toNat / unit.toNat)) := by
  obtain ⟨product, hproduct, hvalue, -⟩ := times?_spread span hz
  rw [ticksWithin?, hproduct, ← hvalue, ← UInt64.toNat_div, ← narrowed_eq]
  rfl

theorem ticksCovering?_eq {unit : UInt64} (hunit : 0 < unit.toNat) (hz span : UInt32) :
    ticksCovering? unit hz span =
      some (saturated ((span.toNat * hz.toNat + (unit.toNat - 1)) / unit.toNat)) := by
  obtain ⟨product, hproduct, hvalue, hroom⟩ := times?_spread span hz
  have hexact : product % unit = 0 ↔ product.toNat % unit.toNat = 0 := by
    rw [← UInt64.toNat_inj, UInt64.toNat_mod]
    rfl
  rw [ticksCovering?, hproduct, ← hvalue, add_pred_div _ hunit]
  by_cases h : product.toNat % unit.toNat = 0
  · rw [if_pos h, ← UInt64.toNat_div, ← narrowed_eq]
    simp only [Option.bind_eq_bind, Option.bind_some, if_pos (hexact.mpr h)]
    rfl
  · have hquotient := Nat.div_le_self product.toNat unit.toNat
    have hone : (product / unit + 1).toNat = product.toNat / unit.toNat + 1 := by
      rw [UInt64.toNat_add, UInt64.toNat_div]
      exact Nat.mod_eq_of_lt (by change _ + 1 < _; omega)
    have hsum : plus? (product / unit) 1 = some (product / unit + 1) := by
      rw [plus?, UInt64.toNat_div, if_pos (by change _ + 1 < _; omega)]
    rw [if_neg h, ← hone, ← narrowed_eq]
    simp only [Option.bind_eq_bind, Option.bind_some, if_neg (mt hexact.mp h), hsum]
    rfl

end Wide

/-! ## Between the units -/

/-- How the conversions at one rate go together. -/
structure ConversionsAgree (hz : UInt32) : Prop where
  millis_micros : ∀ ms : UInt32, 1000 * ms.toNat < 4294967296 →
    ticksOfMillis hz ms = ticksOfMicros hz (1000 * ms)
  /-- Nanoseconds are rounded up where microseconds are rounded down. -/
  micros_nanos : ∀ us : UInt32, 1000 * us.toNat < 4294967296 →
    ticksOfMicros hz us ≤ ticksOfNanos hz (1000 * us) ∧
      (ticksOfNanos hz (1000 * us)).toNat ≤ (ticksOfMicros hz us).toNat + 1
  /-- Of all counts, `n` and larger ones cover the nanoseconds. -/
  nanos_fewest : ∀ ns : UInt32, ∃ n : Nat,
    (∀ m, n ≤ m ↔ ns.toNat * hz.toNat ≤ m * 1000000000) ∧
      (ticksOfNanos hz ns).toNat = min n 4294967295
  millis_monotone : ∀ a b, a ≤ b → ticksOfMillis hz a ≤ ticksOfMillis hz b
  micros_monotone : ∀ a b, a ≤ b → ticksOfMicros hz a ≤ ticksOfMicros hz b
  nanos_monotone : ∀ a b, a ≤ b → ticksOfNanos hz a ≤ ticksOfNanos hz b
  millis_fit : ∀ ms, Wide.ticksWithin? 1000 hz ms = some (ticksOfMillis hz ms)
  micros_fit : ∀ us, Wide.ticksWithin? 1000000 hz us = some (ticksOfMicros hz us)
  nanos_fit : ∀ ns, Wide.ticksCovering? 1000000000 hz ns = some (ticksOfNanos hz ns)
  /-- On the way back from whole ticks less than a millisecond is lost, if a tick is no longer than
  that and the ticks did not saturate. -/
  millis_and_back : hz ≠ 0 → ∀ ms, ∃ back,
    millisOfTicks hz (ticksOfMillis hz ms) = some back ∧ back ≤ ms ∧
      (1000 ≤ hz → ms.toNat * hz.toNat / 1000 < 4294967296 → ms.toNat - 1 ≤ back.toNat)
  ticks_and_back : hz ≠ 0 → ∀ ticks, ∃ ms,
    millisOfTicks hz ticks = some ms ∧ ticksOfMillis hz ms ≤ ticks

theorem toNat_thousandfold {n : UInt32} (h : 1000 * n.toNat < 4294967296) :
    (1000 * n).toNat = 1000 * n.toNat := by
  rw [UInt32.toNat_mul]
  exact Nat.mod_eq_of_lt h

theorem toNat_pos_of_ne {hz : UInt32} (h : hz ≠ 0) : 0 < hz.toNat :=
  Nat.pos_of_ne_zero fun hzero => h (UInt32.toNat_inj.mp hzero)

theorem millisOfTicks_eq {hz : UInt32} (h : hz ≠ 0) (ticks : UInt32) :
    ∃ ms, millisOfTicks hz ticks = some ms ∧
      ms.toNat = ticks.toNat * 1000 / hz.toNat % 4294967296 :=
  ⟨_, if_neg h, rfl⟩

/-- Milliseconds become at most as many ticks as take them. -/
theorem millis_of_ticksOfMillis_le (hz ms : UInt32) :
    (ticksOfMillis hz ms).toNat * 1000 / hz.toNat ≤ ms.toNat := by
  apply Nat.div_le_of_le_mul
  rw [ticksOfMillis, toNat_saturated, Nat.mul_comm hz.toNat]
  omega

theorem millis_and_back {hz : UInt32} (h : hz ≠ 0) (ms : UInt32) : ∃ back,
    millisOfTicks hz (ticksOfMillis hz ms) = some back ∧ back ≤ ms ∧
      (1000 ≤ hz → ms.toNat * hz.toNat / 1000 < 4294967296 → ms.toNat - 1 ≤ back.toNat) := by
  obtain ⟨back, hback, hvalue⟩ := millisOfTicks_eq h (ticksOfMillis hz ms)
  have hle := millis_of_ticksOfMillis_le hz ms
  have hms := ms.toNat_lt
  rw [Nat.mod_eq_of_lt (Nat.lt_of_le_of_lt hle hms)] at hvalue
  refine ⟨back, hback, ?_, ?_⟩
  · rw [UInt32.le_iff_toNat_le, hvalue]
    exact hle
  · intro hfast hfits
    have hrate : 1000 ≤ hz.toNat := UInt32.le_iff_toNat_le.mp hfast
    rw [hvalue, Nat.le_div_iff_mul_le (toNat_pos_of_ne h), Nat.sub_mul, ticksOfMillis,
      toNat_saturated]
    omega

theorem ticks_and_back {hz : UInt32} (h : hz ≠ 0) (ticks : UInt32) : ∃ ms,
    millisOfTicks hz ticks = some ms ∧ ticksOfMillis hz ms ≤ ticks := by
  obtain ⟨ms, hms, hvalue⟩ := millisOfTicks_eq h ticks
  refine ⟨ms, hms, ?_⟩
  have hkept : ms.toNat * hz.toNat ≤ ticks.toNat * 1000 :=
    calc ms.toNat * hz.toNat ≤ ticks.toNat * 1000 / hz.toNat * hz.toNat := by
          rw [hvalue]
          exact Nat.mul_le_mul_right _ (Nat.mod_le _ _)
      _ ≤ ticks.toNat * 1000 := Nat.div_mul_le_self _ _
  rw [UInt32.le_iff_toNat_le, ticksOfMillis, toNat_saturated]
  omega

theorem conversions_agree (hz : UInt32) : ConversionsAgree hz where
  millis_micros := by
    intro ms hms
    rw [ticksOfMillis, ticksOfMicros, toNat_thousandfold hms, Nat.mul_assoc]
    congr 1
    omega
  micros_nanos := by
    intro us hus
    rw [UInt32.le_iff_toNat_le, ticksOfMicros, ticksOfNanos, toNat_thousandfold hus, toNat_saturated,
      toNat_saturated, Nat.mul_assoc]
    omega
  nanos_fewest := by
    intro ns
    refine ⟨(ns.toNat * hz.toNat + 999999999) / 1000000000, ?_, toNat_saturated _⟩
    intro m
    omega
  millis_monotone := by
    intro a b h
    exact saturated_mono (Nat.div_le_div_right (Nat.mul_le_mul_right _ (UInt32.le_iff_toNat_le.mp h)))
  micros_monotone := by
    intro a b h
    exact saturated_mono (Nat.div_le_div_right (Nat.mul_le_mul_right _ (UInt32.le_iff_toNat_le.mp h)))
  nanos_monotone := by
    intro a b h
    have hproduct := Nat.mul_le_mul_right hz.toNat (UInt32.le_iff_toNat_le.mp h)
    exact saturated_mono (Nat.div_le_div_right (Nat.add_le_add_right hproduct _))
  millis_fit := Wide.ticksWithin?_eq 1000 hz
  micros_fit := Wide.ticksWithin?_eq 1000000 hz
  nanos_fit := Wide.ticksCovering?_eq (by decide) hz
  millis_and_back := millis_and_back
  ticks_and_back := ticks_and_back

/-- A watch crystal, and the longest spans that fit all conversions. -/
theorem conversions_agree_crystal :
    ticksOfMillis 32768 4294967 = ticksOfMicros 32768 4294967000 ∧
      ticksOfMicros 32768 4294967 ≤ ticksOfNanos 32768 4294967000 ∧
      ∃ back, millisOfTicks 32768 (ticksOfMillis 32768 131071999) = some back ∧
        back ≤ 131071999 ∧ 131071998 ≤ back.toNat := by
  have agree := conversions_agree 32768
  obtain ⟨back, hback, hle, hlost⟩ := agree.millis_and_back (by decide) 131071999
  exact ⟨agree.millis_micros 4294967 (by decide), (agree.micros_nanos 4294967 (by decide)).1, back,
    hback, hle, hlost (by decide) (by decide)⟩

/-! ## From ticks to milliseconds -/

/-- The milliseconds in the ticks are told as they are, or as the largest count. -/
def MillisFaithful (hz ticks : UInt32) : Prop :=
  ∃ ms, millisOfTicks hz ticks = some ms ∧
    ms.toNat = min (ticks.toNat * 1000 / hz.toNat) 4294967295

/-- The more ticks, the more milliseconds. -/
def MillisOrdered (hz few many : UInt32) : Prop :=
  ∃ less more, millisOfTicks hz few = some less ∧ millisOfTicks hz many = some more ∧ less ≤ more

theorem millisFaithful_of_fits {hz ticks : UInt32} (h : hz ≠ 0)
    (hfits : ticks.toNat * 1000 / hz.toNat < 4294967296) : MillisFaithful hz ticks := by
  obtain ⟨ms, hms, hvalue⟩ := millisOfTicks_eq h ticks
  refine ⟨ms, hms, ?_⟩
  rw [hvalue, Nat.mod_eq_of_lt hfits]
  omega

theorem MillisFaithful.ordered {hz few many : UInt32} (hfew : MillisFaithful hz few)
    (hmany : MillisFaithful hz many) (h : few ≤ many) : MillisOrdered hz few many := by
  obtain ⟨less, hless, hlow⟩ := hfew
  obtain ⟨more, hmore, hhigh⟩ := hmany
  refine ⟨less, more, hless, hmore, ?_⟩
  have hquotients : few.toNat * 1000 / hz.toNat ≤ many.toNat * 1000 / hz.toNat :=
    Nat.div_le_div_right (Nat.mul_le_mul_right _ (UInt32.le_iff_toNat_le.mp h))
  rw [UInt32.le_iff_toNat_le, hlow, hhigh]
  omega

theorem fits_of_kilohertz {hz : UInt32} (h : 1000 ≤ hz) (ticks : UInt32) :
    ticks.toNat * 1000 / hz.toNat < 4294967296 := by
  have hrate : 1000 ≤ hz.toNat := UInt32.le_iff_toNat_le.mp h
  refine Nat.lt_of_le_of_lt (Nat.div_le_of_le_mul ?_) ticks.toNat_lt
  rw [Nat.mul_comm]
  exact Nat.mul_le_mul_right _ hrate

/-- Below 1 kHz the first ticks that take more than 32 bits of milliseconds are told as about a
second at most. -/
theorem exists_overrun {hz : UInt32} (h : hz ≠ 0) (hslow : hz < 1000) : ∃ ticks ms : UInt32,
    4294967296 * hz.toNat ≤ ticks.toNat * 1000 ∧ millisOfTicks hz ticks = some ms ∧
      ms.toNat ≤ 1000 := by
  have hpos := toNat_pos_of_ne h
  have hrate : hz.toNat < 1000 := UInt32.lt_iff_toNat_lt.mp hslow
  let n := (4294967296 * hz.toNat + 999) / 1000
  have hn : n.toUInt32.toNat = n := Nat.mod_eq_of_lt (by omega)
  obtain ⟨ms, hms, hvalue⟩ := millisOfTicks_eq h n.toUInt32
  have hlow : 4294967296 ≤ n * 1000 / hz.toNat := by
    rw [Nat.le_div_iff_mul_le hpos]
    omega
  have hhigh : n * 1000 / hz.toNat < 4294967296 + 1001 := by
    rw [Nat.div_lt_iff_lt_mul hpos]
    omega
  refine ⟨n.toUInt32, ms, by omega, hms, ?_⟩
  rw [hvalue, hn]
  omega

theorem not_faithful_of_slow {hz : UInt32} (h : hz ≠ 0) (hslow : hz < 1000) :
    ∃ ticks, ¬MillisFaithful hz ticks := by
  obtain ⟨ticks, ms, hmany, hms, hsmall⟩ := exists_overrun h hslow
  refine ⟨ticks, ?_⟩
  rintro ⟨told, htold, hvalue⟩
  obtain rfl : ms = told := Option.some.inj (hms.symm.trans htold)
  have hlarge := (Nat.le_div_iff_mul_le (toNat_pos_of_ne h)).mpr hmany
  omega

/-- Two seconds are told as longer than a time that takes more than 32 bits. -/
theorem not_ordered_of_slow {hz : UInt32} (h : hz ≠ 0) (hslow : hz < 1000) :
    ∃ few many, few ≤ many ∧ ¬MillisOrdered hz few many := by
  obtain ⟨many, ms, hmany, hms, hsmall⟩ := exists_overrun h hslow
  have hpos := toNat_pos_of_ne h
  have hrate : hz.toNat < 1000 := UInt32.lt_iff_toNat_lt.mp hslow
  have htwo : (2 * hz).toNat = 2 * hz.toNat := by
    rw [UInt32.toNat_mul]
    exact Nat.mod_eq_of_lt (by change 2 * hz.toNat < _; omega)
  obtain ⟨told, htold, hvalue⟩ := millisOfTicks_eq h (2 * hz)
  have hquotient : (2 * hz).toNat * 1000 / hz.toNat = 2000 := by
    rw [htwo, show 2 * hz.toNat * 1000 = 2000 * hz.toNat by omega]
    exact Nat.mul_div_cancel _ hpos
  refine ⟨2 * hz, many, ?_, ?_⟩
  · rw [UInt32.le_iff_toNat_le, htwo]
    omega
  · rintro ⟨less, more, hless, hmore, hle⟩
    obtain rfl : told = less := Option.some.inj (htold.symm.trans hless)
    obtain rfl : ms = more := Option.some.inj (hms.symm.trans hmore)
    rw [UInt32.le_iff_toNat_le, hvalue, hquotient] at hle
    omega

/-- At a known rate there is always an answer, with the low 32 bits of the milliseconds. It is
faithful and in order up to the ticks that take more bits, of which there are none exactly at the
rates from 1 kHz on. -/
theorem millis_faithful_from_kilohertz {hz : UInt32} (h : hz ≠ 0) :
    (∀ ticks, ∃ ms, millisOfTicks hz ticks = some ms ∧
      ms.toNat = ticks.toNat * 1000 / hz.toNat % 4294967296) ∧
    (∀ few many, few ≤ many → many.toNat * 1000 / hz.toNat < 4294967296 →
      MillisFaithful hz few ∧ MillisFaithful hz many ∧ MillisOrdered hz few many) ∧
    ((∀ ticks, MillisFaithful hz ticks) ↔ 1000 ≤ hz) ∧
    ((∀ few many, few ≤ many → MillisOrdered hz few many) ↔ 1000 ≤ hz) := by
  have faithful (hfast : 1000 ≤ hz) (ticks : UInt32) : MillisFaithful hz ticks :=
    millisFaithful_of_fits h (fits_of_kilohertz hfast ticks)
  refine ⟨millisOfTicks_eq h, ?_, ⟨?_, faithful⟩, ?_, ?_⟩
  · intro few many hle hfits
    have hquotients : few.toNat * 1000 / hz.toNat ≤ many.toNat * 1000 / hz.toNat :=
      Nat.div_le_div_right (Nat.mul_le_mul_right _ (UInt32.le_iff_toNat_le.mp hle))
    have hfew := millisFaithful_of_fits h (Nat.lt_of_le_of_lt hquotients hfits)
    have hmany := millisFaithful_of_fits h hfits
    exact ⟨hfew, hmany, hfew.ordered hmany hle⟩
  · intro hall
    refine UInt32.not_lt.mp fun hslow => ?_
    obtain ⟨ticks, hunfaithful⟩ := not_faithful_of_slow h hslow
    exact hunfaithful (hall ticks)
  · intro hall
    refine UInt32.not_lt.mp fun hslow => ?_
    obtain ⟨few, many, hle, hdisordered⟩ := not_ordered_of_slow h hslow
    exact hdisordered (hall few many hle)
  · intro hfast few many hle
    exact (faithful hfast few).ordered (faithful hfast many) hle

/-- The largest count of a clock at 1 kHz is faithful, and one at 999 Hz has counts that are not. -/
theorem millis_faithful_from_kilohertz_edge :
    (1000 : UInt32) ≠ 0 ∧ MillisFaithful 1000 4294967295 ∧ ¬∀ ticks, MillisFaithful 999 ticks := by
  have hrate : (1000 : UInt32) ≠ 0 := by decide
  have hslower : (999 : UInt32) ≠ 0 := by decide
  obtain ⟨-, -, hfast, -⟩ := millis_faithful_from_kilohertz hrate
  obtain ⟨-, -, hslow, -⟩ := millis_faithful_from_kilohertz hslower
  exact ⟨hrate, hfast.mpr (by decide) _, fun hall => absurd (hslow.mp hall) (by decide)⟩

/-- At 1 Hz the milliseconds start again from zero after 49 days. -/
theorem millis_start_again_at_one_hertz :
    millisOfTicks 1 4294967 = some 4294967000 ∧ millisOfTicks 1 4294968 = some 704 ∧
      ¬MillisFaithful 1 4294968 ∧ ¬MillisOrdered 1 4294967 4294968 := by
  have hlast : millisOfTicks 1 4294967 = some 4294967000 := by decide
  have hagain : millisOfTicks 1 4294968 = some 704 := by decide
  refine ⟨hlast, hagain, ?_, ?_⟩
  · rintro ⟨ms, hms, hvalue⟩
    obtain rfl := Option.some.inj (hagain.symm.trans hms)
    exact absurd hvalue (by decide)
  · rintro ⟨less, more, hless, hmore, hle⟩
    obtain rfl := Option.some.inj (hlast.symm.trans hless)
    obtain rfl := Option.some.inj (hagain.symm.trans hmore)
    exact absurd hle (by decide)

end Msp430
