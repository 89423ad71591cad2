import Msp430.Proofs.Uptime.Conversions
import Msp430.Uptime.Duration

/-!
The text of a duration, read back. The reader knows nothing of how the text was made: it takes the
fields between colons and the point, and of each field the digits. For every count of ticks at every
known rate it finds the whole milliseconds that the ticks take, and the text fits its buffer.
-/
namespace Msp430

/-! ## Reading a text -/

def isSeparator (c : Char) : Bool := c == ':' || c == '.'

/-- The number in a field, without the blanks that fill it. -/
def fieldValue (field : List Char) : Nat := Nat.ofDigitChars 10 (field.filter Char.isDigit) 0

/-- The milliseconds that a text tells, from `H:MM:SS.mmm` or `MM:SS.mmm`. -/
def millisRead? (text : String) : Option Nat :=
  match (text.toList.splitOnP isSeparator).map fieldValue with
  | [hours, minutes, seconds, millis] => some (((hours * 60 + minutes) * 60 + seconds) * 1000 + millis)
  | [minutes, seconds, millis] => some ((minutes * 60 + seconds) * 1000 + millis)
  | _ => none

/-! ## The form of a text -/

/-- Digits that are a number, perhaps with zeros in front. -/
structure Reads (n : Nat) (digits : List Char) : Prop where
  all_digits : ∀ c ∈ digits, c.isDigit
  value : Nat.ofDigitChars 10 digits 0 = n

/-- A number as it stands alone: a zero in front is the number zero. -/
structure Unpadded (n : Nat) (digits : List Char) : Prop extends Reads n digits where
  nonempty : digits ≠ []
  leading : digits.head? = some '0' → digits = ['0']

structure ZeroPadded (width n : Nat) (digits : List Char) : Prop extends Reads n digits where
  length : digits.length = width

namespace Duration

/-- A duration as it shows: with hours that are not zero, or with minutes that are filled with
blanks. -/
inductive Shown (d : Duration) : List Char → Prop where
  | withHours {h m s ms : List Char} : 1 ≤ d.hours → Unpadded d.hours h →
      ZeroPadded 2 d.minutes m → ZeroPadded 2 d.seconds s → ZeroPadded 3 d.millis ms →
      Shown d (h ++ ':' :: (m ++ ':' :: (s ++ '.' :: ms)))
  | underHour {m s ms : List Char} : d.hours = 0 → Unpadded d.minutes m → m.length ≤ 2 →
      ZeroPadded 2 d.seconds s → ZeroPadded 3 d.millis ms →
      Shown d (.replicate (2 - m.length) ' ' ++ m ++ ':' :: (s ++ '.' :: ms))

def inMillis (d : Duration) : Nat := ((d.hours * 60 + d.minutes) * 60 + d.seconds) * 1000 + d.millis

/-- Each field below the next larger unit is less than one of that. -/
structure Proper (d : Duration) : Prop where
  minutes : d.minutes < 60
  seconds : d.seconds < 60
  millis : d.millis < 1000

end Duration

/-! ## Numbers in decimal -/

/-- By induction on the digits from the right: the first one stays the same. -/
theorem head?_toDigits {n : Nat} (h : n ≠ 0) : (Nat.toDigits 10 n).head? ≠ some '0' := by
  induction n using Nat.strongRecOn with
  | ind n ih =>
    by_cases hsmall : n < 10
    · rw [Nat.toDigits_of_lt_base hsmall]
      simpa using h
    · have hfewer : (Nat.toDigits 10 (n / 10)).head? ≠ some '0' := ih (n / 10) (by omega) (by omega)
      rw [Nat.toDigits_of_base_le (by decide) (by omega), List.head?_append]
      cases hhead : (Nat.toDigits 10 (n / 10)).head? with
      | none => exact absurd (List.head?_eq_none_iff.mp hhead) Nat.toDigits_ne_nil
      | some c =>
        rw [hhead] at hfewer
        exact hfewer

theorem reads_toDigits (n : Nat) : Reads n (Nat.toDigits 10 n) where
  all_digits _ hc := Nat.isDigit_of_mem_toDigits (by decide) (by decide) hc
  value := Nat.ofDigitChars_ten_toDigits

theorem unpadded_toDigits (n : Nat) : Unpadded n (Nat.toDigits 10 n) where
  toReads := reads_toDigits n
  nonempty := Nat.toDigits_ne_nil
  leading := by
    intro hzero
    by_cases h : n = 0
    · rw [h]
      rfl
    · exact absurd hzero (head?_toDigits h)

theorem padded_eq (fill : Char) (width n : Nat) : Duration.padded fill width n =
    .replicate (width - (Nat.toDigits 10 n).length) fill ++ Nat.toDigits 10 n := rfl

theorem zeroPadded_padded {width n : Nat} (h : (Nat.toDigits 10 n).length ≤ width) :
    ZeroPadded width n (Duration.padded '0' width n) where
  all_digits := by
    intro c hc
    rcases List.mem_append.mp hc with hfill | hdigit
    · rw [List.eq_of_mem_replicate hfill]
      rfl
    · exact (reads_toDigits n).all_digits c hdigit
  value := by
    rw [padded_eq, Nat.ofDigitChars_append, Nat.ofDigitChars_replicate_zero, Nat.mul_zero]
    exact Nat.ofDigitChars_ten_toDigits
  length := by
    rw [padded_eq, List.length_append, List.length_replicate]
    omega

/-- At a width of one there is nothing to fill. -/
theorem padded_one (fill : Char) (n : Nat) : Duration.padded fill 1 n = Nat.toDigits 10 n := by
  have hlength : 0 < (Nat.toDigits 10 n).length := Nat.length_toDigits_pos
  rw [padded_eq, Nat.sub_eq_zero_of_le hlength]
  rfl

/-! ## The fields of a text -/

namespace Reads

variable {n : Nat} {digits : List Char}

theorem not_separator (h : Reads n digits) : ∀ c ∈ digits, isSeparator c = false := by
  intro c hc
  have hdigit := h.all_digits c hc
  by_cases hcolon : c = ':'
  · rw [hcolon] at hdigit
    contradiction
  · by_cases hpoint : c = '.'
    · rw [hpoint] at hdigit
      contradiction
    · simp [isSeparator, hcolon, hpoint]

theorem fieldValue_blanks (h : Reads n digits) (blanks : Nat) :
    fieldValue (.replicate blanks ' ' ++ digits) = n := by
  rw [fieldValue, List.filter_append, List.filter_replicate_of_neg (by decide), List.nil_append,
    List.filter_eq_self.mpr h.all_digits, h.value]

theorem fieldValue_eq (h : Reads n digits) : fieldValue digits = n := h.fieldValue_blanks 0

theorem split_blanks (h : Reads n digits) (blanks : Nat) (separator : Char)
    (hseparator : isSeparator separator = true) (rest : List Char) :
    (.replicate blanks ' ' ++ digits ++ separator :: rest).splitOnP isSeparator =
      (.replicate blanks ' ' ++ digits) :: rest.splitOnP isSeparator := by
  apply List.splitOnP_append_cons_of_forall_mem _ separator hseparator rest
  intro c hc
  rcases List.mem_append.mp hc with hblank | hdigit
  · rw [List.eq_of_mem_replicate hblank]
    rfl
  · exact h.not_separator c hdigit

theorem split (h : Reads n digits) (separator : Char) (hseparator : isSeparator separator = true)
    (rest : List Char) :
    (digits ++ separator :: rest).splitOnP isSeparator = digits :: rest.splitOnP isSeparator :=
  h.split_blanks 0 separator hseparator rest

theorem split_last (h : Reads n digits) : digits.splitOnP isSeparator = [digits] :=
  List.splitOnP_eq_singleton h.not_separator

theorem ascii (h : Reads n digits) : ∀ c ∈ digits, c.val ≤ 127 := by
  intro c hc
  have hdigit := h.all_digits c hc
  simp only [Char.isDigit, Bool.and_eq_true, decide_eq_true_eq] at hdigit
  exact UInt32.le_trans hdigit.2 (by decide)

end Reads

theorem utf8ByteSize_ofList_of_ascii {cs : List Char} (h : ∀ c ∈ cs, c.val ≤ 127) :
    (String.ofList cs).utf8ByteSize = cs.length := by
  induction cs with
  | nil => rfl
  | cons c cs ih =>
    have hc : c.utf8Size = 1 := Char.utf8Size_eq_one_iff.mpr (h c List.mem_cons_self)
    rw [String.ofList_cons, String.utf8ByteSize_append, String.utf8ByteSize_singleton, hc,
      ih fun d hd => h d (List.mem_cons_of_mem _ hd), List.length_cons]
    omega

namespace Duration

variable {d : Duration} {cs : List Char}

namespace Shown

theorem read (h : d.Shown cs) : millisRead? (.ofList cs) = some d.inMillis := by
  cases h with
  | withHours _ hh hm hs hms =>
    simp only [millisRead?, String.toList_ofList, hh.split ':' rfl, hm.split ':' rfl,
      hs.split '.' rfl, hms.split_last, List.map_cons, List.map_nil, hh.fieldValue_eq,
      hm.fieldValue_eq, hs.fieldValue_eq, hms.fieldValue_eq, inMillis]
  | underHour hunder hm _ hs hms =>
    simp only [millisRead?, String.toList_ofList, hm.split_blanks _ ':' rfl, hs.split '.' rfl,
      hms.split_last, List.map_cons, List.map_nil, hm.fieldValue_blanks, hs.fieldValue_eq,
      hms.fieldValue_eq, inMillis, hunder, Nat.zero_mul, Nat.zero_add]

example : millisRead? "12:34.500" = some 754500 := by decide

theorem ascii (h : d.Shown cs) : ∀ c ∈ cs, c.val ≤ 127 := by
  have hcolon : ':'.val ≤ 127 := by decide
  have hpoint : '.'.val ≤ 127 := by decide
  have hblank : ' '.val ≤ 127 := by decide
  cases h with
  | withHours _ hh hm hs hms =>
    simp only [List.forall_mem_append, List.forall_mem_cons]
    exact ⟨hh.ascii, hcolon, hm.ascii, hcolon, hs.ascii, hpoint, hms.ascii⟩
  | underHour _ hm _ hs hms =>
    simp only [List.forall_mem_append, List.forall_mem_cons]
    exact ⟨⟨fun c hc => List.eq_of_mem_replicate hc ▸ hblank, hm.ascii⟩, hcolon, hs.ascii, hpoint,
      hms.ascii⟩

end Shown

namespace Proper

theorem minutes_length (h : d.Proper) : (Nat.toDigits 10 d.minutes).length ≤ 2 :=
  (Nat.length_toDigits_le_iff (by decide) (by decide)).mpr (Nat.lt_trans h.minutes (by decide))

theorem minutes_padded (h : d.Proper) : ZeroPadded 2 d.minutes (padded '0' 2 d.minutes) :=
  zeroPadded_padded h.minutes_length

theorem seconds_padded (h : d.Proper) : ZeroPadded 2 d.seconds (padded '0' 2 d.seconds) :=
  zeroPadded_padded <| (Nat.length_toDigits_le_iff (by decide) (by decide)).mpr
    (Nat.lt_trans h.seconds (by decide))

theorem millis_padded (h : d.Proper) : ZeroPadded 3 d.millis (padded '0' 3 d.millis) :=
  zeroPadded_padded <| (Nat.length_toDigits_le_iff (by decide) (by decide)).mpr h.millis

theorem shown (h : d.Proper) : d.Shown d.chars := by
  rw [chars, List.append_assoc, List.cons_append]
  by_cases hunder : d.hours = 0
  · rw [if_pos hunder, padded_eq]
    exact .underHour hunder (unpadded_toDigits _) h.minutes_length h.seconds_padded h.millis_padded
  · rw [if_neg hunder, padded_one, List.append_assoc, List.cons_append]
    exact .withHours (Nat.pos_of_ne_zero hunder) (unpadded_toDigits _) h.minutes_padded
      h.seconds_padded h.millis_padded

/-- With seven digits of hours there is room left. -/
theorem size_le_room (h : d.Proper) (hhours : d.hours < 10000000) : d.text.utf8ByteSize ≤ room := by
  have hdigits : (Nat.toDigits 10 d.hours).length ≤ 7 :=
    (Nat.length_toDigits_le_iff (by decide) (by decide)).mpr (Nat.lt_of_lt_of_le hhours (by decide))
  have hfill : (padded ' ' 2 d.minutes).length = 2 := by
    have hlength := h.minutes_length
    rw [padded_eq, List.length_append, List.length_replicate]
    omega
  rw [text, utf8ByteSize_ofList_of_ascii h.shown.ascii, chars, room]
  split <;>
    simp only [List.length_append, List.length_cons, padded_one, hfill, h.minutes_padded.length,
      h.seconds_padded.length, h.millis_padded.length] <;>
    omega

end Proper

/-! ## Durations of ticks -/

variable {ticks hz : Nat}

theorem proper_ofTicks (ticks : Nat) (h : 0 < hz) : (ofTicks ticks hz).Proper where
  minutes := Nat.mod_lt _ (by decide)
  seconds := Nat.mod_lt _ (by decide)
  millis := by
    rw [ofTicks, Nat.div_lt_iff_lt_mul h, Nat.mul_comm 1000]
    exact Nat.mul_lt_mul_of_pos_right (Nat.mod_lt _ h) (by decide)

/-- Nothing of a millisecond is lost between the fields. -/
theorem inMillis_ofTicks (ticks : Nat) (h : 0 < hz) :
    (ofTicks ticks hz).inMillis = ticks * 1000 / hz := by
  have hfields : (ofTicks ticks hz).inMillis = ticks / hz * 1000 + ticks % hz * 1000 / hz := by
    simp only [inMillis, ofTicks]
    omega
  calc (ofTicks ticks hz).inMillis = ticks / hz * 1000 + ticks % hz * 1000 / hz := hfields
    _ = (hz * (ticks / hz * 1000) + ticks % hz * 1000) / hz := (Nat.mul_add_div h _ _).symm
    _ = ticks * 1000 / hz := by
      rw [← Nat.mul_assoc, ← Nat.add_mul, Nat.div_add_mod]

theorem hours_ofTicks_lt (hz : Nat) (h : ticks < 4294967296) :
    (ofTicks ticks hz).hours < 10000000 := by
  have hseconds : ticks / hz ≤ ticks := Nat.div_le_self _ _
  simp only [ofTicks]
  omega

/-- Hours show from the first full one on. -/
theorem hours_ofTicks_pos (ticks : Nat) (h : 0 < hz) :
    1 ≤ (ofTicks ticks hz).hours ↔ 3600 * hz ≤ ticks := by
  rw [ofTicks, Nat.div_div_eq_div_mul, Nat.le_div_iff_mul_le (Nat.mul_pos h (by decide)), Nat.one_mul,
    Nat.mul_comm hz]

/-- What a text tells of ticks: their whole milliseconds, in fields that each stay below the next
unit, with hours from the first full one on. -/
structure Tells (ticks hz : Nat) (text : String) : Prop where
  room : text.utf8ByteSize ≤ 20
  shown : ∃ d : Duration, d.Shown text.toList ∧ d.Proper ∧ d.inMillis = ticks * 1000 / hz ∧
    (1 ≤ d.hours ↔ 3600 * hz ≤ ticks)
  read : millisRead? text = some (ticks * 1000 / hz)

end Duration

open Duration in
/-- Every count of ticks at every known rate has a text, and that tells its milliseconds exactly. -/
theorem duration_text_exact (ticks hz : UInt32) :
    (durationText ticks hz = none ↔ hz = 0) ∧
      (hz ≠ 0 → ∃ text, durationText ticks hz = some text ∧ Tells ticks.toNat hz.toNat text) := by
  have told (h : hz ≠ 0) :
      ∃ text, durationText ticks hz = some text ∧ Tells ticks.toNat hz.toNat text := by
    have hpos : 0 < hz.toNat := toNat_pos_of_ne h
    let d := ofTicks ticks.toNat hz.toNat
    have hproper : d.Proper := proper_ofTicks _ hpos
    have hroom : d.text.utf8ByteSize ≤ room :=
      hproper.size_le_room (hours_ofTicks_lt _ ticks.toNat_lt)
    have hmillis : d.inMillis = ticks.toNat * 1000 / hz.toNat := inMillis_ofTicks _ hpos
    have hshown : d.Shown d.text.toList := by
      rw [text, String.toList_ofList]
      exact hproper.shown
    refine ⟨d.text, (if_neg h).trans (if_pos hroom), hroom,
      ⟨d, hshown, hproper, hmillis, hours_ofTicks_pos _ hpos⟩, ?_⟩
    rw [← hmillis]
    exact hproper.shown.read
  refine ⟨⟨fun hnone => ?_, fun hzero => if_pos hzero⟩, told⟩
  by_cases h : hz = 0
  · exact h
  · obtain ⟨text, hsome, -⟩ := told h
    rw [hnone] at hsome
    contradiction

/-- The longest text there is. -/
theorem duration_text_exact_longest : (1 : UInt32) ≠ 0 ∧
    durationText 4294967295 1 = some "1193046:28:15.000" ∧
      millisRead? "1193046:28:15.000" = some 4294967295000 := by
  have htext : durationText 4294967295 1 = some "1193046:28:15.000" := by decide
  have hrate : (1 : UInt32) ≠ 0 := by decide
  obtain ⟨text, hsome, htold⟩ := (duration_text_exact 4294967295 1).2 hrate
  obtain rfl := Option.some.inj (htext.symm.trans hsome)
  exact ⟨hrate, htext, htold.read⟩

end Msp430
