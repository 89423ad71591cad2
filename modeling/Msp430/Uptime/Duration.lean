/-!
Durations as a clock shows them: `H:MM:SS.mmm`, or `MM:SS.mmm` under an hour.
-/
namespace Msp430

structure Duration where
  hours : Nat
  minutes : Nat
  seconds : Nat
  millis : Nat
  deriving DecidableEq, Repr

namespace Duration

/-- A duration in ticks of a known rate, cut to whole milliseconds. -/
def ofTicks (ticks hz : Nat) : Duration where
  hours := ticks / hz / 3600
  minutes := ticks / hz / 60 % 60
  seconds := ticks / hz % 60
  millis := ticks % hz * 1000 / hz

/-- Decimal digits, with `fill` in front up to the width. -/
def padded (fill : Char) (width n : Nat) : List Char :=
  let digits := Nat.toDigits 10 n
  .replicate (width - digits.length) fill ++ digits

/-- Hours stand in front only if there are any; the minutes are then padded with zeros. -/
def chars (d : Duration) : List Char :=
  (if d.hours = 0 then padded ' ' 2 d.minutes
    else padded '0' 1 d.hours ++ ':' :: padded '0' 2 d.minutes) ++
  ':' :: padded '0' 2 d.seconds ++ '.' :: padded '0' 3 d.millis

def text (d : Duration) : String := .ofList d.chars

/-- The bytes that there is room for in a text. -/
def room : Nat := 20

/-- The text, unless it is too long. -/
def text? (d : Duration) : Option String := if d.text.utf8ByteSize ≤ room then some d.text else none

end Duration

/-- Without a rate there is no duration to show. -/
def durationText (ticks hz : UInt32) : Option String :=
  if hz = 0 then none else (Duration.ofTicks ticks.toNat hz.toNat).text?

end Msp430
