import Msp430.Clock.Rates
import Msp430.Timer.Basic

/-!
The 32-bit count. The hardware counts the lower half, interrupts count its overflows, and an overflow
whose interrupt is still to come is added by the reader.
-/
namespace Msp430

variable {σ H : Type}

def countRereads : Nat := 4

namespace TimerPort

def settledCount (p : TimerPort σ) (last : UInt16) : Nat → Run σ UInt16
  | 0 => return last
  | n + 1 => do
    let count ← p.readCount
    if count = last then return last else p.settledCount count n

/-- A timer on the processor's own clock moves between any two reads but never during one, so one
read is enough. -/
def stableCount (p : TimerPort σ) : Run σ UInt16 := do
  let count ← p.readCount
  if (← p.source) = .smclk then return count else p.settledCount count countRereads

end TimerPort

def joinCount (high low : UInt16) : UInt32 := (high.toUInt32 <<< 16) ||| low.toUInt32

/-- Ticks from `now` until `target`, zero or negative once it has been reached. Both stand for times
that are less than half a round of the count apart. -/
def ticksUntil (target now : UInt32) : Int32 := (target - now).toInt32

namespace Timer

variable (t : Timer σ H)

/-- The overflow flag can rise after the count was read, so a count seen with the flag up is read
again. -/
def counter : Run σ UInt32 := do
  let high := (← t.shared.read).overflows
  let low ← t.port.stableCount
  if ← t.port.overflowed then
    return joinCount (high + 1) (← t.port.stableCount)
  return joinCount high low

def resetCounter : Run σ Unit := do
  t.shared.update fun shared => { shared with overflows := 0 }
  t.port.reset
  t.port.clearOverflow

/-- Ticks per second of the hardware count. The rate of an external clock is unknown and stands as
zero. -/
def frequency (rates : Rates σ) : Run σ UInt32 := do
  let rate ← match ← t.port.source with
    | .aclk => rates.aclk
    | .smclk => rates.smclk
    | .taclk | .inclk => pure 0
  return rate >>> (← t.port.dividerShift).toUInt32

end Timer

end Msp430
