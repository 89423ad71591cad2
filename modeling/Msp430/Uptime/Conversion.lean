/-!
Ticks of the uptime clock and the units of time. Products are formed without overflow; what does not
fit a count of ticks becomes the largest count.
-/
namespace Msp430

def saturated (n : Nat) : UInt32 := if n < 0x100000000 then n.toUInt32 else 0xFFFFFFFF

def ticksOfMillis (hz ms : UInt32) : UInt32 := saturated (ms.toNat * hz.toNat / 1000)

def ticksOfMicros (hz us : UInt32) : UInt32 := saturated (us.toNat * hz.toNat / 1000000)

/-- The fewest ticks that cover a number of nanoseconds. -/
def ticksOfNanos (hz ns : UInt32) : UInt32 :=
  saturated ((ns.toNat * hz.toNat + 999999999) / 1000000000)

/-- Whole milliseconds in a number of ticks, as the low 32 bits of their count. Without a rate there
are none. -/
def millisOfTicks (hz ticks : UInt32) : Option UInt32 :=
  if hz = 0 then none else some (ticks.toNat * 1000 / hz.toNat).toUInt32

end Msp430
