/-!
The low power modes and the status register bits that select them.
-/
namespace Msp430

inductive LowPowerMode where
  | lpm0
  | lpm1
  | lpm2
  | lpm3
  | lpm4
  deriving DecidableEq, Repr

namespace StatusRegister

def interruptEnable : UInt16 := 0x0008
def cpuOff : UInt16 := 0x0010
def oscillatorOff : UInt16 := 0x0020
def scg0 : UInt16 := 0x0040
def scg1 : UInt16 := 0x0080

def lowPower : UInt16 := scg1 ||| scg0 ||| oscillatorOff ||| cpuOff

end StatusRegister

open StatusRegister in
/-- LPM1 and LPM2 stop one clock generator more than LPM0 each, LPM3 both of them and LPM4 the
crystal too. -/
def LowPowerMode.statusBits : LowPowerMode → UInt16
  | .lpm0 => cpuOff
  | .lpm1 => scg0 ||| cpuOff
  | .lpm2 => scg1 ||| cpuOff
  | .lpm3 => scg1 ||| scg0 ||| cpuOff
  | .lpm4 => lowPower

end Msp430
