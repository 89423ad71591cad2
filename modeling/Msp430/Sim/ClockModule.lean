import Msp430.Clock.Capabilities

/-!
A simulated clock module: four registers, a crystal that may not run and oscillator faults that
outlast a number of attempts to clear them.
-/
namespace Msp430

structure ClockModule where
  dcoctl : UInt8 := DcoSetting.powerUp.dcoctl
  bcsctl1 : UInt8 := DcoSetting.powerUp.bcsctl1
  bcsctl2 : UInt8 := 0x00
  bcsctl3 : UInt8 := 0x04
  crystalRunning : Bool := true
  faults : Nat := 0
  deriving DecidableEq, Repr

namespace ClockModule

/-- The crystal's fault shows in every mode that does without VLO. -/
def lfxt1Bits (m : ClockModule) : UInt8 :=
  if Lfxt1Mode.ofCode (ClockField.lfxt1Mode.extract m.bcsctl3) ≠ .vlo ∧ !m.crystalRunning then
    setBits ClockField.lfxt1Fault m.bcsctl3
  else m.bcsctl3

def read (m : ClockModule) : ClockRegister → UInt8
  | .dcoctl => m.dcoctl
  | .bcsctl1 => m.bcsctl1
  | .bcsctl2 => m.bcsctl2
  | .bcsctl3 => m.lfxt1Bits

def write (m : ClockModule) : ClockRegister → UInt8 → ClockModule
  | .dcoctl, bits => { m with dcoctl := bits }
  | .bcsctl1, bits => { m with bcsctl1 := bits }
  | .bcsctl2, bits => { m with bcsctl2 := bits }
  | .bcsctl3, bits => { m with bcsctl3 := clearBits ClockField.lfxt1Fault bits }

def faultFlag (m : ClockModule) : Bool :=
  0 < m.faults || anyBits ClockField.lfxt1Fault m.lfxt1Bits

def clearFault (m : ClockModule) : ClockModule := { m with faults := m.faults - 1 }

/-- The setting of the DCO as one number that grows with its frequency. -/
def dcoCount (m : ClockModule) : Nat :=
  (m.bcsctl1 &&& ClockField.dcoRange).toNat * 256 + m.dcoctl.toNat

def smclkCount (m : ClockModule) : Nat :=
  m.dcoCount >>> (ClockField.smclkDivider.extract m.bcsctl2).toNat

end ClockModule

end Msp430
