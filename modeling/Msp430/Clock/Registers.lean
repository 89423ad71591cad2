import Msp430.Machine.Field
import Msp430.Machine.Run

/-!
Registers of the clock module and the oscillator fault flag that it raises.
-/
namespace Msp430

variable {σ : Type}

inductive ClockRegister where
  | dcoctl
  | bcsctl1
  | bcsctl2
  | bcsctl3
  deriving DecidableEq, Repr

namespace ClockField

/-! In BCSCTL1. -/

def aclkDivider : Field UInt8 := ⟨0x30, 4⟩
def dcoRange : UInt8 := 0x0F

/-! In BCSCTL2. -/

def mclkSelect : Field UInt8 := ⟨0xC0, 6⟩
def mclkDivider : Field UInt8 := ⟨0x30, 4⟩
def smclkSelect : UInt8 := 0x08
def smclkDivider : Field UInt8 := ⟨0x06, 1⟩

/-! In BCSCTL3. -/

def lfxt1Mode : Field UInt8 := ⟨0x30, 4⟩
def loadCapacitance : UInt8 := 0x0C
def lfxt1Fault : UInt8 := 0x01

end ClockField

inductive Lfxt1Mode where
  | crystal
  | reserved
  | vlo
  | external
  deriving DecidableEq, Repr

namespace Lfxt1Mode

def code : Lfxt1Mode → UInt8
  | .crystal => 0
  | .reserved => 1
  | .vlo => 2
  | .external => 3

def ofCode (code : UInt8) : Lfxt1Mode :=
  if code = 0 then .crystal
  else if code = 1 then .reserved
  else if code = 2 then .vlo
  else .external

def bits (mode : Lfxt1Mode) : UInt8 := mode.code <<< ClockField.lfxt1Mode.shift

end Lfxt1Mode

structure ClockPort (σ : Type) where
  read : ClockRegister → Run σ UInt8
  write : ClockRegister → UInt8 → Run σ Unit
  faultFlag : Run σ Bool
  clearFault : Run σ Unit

namespace ClockPort

variable (p : ClockPort σ)

def change (r : ClockRegister) (f : UInt8 → UInt8) : Run σ Unit := do
  p.write r (f (← p.read r))

def lfxt1Faulted : Run σ Bool := return anyBits ClockField.lfxt1Fault (← p.read .bcsctl3)

def lfxt1Mode : Run σ Lfxt1Mode :=
  return .ofCode (ClockField.lfxt1Mode.extract (← p.read .bcsctl3))

end ClockPort

end Msp430
