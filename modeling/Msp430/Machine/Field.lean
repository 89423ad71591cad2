/-!
Bit fields of a control register, for registers of any width.
-/
namespace Msp430

/-- The bits of a register under `mask`, holding a value that starts at bit `shift`. -/
structure Field (α : Type) where
  mask : α
  shift : α

variable {α : Type} [AndOp α] [OrOp α] [Complement α] [ShiftLeft α] [ShiftRight α]

/-- The bits outside the mask stay and those inside it come from `value`. -/
def replaceBits (mask value bits : α) : α := (bits &&& ~~~mask) ||| (value &&& mask)

def clearBits (mask bits : α) : α := bits &&& ~~~mask

def setBits (mask bits : α) : α := bits ||| mask

def anyBits [OfNat α 0] [DecidableEq α] (mask bits : α) : Bool := bits &&& mask ≠ 0

namespace Field

def extract (f : Field α) (bits : α) : α := (bits &&& f.mask) >>> f.shift

/-- A value wider than the field loses its upper bits. -/
def insert (f : Field α) (value bits : α) : α := replaceBits f.mask (value <<< f.shift) bits

end Field

end Msp430
