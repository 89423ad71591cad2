import Msp430.Machine.Field

/-!
Single bits of registers. Writing some bits leaves the bits outside of the mask as they are.
-/
namespace Msp430

theorem and_or_distrib (a b mask : UInt16) : (a ||| b) &&& mask = a &&& mask ||| b &&& mask := by
  apply UInt16.toBitVec_inj.mp
  ext i hi
  simp only [UInt16.toBitVec_and, UInt16.toBitVec_or, BitVec.getElem_and, BitVec.getElem_or]
  exact Bool.and_or_distrib_right ..

theorem clearBits_and {mask kept : UInt16} (h : ~~~mask &&& kept = kept) (bits : UInt16) :
    clearBits mask bits &&& kept = bits &&& kept := by
  rw [clearBits, UInt16.and_assoc, h]

theorem setBits_and {mask kept : UInt16} (h : mask &&& kept = 0) (bits : UInt16) :
    setBits mask bits &&& kept = bits &&& kept := by
  rw [setBits, and_or_distrib, h, UInt16.or_zero]

theorem anyBits_clear_other {mask kept : UInt16} (h : ~~~mask &&& kept = kept) (bits : UInt16) :
    anyBits kept (clearBits mask bits) = anyBits kept bits := by
  simp only [anyBits, clearBits_and h]

theorem anyBits_clear_self (mask bits : UInt16) : anyBits mask (clearBits mask bits) = false := by
  simp [anyBits, clearBits, UInt16.and_assoc]

theorem anyBits_set_other {mask kept : UInt16} (h : mask &&& kept = 0) (bits : UInt16) :
    anyBits kept (setBits mask bits) = anyBits kept bits := by
  simp only [anyBits, setBits_and h]

theorem anyBits_set_self {mask : UInt16} (h : mask ≠ 0) (bits : UInt16) :
    anyBits mask (setBits mask bits) = true := by
  have hm : setBits mask bits &&& mask = mask := by
    apply UInt16.toBitVec_inj.mp
    ext i hi
    simp only [setBits, UInt16.toBitVec_and, UInt16.toBitVec_or, BitVec.getElem_and,
      BitVec.getElem_or]
    cases bits.toBitVec[i] <;> cases mask.toBitVec[i] <;> rfl
  simp [anyBits, hm, h]

theorem setBits_setBits (mask bits : UInt16) :
    setBits mask (setBits mask bits) = setBits mask bits := by
  rw [setBits, setBits, UInt16.or_assoc, UInt16.or_self]

theorem anyBits_replace_other {mask kept : UInt16} (h : ~~~mask &&& kept = kept)
    (h' : mask &&& kept = 0) (value bits : UInt16) :
    anyBits kept (replaceBits mask value bits) = anyBits kept bits := by
  have hz : value &&& mask &&& kept = 0 := by rw [UInt16.and_assoc, h', UInt16.and_zero]
  simp only [anyBits, replaceBits, and_or_distrib, hz, UInt16.or_zero]
  rw [UInt16.and_assoc, h]

theorem anyBits_replace_self {mask value : UInt16} (h : value &&& mask ≠ 0) (bits : UInt16) :
    anyBits mask (replaceBits mask value bits) = true := by
  have hm : replaceBits mask value bits &&& mask = value &&& mask := by
    rw [replaceBits, and_or_distrib, UInt16.and_assoc, UInt16.not_and_self, UInt16.and_zero,
      UInt16.zero_or, UInt16.and_assoc, UInt16.and_self]
  simp [anyBits, hm, h]

/-! ## Registers of one byte -/

theorem replaceBits_and (mask value bits kept : UInt8) :
    replaceBits mask value bits &&& kept =
      (bits &&& (~~~mask &&& kept)) ||| (value &&& (mask &&& kept)) := by
  apply UInt8.toBitVec_inj.mp
  ext i hi
  simp only [replaceBits, UInt8.toBitVec_and, UInt8.toBitVec_or, UInt8.toBitVec_not,
    BitVec.getElem_and, BitVec.getElem_or, BitVec.getElem_not]
  rw [Bool.and_or_distrib_right, Bool.and_assoc, Bool.and_assoc]

theorem anyBits_set_byte {mask : UInt8} (h : mask ≠ 0) (bits : UInt8) :
    anyBits mask (setBits mask bits) = true := by
  have hm : setBits mask bits &&& mask = mask := by
    apply UInt8.toBitVec_inj.mp
    ext i hi
    simp only [setBits, UInt8.toBitVec_and, UInt8.toBitVec_or, BitVec.getElem_and,
      BitVec.getElem_or]
    cases bits.toBitVec[i] <;> cases mask.toBitVec[i] <;> rfl
  simp [anyBits, hm, h]

theorem clearBits_clearBits (mask bits : UInt8) :
    clearBits mask (clearBits mask bits) = clearBits mask bits := by
  rw [clearBits, clearBits, UInt8.and_assoc, UInt8.and_self]

theorem extract_clearBits {f : Field UInt8} {mask : UInt8} (h : ~~~mask &&& f.mask = 0)
    (bits : UInt8) : f.extract (clearBits mask bits) = 0 := by
  rw [Field.extract, clearBits, UInt8.and_assoc, h, UInt8.and_zero, UInt8.zero_shiftRight]

theorem anyBits_clear_byte (mask bits : UInt8) : anyBits mask (clearBits mask bits) = false := by
  simp [anyBits, clearBits, UInt8.and_assoc]

end Msp430
