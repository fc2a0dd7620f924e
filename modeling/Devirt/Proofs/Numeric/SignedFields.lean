import Devirt.Numeric.LittleEndian

/-!
# Signed Fields

A field in two's complement is read back as the number of its bytes, balanced around zero. A number
that fits in a field is the one that is read back, and the constants of a machine word are read back
from the bits of the word.

Main statements:
- `ofSignedLittleEndian`: how a field in two's complement is read.
- `ofSignedLittleEndian_signedLittleEndian`: a number that fits is read back.
-/

namespace Devirt.Numeric

/-- The signed number that a field in two's complement holds. -/
def ofSignedLittleEndian (field : List UInt8) : Int :=
  (ofLittleEndian field : Int).bmod (fieldCapacity field.length)

@[simp] theorem length_signedLittleEndian (width : Nat) (n : Int) :
    (signedLittleEndian width n).length = width :=
  length_littleEndian width _

/-- A signed field is read modulo its capacity, like an unsigned one. -/
theorem ofSignedLittleEndian_littleEndian (width n : Nat) :
    ofSignedLittleEndian (littleEndian width n) = (n : Int).bmod (fieldCapacity width) := by
  rw [ofSignedLittleEndian, ofLittleEndian_littleEndian, length_littleEndian, Int.natCast_emod,
    Int.emod_bmod]

theorem fieldCapacity_pos (width : Nat) : 0 < fieldCapacity width := by
  induction width with
  | zero => exact Nat.one_pos
  | succ width ih => exact Nat.mul_pos (by decide) ih

/-- A signed number that fits in a field is the one read back from it. -/
theorem ofSignedLittleEndian_signedLittleEndian {width : Nat} {n : Int}
    (fits : fitsSigned width n = true) :
    ofSignedLittleEndian (signedLittleEndian width n) = n := by
  simp only [fitsSigned, Bool.and_eq_true, decide_eq_true_eq] at fits
  obtain ⟨lower, upper⟩ := fits
  have positive := fieldCapacity_pos width
  -- the bytes hold the residue of the number, which is a natural one
  have residue : (((n % fieldCapacity width).toNat : Nat) : Int) = n % fieldCapacity width :=
    Int.toNat_of_nonneg (Int.emod_nonneg _ (by omega))
  rw [signedLittleEndian, ofSignedLittleEndian_littleEndian, residue, Int.emod_bmod]
  exact Int.bmod_eq_of_le lower (by omega)

/-! ## Machine words -/

theorem ofSignedLittleEndian_int8 (value : Int8) :
    ofSignedLittleEndian (littleEndian 1 value.toUInt8.toNat) = value.toInt := by
  rw [ofSignedLittleEndian_littleEndian]
  -- a word in two's complement is defined by the same residue
  exact value.toBitVec.toInt_eq_toNat_bmod.symm

theorem ofSignedLittleEndian_int32 (value : Int32) :
    ofSignedLittleEndian (littleEndian 4 value.toUInt32.toNat) = value.toInt := by
  rw [ofSignedLittleEndian_littleEndian]
  exact value.toBitVec.toInt_eq_toNat_bmod.symm

theorem ofSignedLittleEndian_int64 (value : Int64) :
    ofSignedLittleEndian (littleEndian 8 value.toUInt64.toNat) = value.toInt := by
  rw [ofSignedLittleEndian_littleEndian]
  exact value.toBitVec.toInt_eq_toNat_bmod.symm

theorem ofLittleEndian_of_lt {width n : Nat} (fits : n < fieldCapacity width) :
    ofLittleEndian (littleEndian width n) = n := by
  rw [ofLittleEndian_littleEndian, Nat.mod_eq_of_lt fits]

end Devirt.Numeric
