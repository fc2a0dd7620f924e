import Devirt.Opcode.Table
import Mathlib.Data.List.Nodup

/-!
# Opcodes are a Prefix Code

Opcodes of one byte and opcodes of two bytes follow each other without separators. They can still be
told apart: the escape byte starts every opcode of two bytes and no opcode of one byte, and no two
opcodes have the same value.

Main statements:
- `Opcode.mem_all`: properties of opcodes can be checked on the table.
- `Opcode.encoding_eq`: the bytes of an opcode are those of its value.
- `Opcode.encoding_append_inj`: the opcode at the start of some bytes is determined by them.
-/

namespace Devirt.Opcode

/-- The bytes of an opcode are its value, the upper byte first, if there is one. -/
theorem encoding_eq (o : Opcode) : o.encoding =
    if o.value ≤ 0xff then [UInt8.ofNat o.value] else [0xfe, UInt8.ofNat (o.value % 256)] := by
  have small := o.info.byte.toNat_lt
  unfold encoding value
  cases o.info.isExtended with
  | false =>
    have basic : o.info.byte.toNat ≤ 0xff := by omega
    simp [basic]
  | true =>
    have low : (0xfe00 + o.info.byte.toNat) % 256 = o.info.byte.toNat := by omega
    simp [low]
    omega

theorem mem_all (o : Opcode) : o ∈ all :=
  List.contains_iff_mem.1 o.contains_all

/-- No two opcodes have the same value. -/
theorem value_injective : Function.Injective value := by
  -- the opcodes are listed in the order of their values
  have increasing : (all.map value).IsChain (· < ·) := by decide +kernel
  have nodup : (all.map value).Nodup := increasing.pairwise.imp Nat.ne_of_lt
  intro o o' same
  exact List.inj_on_of_nodup_map nodup o.mem_all o'.mem_all same

/-- The escape byte is no opcode of its own. -/
theorem byte_ne_escape {o : Opcode} (basic : o.info.isExtended = false) : o.info.byte ≠ 0xfe := by
  have table : ∀ o ∈ all, o.info.isExtended = false → o.info.byte ≠ 0xfe := by decide +kernel
  exact table o o.mem_all basic

/-- The opcode at the start of some bytes is determined by them, and so is what follows it. -/
theorem encoding_append_inj {o o' : Opcode} {rest rest' : List UInt8}
    (same : o.encoding ++ rest = o'.encoding ++ rest') : o = o' ∧ rest = rest' := by
  have value : o.info.isExtended = o'.info.isExtended → o.info.byte = o'.info.byte → o = o' := by
    intro size byte
    apply value_injective
    rw [Opcode.value, Opcode.value, size, byte]
  unfold encoding at same
  cases size : o.info.isExtended <;> cases size' : o'.info.isExtended <;>
    simp only [size, size', if_true, Bool.false_eq_true, if_false, List.cons_append,
      List.nil_append, List.cons.injEq, true_and] at same
  case false.false => exact ⟨value (size.trans size'.symm) same.1, same.2⟩
  case true.true => exact ⟨value (size.trans size'.symm) same.1, same.2⟩
  -- of two opcodes of different lengths, the shorter one would be the escape byte
  case false.true => exact absurd same.1 (byte_ne_escape size)
  case true.false => exact absurd same.1.symm (byte_ne_escape size')

end Devirt.Opcode
