import Devirt.Opcode.Table

/-!
# Short and Long Branches

A branch comes in a short form, with a displacement of one byte, and a long form, with one of four
bytes. The forms have the same effect. Every opcode with a short displacement has a long form, and
no other opcode has one.
-/

namespace Devirt.Opcode

/-- The long form of a short branch. -/
def longForm? : Opcode → Option Opcode
  | .brS => some .br
  | .brfalseS => some .brfalse
  | .brtrueS => some .brtrue
  | .beqS => some .beq
  | .bgeS => some .bge
  | .bgtS => some .bgt
  | .bleS => some .ble
  | .bltS => some .blt
  | .bneUnS => some .bneUn
  | .bgeUnS => some .bgeUn
  | .bgtUnS => some .bgtUn
  | .bleUnS => some .bleUn
  | .bltUnS => some .bltUn
  | .leaveS => some .leave
  | _ => none

/-- Does the opcode carry a displacement of one byte? -/
def isShortBranch (o : Opcode) : Bool :=
  o.operandKind == .shortBranch

/-- Exactly the short branches have a long form. -/
theorem isSome_longForm? (o : Opcode) : o.longForm?.isSome = o.isShortBranch := by
  cases o <;> rfl

/-- A long form carries a displacement of four bytes. -/
theorem operandKind_of_longForm? {o long : Opcode} (h : o.longForm? = some long) :
    long.operandKind = .branch := by
  cases o <;> cases h <;> rfl

end Devirt.Opcode
