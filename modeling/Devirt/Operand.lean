import Devirt.Label
import Devirt.Member
import Devirt.Numeric.FloatText
import Devirt.Opcode.Basic
import Devirt.Text.Quoted

/-!
# Operands

What stands behind an opcode. Every kind of operand has exactly one form of operand that fits it,
but nothing stops an instruction from carrying an operand of another form: such instructions can
be shown and measured, and are refused when they are encoded.
-/

namespace Devirt

/-- An operand. Floating-point constants are held as their bit patterns. -/
inductive Operand where
  | none
  /-- The instruction that a branch leads to. -/
  | target (label : Label)
  /-- The instructions that the entries of a jump table lead to. -/
  | switch (labels : List Label)
  | int8 (value : Int8)
  | int32 (value : Int32)
  | int64 (value : Int64)
  /-- The bits of a 32-bit floating-point number. -/
  | float32 (bits : UInt32)
  /-- The bits of a 64-bit floating-point number. -/
  | float64 (bits : UInt64)
  | string (value : String)
  | member (member : Member)
  | signature (signature : SignatureRef)
  | localSlot (index : UInt16)
  | argumentSlot (index : UInt16)
  deriving DecidableEq, Repr, Inhabited

namespace Operand

/-- Does the operand have the form that the kind asks for? -/
def fits : Operand → OperandKind → Bool
  | .none, .none => true
  | .target _, .branch | .target _, .shortBranch => true
  | .switch _, .switch => true
  | .int8 _, .int8 => true
  | .int32 _, .int32 => true
  | .int64 _, .int64 => true
  | .float32 _, .float32 => true
  | .float64 _, .float64 => true
  | .string _, .string => true
  | .member _, .field | .member _, .method | .member _, .type | .member _, .token => true
  | .signature _, .signature => true
  | .localSlot _, .localSlot | .localSlot _, .shortLocalSlot => true
  | .argumentSlot _, .argumentSlot | .argumentSlot _, .shortArgumentSlot => true
  | _, _ => false

/-- The instructions to which control may pass because of the operand. -/
def targets : Operand → List Label
  | .target label => [label]
  | .switch labels => labels
  | _ => []

/-- Number of bytes of an operand behind an opcode of the given kind. -/
def width : Operand → OperandKind → Nat
  | .switch labels, .switch => 4 + 4 * labels.length
  | _, kind => kind.baseWidth

/-- Do two operands carry the same value? Floating-point numbers and references are compared by
    what they denote, all else literally. -/
def same : Operand → Operand → Bool
  | .float32 a, .float32 b => Numeric.FloatFormat.single.sameValue a.toNat b.toNat
  | .float64 a, .float64 b => Numeric.FloatFormat.double.sameValue a.toNat b.toNat
  | .member a, .member b => a == b
  | .signature a, .signature b => a == b
  | a, b => decide (a = b)

instance (priority := high) : BEq Operand := ⟨same⟩

/-- The text of an operand. -/
def text : Operand → String
  | .none => ""
  | .target label => label.text
  | .switch labels => "(" ++ ", ".intercalate (labels.map Label.text) ++ ")"
  | .int8 value => toString value.toInt
  | .int32 value => toString value.toInt
  | .int64 value => toString value.toInt
  | .float32 bits => Numeric.FloatFormat.single.text bits.toNat
  | .float64 bits => Numeric.FloatFormat.double.text bits.toNat
  | .string value => Text.quoted value
  | .member m => m.text
  | .signature s => s.text
  | .localSlot index => "V_" ++ toString index.toNat
  | .argumentSlot index => "A_" ++ toString index.toNat

end Operand

end Devirt
