import Devirt.Layout
import Devirt.Opcode.LongForm
import Devirt.Operand

/-!
# Instructions

An instruction is an opcode with an operand; a line of code is an instruction with its label. This
module says how wide instructions are, how they are shown, and what they do to the evaluation
stack.

Some stack effects depend on a signature. Calls take and leave what the signature in their operand
says, and a return takes a value exactly if the enclosing method returns one.
-/

namespace Devirt

/-- An opcode with an operand. -/
structure Instruction where
  opcode : Opcode
  operand : Operand
  deriving DecidableEq, Repr, Inhabited

/-! ## §1 Effect on the evaluation stack -/

/-- How many values an instruction takes from the evaluation stack. -/
inductive Demand where
  | slots (count : Nat)
  | everything
  deriving DecidableEq, Repr

/-- The depth that is left when the demand is met at the given depth; nothing if too few values
    are there. -/
def Demand.remaining? : Demand → (depth : Nat) → Option Nat
  | .everything, _ => some 0
  | .slots count, depth => if count ≤ depth then some (depth - count) else none

/-- Effect of an instruction on the evaluation stack. -/
structure StackUse where
  /-- Values taken first. -/
  takes : Demand
  /-- Values left afterwards. -/
  leaves : Nat
  deriving DecidableEq, Repr

namespace Instruction

/-- An instruction without an operand. -/
def plain (opcode : Opcode) : Instruction := ⟨opcode, .none⟩

/-- The placeholder that marks the start of a block, so that branches can lead there. -/
def anchor : Instruction := plain .nop

/-- A direct call. -/
def call (method : MethodRef) : Instruction := ⟨.call, .member (.method method)⟩

/-- Does the operand have the form that the opcode asks for? -/
def isWellFormed (i : Instruction) : Bool :=
  i.operand.fits i.opcode.operandKind

/-- Is the instruction a return from the method? -/
def isReturn (i : Instruction) : Bool :=
  i.opcode == .ret

/-- Values taken by an instruction whose opcode leaves that to a signature. An operand from which
    no signature can be read takes nothing. -/
def takenBySignature (i : Instruction) (returnsValue : Bool) : Nat :=
  match i.opcode, i.operand with
  | .ret, _ => returnsValue.toNat
  | .newobj, .member (.method m) => m.signature.parameters.length
  | .call, .member (.method m) | .callvirt, .member (.method m) => m.signature.argumentCount
  | .calli, .signature s => s.signature.argumentCount + 1
  | _, _ => 0

/-- Values left by an instruction whose opcode leaves that to a signature. -/
def leftBySignature (i : Instruction) : Nat :=
  match i.operand with
  | .member (.method m) => m.signature.resultCount
  | .signature s => s.signature.resultCount
  | _ => 0

/-- Effect on the evaluation stack, in a method that returns a value or not. -/
def stackUse (i : Instruction) (returnsValue : Bool) : StackUse where
  takes :=
    match i.opcode.pops with
    | .exactly count => .slots count
    | .bySignature => .slots (i.takenBySignature returnsValue)
    | .everything => .everything
  leaves :=
    match i.opcode.pushes with
    | .exactly count => count
    | .bySignature => i.leftBySignature
    | .everything => 0

/-! ## §2 Width, comparison and text -/

/-- An opcode of one or two bytes, then the operand. -/
instance : Width Instruction where
  width i := i.opcode.size + i.operand.width i.opcode.operandKind
  width_pos i := Nat.lt_of_lt_of_le i.opcode.size_pos (Nat.le_add_right _ _)

instance (priority := high) : BEq Instruction :=
  ⟨fun a b => a.opcode == b.opcode && a.operand == b.operand⟩

/-- The mnemonic, followed by the operand if there is one. -/
def text (i : Instruction) : String :=
  match i.operand with
  | .none => i.opcode.mnemonic
  | operand => i.opcode.mnemonic ++ " " ++ operand.text

end Instruction

/-! ## §3 Lines of code -/

/-- An instruction with its label. -/
structure Line where
  label : Label
  instruction : Instruction
  deriving DecidableEq, Repr, Inhabited

namespace Line

/-- A line is as wide as its instruction. -/
instance : Width Line where
  width line := width line.instruction
  width_pos line := width_pos line.instruction

/-- The label, a colon and the instruction. -/
def text (line : Line) : String :=
  line.label.text ++ ": " ++ line.instruction.text

end Line

end Devirt
