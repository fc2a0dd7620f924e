import Devirt.Label
import Devirt.Opcode.Table

/-!
# Faults of Method Bodies

The reasons for which a method body cannot be completed or encoded.
-/

namespace Devirt

/-- Why a method body cannot be completed or encoded. -/
inductive BodyError where
  /-- Encoded bytes could not be delivered. -/
  | delivery (reason : String)
  /-- There are more local variables than can be numbered. -/
  | tooManyLocals
  /-- Something refers to a line that the body does not have. -/
  | unknownLine (label : Label)
  /-- The operand of a line has a form that the opcode does not ask for. -/
  | invalidOperand (label : Label) (opcode : Opcode)
  /-- The operand of a line has the right form but is too large for its field. -/
  | operandOutOfRange (label : Label) (opcode : Opcode)
  /-- The displacement of a branch is too large for its field. -/
  | branchOutOfRange (label : Label) (displacement : Int)
  /-- A line takes more values than there are. -/
  | stackUnderflow (label : Label)
  /-- A line can be reached with two different stack depths. -/
  | inconsistentDepth (label : Label) (expected found : Nat)
  /-- A return leaves values besides its result. -/
  | valuesAtReturn (label : Label) (depth : Nat)
  /-- The evaluation stack grows deeper than can be declared. -/
  | stackTooDeep (depth : Nat)
  /-- The code is longer than can be declared. -/
  | codeTooLong (size : Nat)
  /-- There are more handlers than fit in an exception section. -/
  | tooManyHandlers (count : Nat)
  /-- A range of a handler ends before it starts. -/
  | invertedRange (start stop : Label)
  deriving DecidableEq, Repr

namespace BodyError

/-- The message for a fault. -/
def message : BodyError → String
  | .delivery reason => "I/O error: " ++ reason
  | .tooManyLocals => "too many local variables"
  | .unknownLine label => "reference to unknown instruction " ++ label.text
  | .invalidOperand label opcode =>
    "invalid operand for " ++ opcode.mnemonic ++ " at " ++ label.text
  | .operandOutOfRange label opcode =>
    "operand of " ++ opcode.mnemonic ++ " at " ++ label.text ++ " is out of range"
  | .branchOutOfRange label displacement =>
    "branch at " ++ label.text ++ " cannot encode displacement " ++ toString displacement
  | .stackUnderflow label => "evaluation stack underflow at " ++ label.text
  | .inconsistentDepth label expected found =>
    "instruction " ++ label.text ++ " reached with stack depth " ++ toString expected ++ " and " ++
      toString found
  | .valuesAtReturn label depth =>
    "return at " ++ label.text ++ " leaves " ++ toString depth ++ " values on the stack"
  | .stackTooDeep depth => "maximum stack depth " ++ toString depth ++ " overflows"
  | .codeTooLong size => "method code size " ++ toString size ++ " overflows"
  | .tooManyHandlers count =>
    toString count ++ " exception handlers overflow the exception section"
  | .invertedRange start stop =>
    "exception handler range [" ++ start.text ++ ", " ++ stop.text ++ ") is inverted"

end BodyError

end Devirt
