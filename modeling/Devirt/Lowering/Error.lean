import Devirt.Body.Error
import Devirt.Expr
import Devirt.Graph

/-!
# Faults of Lowering

The reasons for which a routine cannot be turned into a method body. Expressions and instructions
are carried as their texts.
-/

namespace Devirt

/-- A part of an exception region. -/
inductive RegionPart where
  /-- The protected nodes. -/
  | guarded
  /-- The nodes that handle exceptions. -/
  | handler
  /-- The nodes that decide. -/
  | filter
  deriving DecidableEq, Repr, Inhabited

/-- The word for a part of a region. -/
def RegionPart.text : RegionPart → String
  | .guarded => "try"
  | .handler => "handler"
  | .filter => "filter"

/-- Why a routine cannot be turned into a method body. -/
inductive LowerError where
  /-- The body cannot be completed. -/
  | body (cause : BodyError)
  /-- The method has fewer parameters than the routine declares. -/
  | missingParameter (parameter available : Nat)
  /-- A variable or parameter is used that is not declared. -/
  | unbound (ref : Ref)
  /-- An expression that updates flags has neither one nor two arguments. -/
  | flagsArity (expr : String) (arity : Nat)
  /-- An instruction of a template takes more values than there are. -/
  | imbalance (expr instruction : String) (depth : Nat)
  /-- The operand of an instruction of a template has a form that the opcode does not ask for. -/
  | operandMismatch (expr instruction : String) (expected : OperandKind)
  /-- An expression without a result leaves values. -/
  | residue (expr : String) (depth : Nat)
  /-- No kind of handler belongs to the tag of a region. -/
  | unsupportedRegion (region : Nat) (tag : UInt8)
  /-- A filter region has no nodes that decide. -/
  | missingFilter (region : Nat)
  /-- A part of a region has no nodes. -/
  | emptyRegion (region : Nat) (part : RegionPart)
  /-- A region has a node that the graph does not have. -/
  | unknownNode (node : Nat)
  /-- No line follows the last one of a part of a region. -/
  | openRegion (region : Nat) (part : RegionPart) (node : Nat)
  /-- The nodes of a part of a region are not laid out next to each other. -/
  | scatteredRegion (region : Nat) (part : RegionPart)
  /-- The update of flags by an expression cannot be lowered. -/
  | inExpr (expr : String) (cause : LowerError)
  deriving DecidableEq, Repr

namespace LowerError

/-- The message for a fault. -/
def message : LowerError → String
  | .body cause => "bytecode error: " ++ cause.message
  | .missingParameter parameter available =>
    "parameter " ++ toString parameter ++ " has no physical counterpart (method has " ++
      toString available ++ " parameters)"
  | .unbound ref => ref.text ++ " is not bound"
  | .flagsArity expr arity =>
    "flag-affecting expression with " ++ toString arity ++ " arguments: " ++ expr
  | .imbalance expr instruction depth =>
    instruction ++ " underflows a stack of depth " ++ toString depth ++ " in " ++ expr
  | .operandMismatch expr instruction expected =>
    instruction ++ " should have an operand of kind " ++ expected.name ++ " in " ++ expr
  | .residue expr depth =>
    "statement leaves " ++ toString depth ++ " values on the stack: " ++ expr
  | .unsupportedRegion region tag =>
    "exception region " ++ toString region ++ " has unsupported kind 0x" ++
      Numeric.hexPadded 2 tag.toNat
  | .missingFilter region => "filter region " ++ toString region ++ " has no filter body"
  | .emptyRegion region part =>
    "exception region " ++ toString region ++ " has an empty " ++ part.text ++ " block"
  | .unknownNode node => "unknown node " ++ nodeText node
  | .openRegion region part node =>
    "no instruction follows " ++ nodeText node ++ " (end of " ++ part.text ++
      " block of exception region " ++ toString region ++ ")"
  | .scatteredRegion region part =>
    part.text ++ " block of exception region " ++ toString region ++ " is not contiguous"
  | .inExpr expr cause => cause.message ++ " (in " ++ expr ++ ")"

end LowerError

end Devirt
