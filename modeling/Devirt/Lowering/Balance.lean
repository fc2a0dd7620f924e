import Devirt.Lowering.Error

/-!
# Well-Formed Templates

A template runs on a stack that holds one value for each argument. It is balanced if no
instruction takes more values than there are, and well-formed if moreover every operand has the
form that its opcode asks for. Balance comes first: of two faults it is the one reported.
-/

namespace Devirt

/-- Run instructions one after the other on a stack of the given depth. Gives the depth in the end,
    or the first instruction that takes too many values along with the depth that it finds. -/
def runDepth (returnsValue : Bool) :
    List Instruction → (depth : Nat) → Except (Instruction × Nat) Nat
  | [], depth => .ok depth
  | i :: rest, depth =>
    let use := i.stackUse returnsValue
    match use.takes.remaining? depth with
    | some left => runDepth returnsValue rest (left + use.leaves)
    | none => .error (i, depth)

namespace Template

/-- The first instruction whose operand has a form that its opcode does not ask for. -/
def firstMismatch? (t : Template) : Option Instruction :=
  t.instructions.find? fun i => !i.isWellFormed

/-- The depth that a template leaves when it is applied to arguments. -/
def checkBalance (t : Template) (arguments : List Expr) (returnsValue : Bool) :
    Except LowerError Nat :=
  match runDepth returnsValue t.instructions arguments.length with
  | .ok depth => .ok depth
  | .error (i, depth) => .error (.imbalance (Expr.apply t arguments).text i.text depth)

/-- Check that every operand of a template has the right form. -/
def checkOperands (t : Template) (arguments : List Expr) : Except LowerError Unit :=
  match t.firstMismatch? with
  | none => .ok ()
  | some i =>
    .error (.operandMismatch (Expr.apply t arguments).text i.text i.opcode.operandKind)

/-- Check that a template is well-formed when it is applied to arguments. Gives the depth that it
    leaves. -/
def check (t : Template) (arguments : List Expr) (returnsValue : Bool) :
    Except LowerError Nat := do
  let depth ← t.checkBalance arguments returnsValue
  t.checkOperands arguments
  return depth

end Template

end Devirt
