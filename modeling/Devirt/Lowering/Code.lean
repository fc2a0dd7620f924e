import Devirt.Lowering.Balance
import Devirt.Lowering.Binding
import Devirt.Lowering.Config

/-!
# Code of Expressions and Statements

An expression becomes code that leaves its value on the evaluation stack: the code of its
arguments in order, then the instructions of its template. A template is checked before its
arguments are lowered, so of several faults in an expression the outermost and leftmost one is
reported. Statements leave the stack as they found it: a value that nothing uses is dropped.
-/

namespace Devirt

/-- What lowering a routine refers to. -/
structure LowerContext (σ : Type) where
  config : Config
  binding : Binding
  /-- Does the method return a value? -/
  returnsValue : Bool
  flags : FlagsLowering σ

/-! ## §1 Instructions for references -/

namespace Ref

/-- The opcode that loads a variable or parameter. -/
def loadOpcode : Ref → Opcode
  | .var _ => .ldloc
  | .arg _ => .ldarg

/-- The opcode that loads the address of a variable or parameter. -/
def addressOpcode : Ref → Opcode
  | .var _ => .ldloca
  | .arg _ => .ldarga

/-- The opcode that stores into a variable or parameter. -/
def storeOpcode : Ref → Opcode
  | .var _ => .stloc
  | .arg _ => .starg

end Ref

/-- The instructions that convert the value on the stack to a host type. Objects need no
    description of their type. -/
def Converters.instructions (c : Converters) (target : TypeRef) : List Instruction :=
  if target.fullName = CoreType.object.fullName then
    [.call c.toObject]
  else
    [⟨.ldtoken, .member (.type target)⟩, .call c.typeFromHandle, .call c.toType]

namespace LowerContext

variable {σ : Type}

/-- Emit an opcode on the place of a variable or parameter. -/
def onPlace (c : LowerContext σ) (opcode : Opcode) (ref : Ref) : Emit σ Line := do
  let operand ← Emit.ofExcept (c.binding.operand ref)
  Emit.line ⟨opcode, operand⟩

/-! ## §2 Expressions -/

/-- Name the expression in a fault of the functions that update flags. -/
def naming {α : Type} (e : Expr) (x : Emit σ α) : Emit σ α :=
  EStateM.adaptExcept (fun cause => LowerError.inExpr e.text cause) x

mutual
/-- The code of an expression. -/
def expr (c : LowerContext σ) : Expr → Emit σ (Array Line)
  | .load ref => return #[← c.onPlace ref.loadOpcode ref]
  | .address ref => return #[← c.onPlace ref.addressOpcode ref]
  | .unbox value target => do
    let code ← c.expr value
    return code ++ (← Emit.lines (c.config.converters.instructions target))
  | .apply template arguments => do
    -- faults of the template come before those of its arguments
    let _ ← Emit.ofExcept (template.check arguments c.returnsValue)
    match template.flagsUpdate with
    | none =>
      let code ← c.exprs arguments
      return code ++ (← Emit.lines template.instructions)
    | some update =>
      let mask := c.config.machine.mask update.affected
      match arguments with
      | [argument] =>
        let argument' ← c.expr argument
        naming (.apply template [argument])
          (c.flags.unary argument' template.instructions mask)
      | [left, right] =>
        let left' ← c.expr left
        let right' ← c.expr right
        naming (.apply template [left, right])
          (c.flags.binary left' right' template.instructions
            ⟨mask, update.inverted, template.resultType.isSome⟩)
      | others => throw (.flagsArity (Expr.apply template others).text others.length)
/-- The code of expressions, one after the other. -/
def exprs (c : LowerContext σ) : List Expr → Emit σ (Array Line)
  | [] => return #[]
  | e :: es => do
    let code ← c.expr e
    return code ++ (← c.exprs es)
end

/-! ## §3 Statements -/

/-- Does an expression that is evaluated for its effect leave a value to drop? Expressions with a
    result always do. Others must leave nothing, except that the functions that update flags drop
    the result of an operation with two arguments themselves. -/
def leavesValue (c : LowerContext σ) : Expr → Except LowerError Bool
  | .load _ | .address _ | .unbox _ _ => return true
  | .apply template arguments => do
    if template.resultType.isSome then
      return true
    else if template.flagsUpdate.isSome && arguments.length != 1 then
      return false
    else
      match ← template.checkBalance arguments c.returnsValue with
      | 0 => return false
      | depth => throw (.residue (Expr.apply template arguments).text depth)

/-- The code of a statement. -/
def statement (c : LowerContext σ) : Statement → Emit σ (Array Line)
  | .eval e => do
    let drop ← Emit.ofExcept (c.leavesValue e)
    let code ← c.expr e
    if drop then
      return code.push (← Emit.line (.plain .pop))
    else
      return code
  | .assign target value => do
    let code ← c.expr value
    return code.push (← c.onPlace target.storeOpcode target)

/-- The code of a block behind the anchor of its node. -/
def block (c : LowerContext σ) (anchor : Label) (statements : Block) : Emit σ (Array Line) :=
  statements.foldlM (fun code s => return code ++ (← c.statement s)) #[⟨anchor, .anchor⟩]

end LowerContext

end Devirt
