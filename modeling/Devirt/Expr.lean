import Devirt.Flag
import Devirt.Instruction

/-!
# Expressions and Statements

What a block of recovered code consists of. An expression loads a variable, or applies a template
of instructions to arguments, or converts a value of the virtual machine to a host type. A
statement evaluates an expression or assigns its value.

Expressions are shown in error messages, so their text is part of the behaviour of the library.
-/

namespace Devirt

/-! ## §1 Syntax -/

/-- A variable or parameter of a routine, by its number. -/
inductive Ref where
  | var (index : Nat)
  | arg (index : Nat)
  deriving DecidableEq, Repr, Inhabited

/-- A reference is shown as `var0` or `arg0`. -/
def Ref.text : Ref → String
  | .var index => "var" ++ toString index
  | .arg index => "arg" ++ toString index

/-- An update of the flags register along with an operation. -/
structure FlagsUpdate where
  /-- The flags that change. -/
  affected : FlagSet
  /-- Are the flags computed from the inverted result? -/
  inverted : Bool
  deriving DecidableEq, Repr, Inhabited

/-- Instructions that are applied to the values of arguments. -/
structure Template where
  /-- The instructions, which find the values of the arguments on the stack. -/
  instructions : List Instruction
  /-- The update of the flags register, if there is one. -/
  flagsUpdate : Option FlagsUpdate
  /-- Type of the value left on the stack, if there is one. -/
  resultType : Option TypeRef
  deriving DecidableEq, Repr, Inhabited

/-- An expression. -/
inductive Expr where
  | load (ref : Ref)
  | address (ref : Ref)
  /-- A value of the virtual machine, converted to a host type. -/
  | unbox (value : Expr) (target : TypeRef)
  /-- A template applied to arguments, which are evaluated in order. -/
  | apply (template : Template) (arguments : List Expr)
  deriving Repr, Inhabited

/-- A statement. -/
inductive Statement where
  | eval (expr : Expr)
  | assign (target : Ref) (value : Expr)
  deriving Repr, Inhabited

/-- The statements of one node of a control-flow graph. -/
abbrev Block := List Statement

/-- Let an application of a template update flags. Other expressions stay as they are. -/
def Expr.withFlags (update : FlagsUpdate) : Expr → Expr
  | .apply template arguments => .apply { template with flagsUpdate := some update } arguments
  | e => e

/-! ## §2 Text -/

/-- What stands in front of the arguments: a single instruction as it is, others in brackets. -/
def Template.operatorText (t : Template) : String :=
  match t.instructions with
  | [single] => single.text
  | instructions => "[" ++ "; ".intercalate (instructions.map Instruction.text) ++ "]"

/-- The text of an update of the flags register. -/
def FlagsUpdate.text (u : FlagsUpdate) : String :=
  " updating " ++ u.affected.text ++ (if u.inverted then " (inverted)" else "")

/-- What stands behind the arguments: the flags that change, then the type of the result. -/
def Template.resultText (t : Template) : String :=
  t.flagsUpdate.elim "" FlagsUpdate.text ++ t.resultType.elim "" fun type => " : " ++ type.text

mutual
/-- The text of an expression. -/
def Expr.text : Expr → String
  | .load ref => ref.text
  | .address ref => "&" ++ ref.text
  | .unbox value target => "unbox<" ++ target.text ++ ">(" ++ value.text ++ ")"
  | .apply template arguments =>
    template.operatorText ++ "(" ++ ", ".intercalate (Expr.texts arguments) ++ ")" ++
      template.resultText
/-- The texts of expressions. -/
def Expr.texts : List Expr → List String
  | [] => []
  | e :: es => e.text :: Expr.texts es
end

/-- The text of a statement. -/
def Statement.text : Statement → String
  | .eval expr => expr.text
  | .assign target value => target.text ++ " = " ++ value.text

/-- The text of a block: a line for each statement. -/
def Block.text (block : Block) : String :=
  String.join (block.map fun statement => statement.text ++ ";\n")

end Devirt
