import Devirt.Lowering.Error
import Devirt.Method
import Devirt.Routine

/-!
# Binding

Binding gives the variables and parameters of a routine their places in a method. Every variable
gets a new local variable. Every parameter gets the argument of the parameter of the method with
the same number, whose type becomes the recovered one; only the instance argument keeps its type.

A failure leaves the method as far as binding got.
-/

namespace Devirt

/-- The places of the variables and parameters of a routine. -/
structure Binding where
  /-- The local variable of each variable. -/
  slots : Array UInt16
  /-- The argument of each parameter. -/
  arguments : Array UInt16
  deriving DecidableEq, Repr, Inhabited

namespace Binding

/-- The operand that names the place of a variable or parameter. -/
def operand (b : Binding) (ref : Ref) : Except LowerError Operand :=
  let operand? :=
    match ref with
    | .var index => b.slots[index]?.map Operand.localSlot
    | .arg index => b.arguments[index]?.map Operand.argumentSlot
  match operand? with
  | some operand => .ok operand
  | none => .error (.unbound ref)

/-- The text of a binding. -/
def text (b : Binding) : String :=
  let list (places : Array UInt16) :=
    "[" ++ ", ".intercalate (places.toList.map fun place => toString place.toNat) ++ "]"
  "Bindings \x7b locals: " ++ list b.slots ++ ", arguments: " ++ list b.arguments ++ " \x7d"

end Binding

/-- Take over the recovered types of parameters, except for the instance argument. -/
def Method.retype (m : Method) (declared : Array Declaration) : Method :=
  { m with parameters := m.parameters.mapIdx fun index p =>
      match declared[index]? with
      | some d => if p.isHiddenThis then p else { p with type := d.type }
      | none => p }

namespace Routine

/-- Add a local variable for every variable. -/
def bindVariables (r : Routine) : EStateM BodyError Method (Array UInt16) :=
  r.vars.mapM fun d => Method.addSlot d.type

/-- Find the argument of every parameter, and take over their types. -/
def bindParameters (r : Routine) : EStateM LowerError Method (Array UInt16) := fun m =>
  -- types are taken over even if there are too few parameters
  let m := m.retype r.parameters
  let available := m.parameters.size
  if r.parameters.size ≤ available then
    .ok ((m.parameters.extract 0 r.parameters.size).map (·.index)) m
  else
    .error (.missingParameter available available) m

/-- Bind the variables of a routine, then its parameters. -/
def bind (r : Routine) : EStateM LowerError Method Binding := do
  let slots ← EStateM.adaptExcept LowerError.body r.bindVariables
  let arguments ← r.bindParameters
  return ⟨slots, arguments⟩

end Routine

end Devirt
