import Devirt.Graph

/-!
# Routines

A routine is the recovered source of one method: its variables, its parameters and its
control-flow graph. References in the graph count variables and parameters in the order of their
declarations. The first parameter of an instance method is the instance argument.
-/

namespace Devirt

/-- The declaration of a variable or a parameter. -/
structure Declaration where
  name : String
  /-- Recovered type. -/
  type : TypeRef
  deriving DecidableEq, Repr, Inhabited

/-- The recovered source of a method. -/
structure Routine where
  vars : Array Declaration
  parameters : Array Declaration
  graph : Graph
  deriving Inhabited

end Devirt
