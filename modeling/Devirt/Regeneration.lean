import Devirt.Body.StackDepth
import Devirt.Lowering.Regions
import Devirt.Relaxation

/-!
# Regeneration of Method Bodies

The whole way from a routine to the body of a method: bind the variables, lower the nodes, relax
branches, lay the code out, resolve the exception regions, and bound the evaluation stack. No step
revisits what an earlier one decided.

The method changes only if every step succeeds.
-/

namespace Devirt

/-- A finished method body. -/
structure Regenerated where
  body : Body
  /-- Where the code of each node is, in the order of the nodes. -/
  stretches : Array Stretch
  /-- The places of the variables and parameters. -/
  binding : Binding

/-- The text of a finished method body. -/
def Regenerated.text (r : Regenerated) : String :=
  "GeneratedMethod \x7b body: " ++ r.body.text ++ ", node_code: [" ++
    ", ".intercalate (r.stretches.toList.map Stretch.text) ++ "], bindings: " ++
    r.binding.text ++ " \x7d"

/-- What is left after an attempt at a method body. -/
structure Outcome (σ : Type) where
  /-- The body, or the reason why there is none. -/
  result : Except LowerError Regenerated
  method : Method
  /-- State of the functions that update flags afterwards. -/
  state : σ

/-- The same outcome of a step that has to do with the body alone. -/
def ofBodyError {α : Type} (x : Except BodyError α) : Except LowerError α :=
  x.mapError LowerError.body

namespace Config

/-- Bound the evaluation stack of a body, if that is asked for. -/
def boundBody (config : Config) (returnsValue : Bool) (b : Body) : Except LowerError Body :=
  if config.boundStack then do
    return { b with maxStack := ← ofBodyError (b.stackDepth returnsValue) }
  else
    return b

/-- Complete the body of a lowered graph. -/
def complete (config : Config) (returnsValue : Bool) (g : Graph) (l : Listing) :
    Except LowerError Body := do
  let lines := if config.relaxBranches then (relax l.lines).1 else l.lines
  let b := Body.ofLines lines
  let handlers ← RegionContext.handlers ⟨g, l.stretches, b, config⟩
  config.boundBody returnsValue { b with handlers := handlers }

/-- Make the body of a method from a routine. -/
def regenerate {σ : Type} (config : Config) (flags : FlagsLowering σ) (r : Routine)
    (m : Method) (state : σ) : Outcome σ :=
  -- whatever fails, the method stays as it was
  match r.bind m with
  | .error e _ => ⟨.error e, m, state⟩
  | .ok binding bound =>
    let context : LowerContext σ := ⟨config, binding, bound.returnsValue, flags⟩
    match context.listing r.graph ⟨r.graph.supply, state⟩ with
    | .error e emission => ⟨.error e, m, emission.state⟩
    | .ok listing emission =>
      match config.complete bound.returnsValue r.graph listing with
      | .error e => ⟨.error e, m, emission.state⟩
      | .ok body => ⟨.ok ⟨body, listing.stretches, binding⟩, bound, emission.state⟩

end Config

end Devirt
