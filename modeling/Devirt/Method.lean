import Devirt.Body.Error
import Devirt.Member

/-!
# Methods

A method whose body is being generated. Unlike the members of a catalogue it changes: it gains
local variables, and the types of its parameters are refined.

Parameters and local variables are numbered by 16 bits. Local variables beyond the capacity are
refused; the numbers of parameters wrap around.
-/

namespace Devirt

/-- A parameter of a method, the implicit instance argument included. -/
structure Parameter where
  index : UInt16
  type : TypeRef
  /-- Is this the implicit instance argument? -/
  isHiddenThis : Bool
  deriving DecidableEq, Repr, Inhabited

/-- A local variable of a method. -/
structure LocalSlot where
  index : UInt16
  type : TypeRef
  deriving DecidableEq, Repr, Inhabited

/-- A method whose body is being generated. -/
structure Method where
  name : String
  declaringType : TypeRef
  /-- The parameters, starting with the instance argument if there is one. -/
  parameters : Array Parameter
  returnType : Option TypeRef
  slots : Array LocalSlot
  deriving DecidableEq, Repr, Inhabited

namespace Method

/-- Number of local variables that a method can have. -/
def capacity : Nat := 65535

/-- A method without local variables. The instance argument, if there is one, has the declaring
    type. -/
def ofSignature (name : String) (declaringType : TypeRef) (signature : Signature) : Method :=
  let this := if signature.hasThis then [(declaringType, true)] else []
  let types := (this ++ signature.parameters.map (·, false)).toArray
  { name := name
    declaringType := declaringType
    parameters := types.mapIdx fun index (type, isHiddenThis) =>
      ⟨UInt16.ofNat index, type, isHiddenThis⟩
    returnType := signature.returnType
    slots := #[] }

/-- Is the first parameter the instance argument? -/
def hasThis (m : Method) : Bool :=
  m.parameters[0]?.any (·.isHiddenThis)

/-- Does the method return a value? -/
def returnsValue (m : Method) : Bool :=
  m.returnType.isSome

/-- Add a local variable of the given type, and tell its index. -/
def addSlot (type : TypeRef) : EStateM BodyError Method UInt16 := fun m =>
  if m.slots.size < capacity then
    let index := UInt16.ofNat m.slots.size
    .ok index { m with slots := m.slots.push ⟨index, type⟩ }
  else
    .error .tooManyLocals m

end Method

end Devirt
