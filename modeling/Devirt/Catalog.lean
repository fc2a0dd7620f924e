import Devirt.Member

/-!
# Catalogue of References

A catalogue interns the references that generated code makes: importing the same thing twice gives
the same reference, so every reference has one token. Types are the same if their full names are;
methods and fields, if their declaring types, names and types are; standalone signatures, if they
are equal. Every catalogue knows a few core types from the start.

A token is the number of a table in the top byte and a row number below it, rows being counted
from one. Methods and fields share a table.
-/

namespace Devirt

/-! ## §1 Tokens -/

/-- The tables that tokens refer to. -/
inductive TokenTable where
  /-- Types. -/
  | types
  /-- Methods and fields. -/
  | members
  /-- Standalone signatures. -/
  | signatures
  deriving DecidableEq, Repr

namespace TokenTable

/-- The number of a table. -/
def number : TokenTable → UInt32
  | .types => 0x01
  | .members => 0x0a
  | .signatures => 0x11

/-- The token of a row. -/
def token (table : TokenTable) (row : Nat) : UInt32 :=
  (table.number <<< 24) ||| UInt32.ofNat row

end TokenTable

/-! ## §2 Core types -/

/-- The types that every catalogue holds. -/
inductive CoreType where
  /-- The root of all types. -/
  | object
  /-- Strings. -/
  | string
  /-- Descriptions of types. -/
  | systemType
  /-- Handles from which descriptions of types are made. -/
  | runtimeTypeHandle
  /-- The root of all exceptions. -/
  | exception
  deriving DecidableEq, Repr

namespace CoreType

/-- The core types in the order of their rows. -/
def all : List CoreType :=
  [.object, .string, .systemType, .runtimeTypeHandle, .exception]

/-- The full name of a core type. -/
def fullName : CoreType → String
  | .object => "System.Object"
  | .string => "System.String"
  | .systemType => "System.Type"
  | .runtimeTypeHandle => "System.RuntimeTypeHandle"
  | .exception => "System.Exception"

/-- Handles are the only core type that is stored in place. -/
def isValueType (t : CoreType) : Bool :=
  t == .runtimeTypeHandle

/-- The row of a core type among the types. -/
def row : CoreType → Nat
  | .object => 1
  | .string => 2
  | .systemType => 3
  | .runtimeTypeHandle => 4
  | .exception => 5

/-- The reference to a core type, which is the same in every catalogue. -/
def ref (t : CoreType) : TypeRef :=
  ⟨t.fullName, t.isValueType, TokenTable.types.token t.row⟩

end CoreType

/-! ## §3 Importing -/

/-- The references handed out so far, each kind in the order of first import. -/
structure Catalog where
  /-- Types, the core types first. -/
  types : Array TypeRef
  /-- Methods. -/
  methods : Array MethodRef
  /-- Fields. -/
  fields : Array FieldRef
  /-- Standalone signatures. -/
  signatures : Array SignatureRef
  deriving Repr

namespace Catalog

/-- The catalogue of the core types alone. -/
def initial : Catalog :=
  ⟨(CoreType.all.map CoreType.ref).toArray, #[], #[], #[]⟩

instance : Inhabited Catalog := ⟨initial⟩

/-- The type of the given full name, if it has been imported. -/
def type? (c : Catalog) (fullName : String) : Option TypeRef :=
  c.types.find? (·.fullName == fullName)

/-- The methods of a type, in the order of first import. -/
def methodsOf (c : Catalog) (t : TypeRef) : Array MethodRef :=
  c.methods.filter (·.declaringType == t)

/-- The fields of a type, in the order of first import. -/
def fieldsOf (c : Catalog) (t : TypeRef) : Array FieldRef :=
  c.fields.filter (·.declaringType == t)

/-- The token of the next method or field. -/
def nextMemberToken (c : Catalog) : UInt32 :=
  TokenTable.members.token (c.methods.size + c.fields.size + 1)

/-- Import a type. Whether it is a value type is settled by its first import. -/
def importType (fullName : String) (isValueType : Bool) : StateM Catalog TypeRef := fun c =>
  match c.type? fullName with
  | some known => (known, c)
  | none =>
    let t : TypeRef := ⟨fullName, isValueType, TokenTable.types.token (c.types.size + 1)⟩
    (t, { c with types := c.types.push t })

/-- Import a method. -/
def importMethod (declaringType : TypeRef) (name : String) (signature : Signature) :
    StateM Catalog MethodRef := fun c =>
  match c.methods.find? fun m =>
    m.declaringType == declaringType && m.name == name && m.signature == signature with
  | some known => (known, c)
  | none =>
    let m : MethodRef := ⟨declaringType, name, signature, c.nextMemberToken⟩
    (m, { c with methods := c.methods.push m })

/-- Import a field. Whether it is static is settled by its first import. -/
def importField (declaringType : TypeRef) (name : String) (fieldType : TypeRef)
    (isStatic : Bool) : StateM Catalog FieldRef := fun c =>
  match c.fields.find? fun f =>
    f.declaringType == declaringType && f.name == name && f.fieldType == fieldType with
  | some known => (known, c)
  | none =>
    let f : FieldRef := ⟨declaringType, name, fieldType, isStatic, c.nextMemberToken⟩
    (f, { c with fields := c.fields.push f })

/-- Import a standalone signature. -/
def importSignature (signature : Signature) : StateM Catalog SignatureRef := fun c =>
  match c.signatures.find? (·.signature == signature) with
  | some known => (known, c)
  | none =>
    let s : SignatureRef :=
      ⟨signature, TokenTable.signatures.token (c.signatures.size + 1)⟩
    (s, { c with signatures := c.signatures.push s })

end Catalog

/-! ## §4 Conversions out of the virtual machine -/

/-- The methods that turn values of the virtual machine into values of host types. -/
structure Converters where
  /-- Turns a value into the object that it stands for. -/
  toObject : MethodRef
  /-- Turns a value into a value of a described type. -/
  toType : MethodRef
  /-- Makes the description of a type from its handle. -/
  typeFromHandle : MethodRef
  deriving DecidableEq, Repr

namespace Converters

/-- Import the conversions. The first two are static methods of the type of the given name, the
    third belongs to the type of type descriptions. -/
def importFrom (helperType : String) : StateM Catalog Converters := do
  let object := CoreType.object.ref
  let systemType := CoreType.systemType.ref
  let handle := CoreType.runtimeTypeHandle.ref
  let helper ← Catalog.importType helperType false
  let toObject ← Catalog.importMethod helper "ToObject" (.ofStatic [object] (some object))
  let toType ← Catalog.importMethod helper "ToType" (.ofStatic [object, systemType] (some object))
  let typeFromHandle ← Catalog.importMethod systemType "GetTypeFromHandle"
    (.ofStatic [handle] (some systemType))
  return ⟨toObject, toType, typeFromHandle⟩

end Converters

end Devirt
