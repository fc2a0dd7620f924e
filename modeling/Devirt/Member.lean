/-!
# References to Types and Members

What instructions refer to: types, methods, fields and standalone signatures. A reference carries
the metadata token that stands for it in encoded code.

Two types are the same if their full names are. Comparison of the other references builds on this:
they are the same if they agree in all that they carry, types being compared by name.
-/

namespace Devirt

/-- A reference to a type. -/
structure TypeRef where
  fullName : String
  /-- Are values of the type stored in place? -/
  isValueType : Bool
  token : UInt32
  deriving DecidableEq, Repr, Inhabited

namespace TypeRef

instance (priority := high) : BEq TypeRef := ⟨fun a b => a.fullName == b.fullName⟩

/-- A type is shown by its full name. -/
def text (t : TypeRef) : String := t.fullName

end TypeRef

/-- Calling convention and types of a method. -/
structure Signature where
  /-- Does the method take an implicit instance argument? -/
  hasThis : Bool
  parameters : List TypeRef
  returnType : Option TypeRef
  deriving DecidableEq, Repr, Inhabited

namespace Signature

/-- The signature of a method without an instance argument. -/
def ofStatic (parameters : List TypeRef) (returnType : Option TypeRef) : Signature :=
  ⟨false, parameters, returnType⟩

instance (priority := high) : BEq Signature :=
  ⟨fun a b => a.hasThis == b.hasThis && a.parameters == b.parameters &&
    a.returnType == b.returnType⟩

/-- Number of arguments that a caller passes. -/
def argumentCount (s : Signature) : Nat :=
  s.parameters.length + s.hasThis.toNat

/-- Number of values that a call leaves. -/
def resultCount (s : Signature) : Nat :=
  s.returnType.isSome.toNat

/-- The text of a signature: convention, result, then the parameters in parentheses. -/
def text (s : Signature) : String :=
  (if s.hasThis then "instance " else "") ++ (s.returnType.map TypeRef.text).getD "void" ++
    " (" ++ ", ".intercalate (s.parameters.map TypeRef.text) ++ ")"

end Signature

/-- A reference to a method. -/
structure MethodRef where
  declaringType : TypeRef
  name : String
  signature : Signature
  token : UInt32
  deriving DecidableEq, Repr, Inhabited

namespace MethodRef

instance (priority := high) : BEq MethodRef :=
  ⟨fun a b => a.declaringType == b.declaringType && a.name == b.name &&
    a.signature == b.signature && a.token == b.token⟩

/-- The text of a method: type, name and signature. -/
def text (m : MethodRef) : String :=
  m.declaringType.text ++ "::" ++ m.name ++ ":" ++ m.signature.text

end MethodRef

/-- A reference to a field. -/
structure FieldRef where
  declaringType : TypeRef
  name : String
  fieldType : TypeRef
  /-- Is there one field for the whole type? -/
  isStatic : Bool
  token : UInt32
  deriving DecidableEq, Repr, Inhabited

namespace FieldRef

instance (priority := high) : BEq FieldRef :=
  ⟨fun a b => a.declaringType == b.declaringType && a.name == b.name &&
    a.fieldType == b.fieldType && a.isStatic == b.isStatic && a.token == b.token⟩

/-- The text of a field: the type of its values, then where it is. -/
def text (f : FieldRef) : String :=
  f.fieldType.text ++ " " ++ f.declaringType.text ++ "::" ++ f.name

end FieldRef

/-- A reference to a standalone signature, as an indirect call needs it. -/
structure SignatureRef where
  signature : Signature
  token : UInt32
  deriving DecidableEq, Repr, Inhabited

namespace SignatureRef

instance (priority := high) : BEq SignatureRef :=
  ⟨fun a b => a.signature == b.signature && a.token == b.token⟩

/-- A standalone signature is shown as the signature that it is. -/
def text (s : SignatureRef) : String := s.signature.text

end SignatureRef

/-- A type, a method or a field. -/
inductive Member where
  | type (type : TypeRef)
  | method (method : MethodRef)
  | field (field : FieldRef)
  deriving DecidableEq, Repr, Inhabited

namespace Member

/-- Members of different sorts differ. -/
def same : Member → Member → Bool
  | .type a, .type b => a == b
  | .method a, .method b => a == b
  | .field a, .field b => a == b
  | _, _ => false

instance (priority := high) : BEq Member := ⟨same⟩

/-- The metadata token of the member. -/
def token : Member → UInt32
  | .type t => t.token
  | .method m => m.token
  | .field f => f.token

/-- The text of the member. -/
def text : Member → String
  | .type t => t.text
  | .method m => m.text
  | .field f => f.text

end Member

end Devirt
