import Devirt.Proofs.Catalog.Invariants

/-!
# Members on the Shelves of their Types

The tables of a catalogue hold the members of all types, and which of them belong to one type is
read off the tables. A store keeps the same references in another way. Every type has a shelf for
the members that are imported on it: an import searches the shelf of the declaring type only, and
puts a new member at its end. The next rows are not counted from the tables either, but kept as
numbers that go up with every reference handed out.

Both ways come to the same. A catalogue determines a store, on whose shelves the members of each
type stand in the order of the tables, and every import does to that store what it does to the
catalogue.

Main statements:
- `Store.importMethod` and its companions: the four imports as they change a store.
- `Catalog.store`: the store of a catalogue.
- `Catalog.Sound.imports_store`: an import hands out the same reference, and changes the store as it
  changes the catalogue.
-/

namespace Devirt

/-! ## §1 Stores -/

/-- A type, with the members that have been imported on it. -/
structure Shelf where
  type : TypeRef
  /-- Methods in the order of first import. -/
  methods : Array MethodRef
  /-- Fields in the order of first import. -/
  fields : Array FieldRef

/-- The references handed out so far, each member on the shelf of its declaring type. -/
@[ext]
structure Store where
  /-- The shelves of all types, those of the core types first. -/
  shelves : Array Shelf
  /-- Standalone signatures. -/
  signatures : Array SignatureRef
  /-- The row of the next type. -/
  nextType : Nat
  /-- The row of the next method or field. -/
  nextMember : Nat

namespace Store

/-- The store of the core types alone, on which nothing has been imported. -/
def initial : Store where
  shelves := (CoreType.all.map fun t => ⟨t.ref, #[], #[]⟩).toArray
  signatures := #[]
  nextType := CoreType.all.length + 1
  nextMember := 1

/-- The shelf of a type. -/
def shelf? (s : Store) (t : TypeRef) : Option Shelf :=
  s.shelves.find? (·.type == t)

/-- The methods on the shelf of a type. -/
def methodsOn (s : Store) (t : TypeRef) : Array MethodRef :=
  ((s.shelf? t).map Shelf.methods).getD #[]

/-- The fields on the shelf of a type. -/
def fieldsOn (s : Store) (t : TypeRef) : Array FieldRef :=
  ((s.shelf? t).map Shelf.fields).getD #[]

/-- Change the shelf of a type, and leave all others as they are. -/
def onShelf (s : Store) (t : TypeRef) (change : Shelf → Shelf) : Array Shelf :=
  s.shelves.map fun shelf => if shelf.type == t then change shelf else shelf

/-- Import a type. A new type gets an empty shelf. -/
def importType (fullName : String) (isValueType : Bool) : StateM Store TypeRef := fun s =>
  match s.shelves.find? (·.type.fullName == fullName) with
  | some known => (known.type, s)
  | none =>
    let t : TypeRef := ⟨fullName, isValueType, TokenTable.types.token s.nextType⟩
    (t, { s with shelves := s.shelves.push ⟨t, #[], #[]⟩, nextType := s.nextType + 1 })

/-- Import a method. A new method is put on the shelf of its declaring type. -/
def importMethod (declaringType : TypeRef) (name : String) (signature : Signature) :
    StateM Store MethodRef := fun s =>
  match (s.methodsOn declaringType).find? fun m => m.name == name && m.signature == signature with
  | some known => (known, s)
  | none =>
    let m : MethodRef :=
      ⟨declaringType, name, signature, TokenTable.members.token s.nextMember⟩
    (m, { s with
      shelves := s.onShelf declaringType fun shelf =>
        { shelf with methods := shelf.methods.push m }
      nextMember := s.nextMember + 1 })

/-- Import a field. A new field is put on the shelf of its declaring type. -/
def importField (declaringType : TypeRef) (name : String) (fieldType : TypeRef)
    (isStatic : Bool) : StateM Store FieldRef := fun s =>
  match (s.fieldsOn declaringType).find? fun f => f.name == name && f.fieldType == fieldType with
  | some known => (known, s)
  | none =>
    let f : FieldRef :=
      ⟨declaringType, name, fieldType, isStatic, TokenTable.members.token s.nextMember⟩
    (f, { s with
      shelves := s.onShelf declaringType fun shelf =>
        { shelf with fields := shelf.fields.push f }
      nextMember := s.nextMember + 1 })

/-- Import a standalone signature. -/
def importSignature (signature : Signature) : StateM Store SignatureRef := fun s =>
  match s.signatures.find? (·.signature == signature) with
  | some known => (known, s)
  | none =>
    let r : SignatureRef :=
      ⟨signature, TokenTable.signatures.token (s.signatures.size + 1)⟩
    (r, { s with signatures := s.signatures.push r })

/-- An import, what it hands out, and the store afterwards. -/
inductive Imports (s : Store) : Receipt → Store → Prop where
  | type {fullName : String} {isValueType : Bool} {t : TypeRef} {s' : Store}
      (imported : importType fullName isValueType s = (t, s')) : Imports s (.type fullName t) s'
  | method {declaringType : TypeRef} {name : String} {signature : Signature} {m : MethodRef}
      {s' : Store} (imported : importMethod declaringType name signature s = (m, s')) :
      Imports s (.method declaringType name signature m) s'
  | field {declaringType fieldType : TypeRef} {name : String} {isStatic : Bool} {f : FieldRef}
      {s' : Store} (imported : importField declaringType name fieldType isStatic s = (f, s')) :
      Imports s (.field declaringType name fieldType f) s'
  | standalone {signature : Signature} {r : SignatureRef} {s' : Store}
      (imported : importSignature signature s = (r, s')) : Imports s (.standalone signature r) s'

/-- The store after the imports of a log, which starts with the core types alone. -/
inductive After : List Receipt → Store → Prop where
  | nothing : After [] initial
  | next {log : List Receipt} {s s' : Store} {r : Receipt} (before : After log s)
      (step : s.Imports r s') : After (log ++ [r]) s'

end Store

/-! ## §2 The store of a catalogue -/

namespace Catalog

variable {c c' : Catalog}

/-- The shelf of a type, filled with its members from the tables. -/
def shelf (c : Catalog) (t : TypeRef) : Shelf :=
  ⟨t, c.methodsOf t, c.fieldsOf t⟩

/-- The store that keeps what a catalogue holds. -/
def store (c : Catalog) : Store where
  shelves := c.types.map c.shelf
  signatures := c.signatures
  nextType := c.types.size + 1
  nextMember := c.methods.size + c.fields.size + 1

theorem store_initial : Catalog.initial.store = .initial := by
  simp [store, Store.initial, Catalog.initial, shelf, methodsOf, fieldsOf]

/-- The shelf of a new type follows the others. -/
theorem store_push_type (c : Catalog) {t : TypeRef} (empty : c.shelf t = ⟨t, #[], #[]⟩) :
    { c with types := c.types.push t }.store = { c.store with
      shelves := c.store.shelves.push ⟨t, #[], #[]⟩
      nextType := c.store.nextType + 1 } := by
  rw [← empty]
  refine Store.ext Array.map_push rfl ?_ rfl
  exact congrArg (· + 1) (Array.size_push t)

/-- A new method stands at the end of the shelf of its declaring type, and on no other. -/
theorem store_push_method (c : Catalog) (m : MethodRef) :
    { c with methods := c.methods.push m }.store = { c.store with
      shelves := c.store.onShelf m.declaringType fun shelf =>
        { shelf with methods := shelf.methods.push m }
      nextMember := c.store.nextMember + 1 } := by
  have pushed : ∀ t, { c with methods := c.methods.push m }.methodsOf t =
      if t == m.declaringType then (c.methodsOf t).push m else c.methodsOf t := by
    intro t
    rw [methodsOf, Array.filter_push, TypeRef.beq_comm m.declaringType t]
    rfl
  apply Store.ext
  case shelves =>
    -- type by type: the shelf is the one to change exactly if the table lists the method for its
    -- type
    refine .trans (Array.map_congr_left fun t _ => ?_) Array.map_map.symm
    rw [shelf, pushed]
    show _ = if t == m.declaringType then _ else _
    split <;> rfl
  case nextMember =>
    show (c.methods.push m).size + c.fields.size + 1 = c.methods.size + c.fields.size + 1 + 1
    rw [Array.size_push]
    omega
  all_goals rfl

/-- A new field stands at the end of the shelf of its declaring type, and on no other. -/
theorem store_push_field (c : Catalog) (f : FieldRef) :
    { c with fields := c.fields.push f }.store = { c.store with
      shelves := c.store.onShelf f.declaringType fun shelf =>
        { shelf with fields := shelf.fields.push f }
      nextMember := c.store.nextMember + 1 } := by
  have pushed : ∀ t, { c with fields := c.fields.push f }.fieldsOf t =
      if t == f.declaringType then (c.fieldsOf t).push f else c.fieldsOf t := by
    intro t
    rw [fieldsOf, Array.filter_push, TypeRef.beq_comm f.declaringType t]
    rfl
  apply Store.ext
  case shelves =>
    -- as for methods, with the other half of the shelf
    refine .trans (Array.map_congr_left fun t _ => ?_) Array.map_map.symm
    rw [shelf, pushed]
    show _ = if t == f.declaringType then _ else _
    split <;> rfl
  case nextMember =>
    show c.methods.size + (c.fields.push f).size + 1 = c.methods.size + c.fields.size + 1 + 1
    rw [Array.size_push]
    omega
  all_goals rfl

namespace Sound

/-- Each type has one shelf. -/
theorem shelf?_store (h : c.Sound) {t : TypeRef} (known : t ∈ c.types) :
    c.store.shelf? t = some (c.shelf t) := by
  have found : (c.types.find? (· == t)).isSome :=
    Array.find?_isSome.2 ⟨t, known, TypeRef.beq_iff.2 rfl⟩
  obtain ⟨u, first⟩ := Option.isSome_iff_exists.1 found
  -- the shelf that is found is that of a type with the name, and there is one such type
  have same : (u == t) = true := Array.find?_some (p := (· == t)) first
  obtain rfl := h.type_eq (Array.mem_of_find?_eq_some first) known (TypeRef.beq_iff.1 same)
  rw [Store.shelf?, store, Array.find?_map]
  exact congrArg (Option.map c.shelf) first

theorem methodsOn_store (h : c.Sound) {t : TypeRef} (known : t ∈ c.types) :
    c.store.methodsOn t = c.methodsOf t := by
  rw [Store.methodsOn, h.shelf?_store known]
  rfl

theorem fieldsOn_store (h : c.Sound) {t : TypeRef} (known : t ∈ c.types) :
    c.store.fieldsOn t = c.fieldsOf t := by
  rw [Store.fieldsOn, h.shelf?_store known]
  rfl

/-- A type that is not known declares no members. -/
theorem shelf_of_unknown (h : c.Sound) {t : TypeRef}
    (unknown : ∀ u ∈ c.types, u.fullName ≠ t.fullName) : c.shelf t = ⟨t, #[], #[]⟩ := by
  have noMethods : c.methodsOf t = #[] := Array.filter_eq_empty_iff.2 fun m mem declared =>
    unknown _ (h.methodTypes m mem _ List.mem_cons_self) (TypeRef.beq_iff.1 declared)
  have noFields : c.fieldsOf t = #[] := Array.filter_eq_empty_iff.2 fun f mem declared =>
    unknown _ (h.fieldTypes f mem _ List.mem_cons_self) (TypeRef.beq_iff.1 declared)
  rw [shelf, noMethods, noFields]

/-! ## §3 Imports -/

/-- A type that is new gets an empty shelf, since no member of it can have been imported. -/
theorem importType_store (h : c.Sound) {fullName : String} {isValueType : Bool} {t : TypeRef}
    (imported : Catalog.importType fullName isValueType c = (t, c')) :
    Store.importType fullName isValueType c.store = (t, c'.store) := by
  have search : c.store.shelves.find? (·.type.fullName == fullName) =
      (c.type? fullName).map c.shelf := Array.find?_map
  unfold Catalog.importType at imported
  unfold Store.importType
  rw [search]
  -- a shelf is found exactly if the type is, and one of a new type is empty
  cases found : c.type? fullName with
  | some known =>
    rw [found] at imported
    cases imported
    rfl
  | none =>
    rw [found] at imported
    cases imported
    have unknown : ∀ u ∈ c.types, u.fullName ≠ fullName := fun u mem same =>
      Array.find?_eq_none.1 found u mem (beq_iff_eq.2 same)
    rw [store_push_type c (h.shelf_of_unknown unknown)]
    rfl

/-- A method that is new goes to the end of the shelf of its declaring type. -/
theorem importMethod_store (h : c.Sound) {declaringType : TypeRef} {name : String}
    {signature : Signature} {m : MethodRef} (known : declaringType ∈ c.types)
    (imported : Catalog.importMethod declaringType name signature c = (m, c')) :
    Store.importMethod declaringType name signature c.store = (m, c'.store) := by
  -- the table is searched for the type as well, and the shelf holds what is of that type
  have search : (c.store.methodsOn declaringType).find?
      (fun m => m.name == name && m.signature == signature) = c.methods.find? fun m =>
        m.declaringType == declaringType && m.name == name && m.signature == signature := by
    rw [h.methodsOn_store known, methodsOf, Array.find?_filter]
    simp only [Bool.decide_and, Bool.decide_eq_true, Bool.and_assoc]
  unfold Catalog.importMethod at imported
  unfold Store.importMethod
  rw [search]
  cases found : c.methods.find? fun m =>
      m.declaringType == declaringType && m.name == name && m.signature == signature with
  | some known =>
    rw [found] at imported
    cases imported
    rfl
  | none =>
    rw [found] at imported
    cases imported
    rw [store_push_method]
    rfl

/-- A field that is new goes to the end of the shelf of its declaring type. -/
theorem importField_store (h : c.Sound) {declaringType fieldType : TypeRef} {name : String}
    {isStatic : Bool} {f : FieldRef} (known : declaringType ∈ c.types)
    (imported : Catalog.importField declaringType name fieldType isStatic c = (f, c')) :
    Store.importField declaringType name fieldType isStatic c.store = (f, c'.store) := by
  -- as for methods
  have search : (c.store.fieldsOn declaringType).find?
      (fun f => f.name == name && f.fieldType == fieldType) = c.fields.find? fun f =>
        f.declaringType == declaringType && f.name == name && f.fieldType == fieldType := by
    rw [h.fieldsOn_store known, fieldsOf, Array.find?_filter]
    simp only [Bool.decide_and, Bool.decide_eq_true, Bool.and_assoc]
  unfold Catalog.importField at imported
  unfold Store.importField
  rw [search]
  cases found : c.fields.find? fun f =>
      f.declaringType == declaringType && f.name == name && f.fieldType == fieldType with
  | some known =>
    rw [found] at imported
    cases imported
    rfl
  | none =>
    rw [found] at imported
    cases imported
    rw [store_push_field]
    rfl

/-- Standalone signatures are kept as in the table. -/
theorem importSignature_store {signature : Signature} {r : SignatureRef}
    (imported : Catalog.importSignature signature c = (r, c')) :
    Store.importSignature signature c.store = (r, c'.store) := by
  have search : c.store.signatures.find? (·.signature == signature) =
      c.signatures.find? (·.signature == signature) := rfl
  unfold Catalog.importSignature at imported
  unfold Store.importSignature
  rw [search]
  cases found : c.signatures.find? (·.signature == signature) with
  | some known =>
    rw [found] at imported
    cases imported
    rfl
  | none =>
    rw [found] at imported
    cases imported
    rfl

/-- An import hands out the same reference from the store, and changes the store as it changes the
    catalogue. -/
theorem imports_store (h : c.Sound) {r : Receipt} (step : c.Imports r c') :
    c.store.Imports r c'.store := by
  cases step with
  | type imported => exact .type (h.importType_store imported)
  | method known imported =>
    exact .method (h.importMethod_store (known _ List.mem_cons_self) imported)
  | field known imported =>
    exact .field (h.importField_store (known _ List.mem_cons_self) imported)
  | standalone _ imported => exact .standalone (importSignature_store imported)

end Sound

end Catalog

end Devirt
