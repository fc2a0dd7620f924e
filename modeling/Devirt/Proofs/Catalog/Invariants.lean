import Devirt.Proofs.Catalog.Tables
import Devirt.Proofs.Catalog.Tokens

/-!
# Invariants of Catalogues

What every import preserves, as long as it mentions only types that the catalogue knows: entries
keep their places, keys stay different, members mention known types, and tokens count the rows.
Methods and fields share a table, so their tokens are counted together, in the order of import.

Main statements:
- `Catalog.Imports`: the steps of a catalogue, one import at a time.
- `Catalog.Extends`, `Catalog.Sound`: what a step preserves.
- `Catalog.Extends.of_imports`, `Catalog.Sound.of_imports`: that it does.
-/

namespace Devirt

/-! ## §1 Imports -/

/-- A single import: what was asked for, and the reference that was handed out. -/
inductive Receipt where
  | type (fullName : String) (given : TypeRef)
  | method (declaringType : TypeRef) (name : String) (signature : Signature) (given : MethodRef)
  | field (declaringType : TypeRef) (name : String) (fieldType : TypeRef) (given : FieldRef)
  | standalone (signature : Signature) (given : SignatureRef)

theorem CoreType.mem_all (t : CoreType) : t ∈ all := by
  cases t <;> decide

namespace Catalog

/-- The catalogue knows all of the types. -/
def Knows (c : Catalog) (types : List TypeRef) : Prop :=
  ∀ t ∈ types, t ∈ c.types

/-- An import of something that mentions known types only, what it hands out, and the catalogue
    afterwards. -/
inductive Imports (c : Catalog) : Receipt → Catalog → Prop where
  | type {fullName : String} {isValueType : Bool} {t : TypeRef} {c' : Catalog}
      (imported : importType fullName isValueType c = (t, c')) : Imports c (.type fullName t) c'
  | method {declaringType : TypeRef} {name : String} {signature : Signature} {m : MethodRef}
      {c' : Catalog} (known : c.Knows (declaringType :: signature.types))
      (imported : importMethod declaringType name signature c = (m, c')) :
      Imports c (.method declaringType name signature m) c'
  | field {declaringType fieldType : TypeRef} {name : String} {isStatic : Bool} {f : FieldRef}
      {c' : Catalog} (known : c.Knows [declaringType, fieldType])
      (imported : importField declaringType name fieldType isStatic c = (f, c')) :
      Imports c (.field declaringType name fieldType f) c'
  | standalone {signature : Signature} {s : SignatureRef} {c' : Catalog}
      (known : c.Knows signature.types)
      (imported : importSignature signature c = (s, c')) : Imports c (.standalone signature s) c'

variable {c c' : Catalog} {r : Receipt}

/-! ## §2 Entries keep their places -/

/-- All entries of the first catalogue are in the second one, in the same places. -/
structure Extends (c c' : Catalog) : Prop where
  types : c.types.toList <+: c'.types.toList
  methods : c.methods.toList <+: c'.methods.toList
  fields : c.fields.toList <+: c'.fields.toList
  signatures : c.signatures.toList <+: c'.signatures.toList

namespace Extends

theorem refl (c : Catalog) : c.Extends c :=
  ⟨List.prefix_rfl, List.prefix_rfl, List.prefix_rfl, List.prefix_rfl⟩

theorem trans {c'' : Catalog} (h : c.Extends c') (h' : c'.Extends c'') : c.Extends c'' :=
  ⟨h.types.trans h'.types, h.methods.trans h'.methods, h.fields.trans h'.fields,
    h.signatures.trans h'.signatures⟩

/-- No import moves or changes an entry. -/
theorem of_imports (step : c.Imports r c') : c.Extends c' := by
  -- an import touches one table, and the others are the same
  cases step with
  | type imported =>
    obtain ⟨types, entered, rfl⟩ := importType_entered imported
    exact { refl c with types := entered.kept }
  | method _ imported =>
    obtain ⟨methods, entered, rfl⟩ := importMethod_entered imported
    exact { refl c with methods := entered.kept }
  | field _ imported =>
    obtain ⟨fields, entered, rfl⟩ := importField_entered imported
    exact { refl c with fields := entered.kept }
  | standalone _ imported =>
    obtain ⟨signatures, entered, rfl⟩ := importSignature_entered imported
    exact { refl c with signatures := entered.kept }

end Extends

theorem mem_of_kept {α : Type} {table table' : Array α} (kept : table.toList <+: table'.toList)
    {a : α} (mem : a ∈ table) : a ∈ table' :=
  Array.mem_toList_iff.1 (kept.subset (Array.mem_toList_iff.2 mem))

theorem Knows.mono {types : List TypeRef} (h : c.Knows types) (grows : c.Extends c') :
    c'.Knows types :=
  fun t mem => mem_of_kept grows.types (h t mem)

/-! ## §3 Keys and tokens -/

/-- Keys are different, all types that are mentioned are known, and tokens count the rows. -/
structure Sound (c : Catalog) : Prop where
  core : ∀ t : CoreType, t.ref ∈ c.types
  typeKeys : (c.types.toList.map TypeRef.fullName).Nodup
  methodKeys : (c.methods.toList.map MethodRef.key).Nodup
  fieldKeys : (c.fields.toList.map FieldRef.key).Nodup
  signatureKeys : (c.signatures.toList.map SignatureRef.key).Nodup
  methodTypes : ∀ m ∈ c.methods, c.Knows (m.declaringType :: m.signature.types)
  fieldTypes : ∀ f ∈ c.fields, c.Knows [f.declaringType, f.fieldType]
  signatureTypes : ∀ s ∈ c.signatures, c.Knows s.signature.types
  typeTokens : c.types.toList.map TypeRef.token = TokenTable.types.rows c.types.size
  /-- Methods and fields were numbered together. -/
  memberTokens : (c.methods.toList.map MethodRef.token ++ c.fields.toList.map FieldRef.token).Perm
    (TokenTable.members.rows (c.methods.size + c.fields.size))
  signatureTokens :
    c.signatures.toList.map SignatureRef.token = TokenTable.signatures.rows c.signatures.size

namespace Sound

theorem initial : Catalog.initial.Sound where
  core t := List.mem_toArray.2 (List.mem_map_of_mem t.mem_all)
  typeKeys := by decide
  methodKeys := .nil
  fieldKeys := .nil
  signatureKeys := .nil
  methodTypes := by simp [Catalog.initial]
  fieldTypes := by simp [Catalog.initial]
  signatureTypes := by simp [Catalog.initial]
  typeTokens := rfl
  memberTokens := .nil
  signatureTokens := rfl

/-- An import of a type adds a row with the next number to the types, or none. -/
theorem importType (h : c.Sound) {fullName : String} {isValueType : Bool} {t : TypeRef}
    (imported : Catalog.importType fullName isValueType c = (t, c')) : c'.Sound := by
  have grows := Extends.of_imports (.type imported)
  obtain ⟨types, entered, rfl⟩ := importType_entered imported
  -- members mention types that were known before, and known types stay known
  exact { h with
    core := fun t => mem_of_kept grows.types (h.core t)
    typeKeys := entered.nodup h.typeKeys
    methodTypes := fun m mem => (h.methodTypes m mem).mono grows
    fieldTypes := fun f mem => (h.fieldTypes f mem).mono grows
    signatureTypes := fun s mem => (h.signatureTypes s mem).mono grows
    typeTokens := by
      cases entered with
      | known => exact h.typeTokens
      | added => simp [TokenTable.rows_succ, h.typeTokens] }

/-- An import of a method adds a row with the next number to the members, or none. -/
theorem importMethod (h : c.Sound) {declaringType : TypeRef} {name : String}
    {signature : Signature} {m : MethodRef} (known : c.Knows (declaringType :: signature.types))
    (imported : Catalog.importMethod declaringType name signature c = (m, c')) : c'.Sound := by
  obtain ⟨methods, entered, rfl⟩ := importMethod_entered imported
  -- only methods change, and their tokens are numbered after all members so far
  exact { h with
    methodKeys := entered.nodup h.methodKeys
    methodTypes := fun m mem => by
      rcases entered.mem_cases mem with old | rfl
      · exact h.methodTypes m old
      · exact known
    memberTokens := by
      cases entered with
      | known => exact h.memberTokens
      | added =>
        rw [Array.toList_push, List.map_append, Array.size_push, Nat.add_right_comm,
          TokenTable.rows_succ, List.append_assoc]
        -- the token of the new method stands before those of the fields, but is counted last
        refine (List.perm_append_comm.append_left _).trans ?_
        rw [← List.append_assoc]
        exact h.memberTokens.append_right _ }

/-- An import of a field adds a row with the next number to the members, or none. -/
theorem importField (h : c.Sound) {declaringType fieldType : TypeRef} {name : String}
    {isStatic : Bool} {f : FieldRef} (known : c.Knows [declaringType, fieldType])
    (imported : Catalog.importField declaringType name fieldType isStatic c = (f, c')) :
    c'.Sound := by
  obtain ⟨fields, entered, rfl⟩ := importField_entered imported
  -- as for methods, but the tokens of fields stand last anyway
  exact { h with
    fieldKeys := entered.nodup h.fieldKeys
    fieldTypes := fun f mem => by
      rcases entered.mem_cases mem with old | rfl
      · exact h.fieldTypes f old
      · exact known
    memberTokens := by
      cases entered with
      | known => exact h.memberTokens
      | added =>
        rw [Array.toList_push, List.map_append, Array.size_push, ← Nat.add_assoc,
          TokenTable.rows_succ, ← List.append_assoc]
        exact h.memberTokens.append_right _ }

/-- An import of a standalone signature adds a row with the next number to those, or none. -/
theorem importSignature (h : c.Sound) {signature : Signature} {s : SignatureRef}
    (known : c.Knows signature.types)
    (imported : Catalog.importSignature signature c = (s, c')) : c'.Sound := by
  obtain ⟨signatures, entered, rfl⟩ := importSignature_entered imported
  exact { h with
    signatureKeys := entered.nodup h.signatureKeys
    signatureTypes := fun s mem => by
      rcases entered.mem_cases mem with old | rfl
      · exact h.signatureTypes s old
      · exact known
    signatureTokens := by
      cases entered with
      | known => exact h.signatureTokens
      | added => simp [TokenTable.rows_succ, h.signatureTokens] }

theorem of_imports (h : c.Sound) (step : c.Imports r c') : c'.Sound := by
  cases step with
  | type imported => exact h.importType imported
  | method known imported => exact h.importMethod known imported
  | field known imported => exact h.importField known imported
  | standalone known imported => exact h.importSignature known imported

/-! ## §4 What names stand for -/

/-- What a name stands for is settled by the types that the catalogue knows. -/
theorem type_eq (h : c.Sound) {t t' : TypeRef} (mem : t ∈ c.types) (mem' : t' ∈ c.types)
    (same : t.fullName = t'.fullName) : t = t' :=
  eq_of_key_eq h.typeKeys mem mem' same

theorem types_eq (h : c.Sound) {ts ts' : List TypeRef} (known : c.Knows ts)
    (known' : c.Knows ts') (same : ts.map TypeRef.fullName = ts'.map TypeRef.fullName) :
    ts = ts' := by
  -- name by name, since names stand for types one at a time
  induction ts generalizing ts' with
  | nil => simpa using same.symm
  | cons t ts ih =>
    cases ts' with
    | nil => cases same
    | cons t' ts' =>
      obtain ⟨head, tail⟩ := List.cons.inj same
      rw [h.type_eq (known t List.mem_cons_self) (known' t' List.mem_cons_self) head,
        ih (fun u mem => known u (List.mem_cons_of_mem t mem))
          (fun u mem => known' u (List.mem_cons_of_mem t' mem)) tail]

/-- Signatures of known types are the same if they are compared as equal. -/
theorem signature_eq (h : c.Sound) {s s' : Signature} (known : c.Knows s.types)
    (known' : c.Knows s'.types) (same : s.shape = s'.shape) : s = s' := by
  obtain ⟨this, parameters, returns⟩ := s
  obtain ⟨this', parameters', returns'⟩ := s'
  -- equal shapes have equal names in each place, and a name stands for one known type
  simp only [Signature.shape, Prod.mk.injEq] at same
  obtain ⟨rfl, parameterNames, returnNames⟩ := same
  simp only [Signature.types, Knows, List.mem_append, Option.mem_toList] at known known'
  have parametersEq : parameters = parameters' := h.types_eq (fun t mem => known t (.inl mem))
    (fun t mem => known' t (.inl mem)) parameterNames
  have returnsEq : returns = returns' := by
    cases returns with
    | none => exact (Option.map_eq_none_iff.1 returnNames.symm).symm
    | some t =>
      obtain ⟨t', rfl, name⟩ := Option.map_eq_some_iff.1 returnNames.symm
      rw [h.type_eq (known t (.inr rfl)) (known' t' (.inr rfl)) name.symm]
  rw [parametersEq, returnsEq]

end Sound

end Catalog

end Devirt
