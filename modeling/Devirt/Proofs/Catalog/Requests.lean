import Devirt.Proofs.Catalog.Invariants

/-!
# Requests

A catalogue serves requests one after the other. A request is one import, or the four that the
conversions come from. Along with the catalogue goes a log of what was asked for and what was
handed out, of which the tables are a summary: they list every reference once, in the order of the
log.

Main statements:
- `Catalog.Serves`: requests served one after the other.
- `Catalog.Honours.of_imports`: what is handed out has the data that was asked for.
- `Catalog.Records`: the tables as a summary of the log.
- `Catalog.Serves.induction`: what every import preserves, requests preserve.
-/

namespace Devirt

/-! ## §1 Requests -/

/-- What a catalogue is asked for. -/
inductive Request where
  | type (fullName : String) (isValueType : Bool)
  | method (declaringType : TypeRef) (name : String) (signature : Signature)
  | field (declaringType : TypeRef) (name : String) (fieldType : TypeRef) (isStatic : Bool)
  | standalone (signature : Signature)
  /-- The conversions out of the virtual machine, two of them in the type of the given name. -/
  | converters (helperType : String)

/-- The types that a request mentions. -/
def Request.types : Request → List TypeRef
  | .type _ _ | .converters _ => []
  | .method declaringType _ signature => declaringType :: signature.types
  | .field declaringType _ fieldType _ => [declaringType, fieldType]
  | .standalone signature => signature.types

namespace Receipt

/-- The type that was handed out, if it was one. -/
@[simp]
def types : Receipt → List TypeRef
  | .type _ t => [t]
  | _ => []

/-- The method that was handed out, if it was one. -/
@[simp]
def methods : Receipt → List MethodRef
  | .method _ _ _ m => [m]
  | _ => []

/-- The field that was handed out, if it was one. -/
@[simp]
def fields : Receipt → List FieldRef
  | .field _ _ _ f => [f]
  | _ => []

/-- The standalone signature that was handed out, if it was one. -/
@[simp]
def signatures : Receipt → List SignatureRef
  | .standalone _ s => [s]
  | _ => []

end Receipt

/-- The imports that the conversions come from. -/
def Converters.receipts (k : Converters) (helperType : String) : List Receipt :=
  let object := CoreType.object.ref
  let systemType := CoreType.systemType.ref
  [.type helperType k.toObject.declaringType,
    .method k.toObject.declaringType "ToObject" (.ofStatic [object] (some object)) k.toObject,
    .method k.toObject.declaringType "ToType" (.ofStatic [object, systemType] (some object))
      k.toType,
    .method systemType "GetTypeFromHandle"
      (.ofStatic [CoreType.runtimeTypeHandle.ref] (some systemType)) k.typeFromHandle]

/-- The conversions are three methods, imported after the type that two of them belong to. -/
theorem Converters.importFrom_eq {c c' : Catalog} {helperType : String} {k : Converters}
    (h : importFrom helperType c = (k, c')) : ∃ helper c₁ c₂ c₃,
      Catalog.importType helperType false c = (helper, c₁) ∧
      Catalog.importMethod helper "ToObject"
        (.ofStatic [CoreType.object.ref] (some CoreType.object.ref)) c₁ = (k.toObject, c₂) ∧
      Catalog.importMethod helper "ToType"
        (.ofStatic [CoreType.object.ref, CoreType.systemType.ref] (some CoreType.object.ref)) c₂ =
        (k.toType, c₃) ∧
      Catalog.importMethod CoreType.systemType.ref "GetTypeFromHandle"
        (.ofStatic [CoreType.runtimeTypeHandle.ref] (some CoreType.systemType.ref)) c₃ =
        (k.typeFromHandle, c') := by
  cases h
  exact ⟨_, _, _, _, rfl, rfl, rfl, rfl⟩

/-- Serve a request. Tells which imports were made. -/
def Request.serve : Request → StateM Catalog (List Receipt)
  | .type fullName isValueType =>
    return [.type fullName (← Catalog.importType fullName isValueType)]
  | .method declaringType name signature =>
    return [.method declaringType name signature
      (← Catalog.importMethod declaringType name signature)]
  | .field declaringType name fieldType isStatic =>
    return [.field declaringType name fieldType
      (← Catalog.importField declaringType name fieldType isStatic)]
  | .standalone signature => return [.standalone signature (← Catalog.importSignature signature)]
  | .converters helperType => return (← Converters.importFrom helperType).receipts helperType

namespace Catalog

/-- Requests are served one after the other. Each one mentions only types that the catalogue knows
    by then. -/
inductive Serves (c : Catalog) : List Receipt → Catalog → Prop where
  | nothing : Serves c [] c
  | request {log receipts : List Receipt} {c₁ c₂ : Catalog} {q : Request}
      (before : Serves c log c₁) (known : c₁.Knows q.types)
      (served : q.serve c₁ = (receipts, c₂)) : Serves c (log ++ receipts) c₂

variable {c c' : Catalog} {r : Receipt} {log : List Receipt}

/-- A request is served if all types that it mentions are known. -/
theorem Serves.next {c₁ : Catalog} (before : c.Serves log c₁) (q : Request)
    (known : c₁.Knows q.types) : c.Serves (log ++ (q.serve c₁).1) (q.serve c₁).2 :=
  .request before known rfl

/-! ## §2 References as asked for -/

/-- The reference is in the catalogue, with the data that was asked for. -/
def Honours (c : Catalog) : Receipt → Prop
  | .type fullName t => t ∈ c.types ∧ t.fullName = fullName
  | .method declaringType name signature m =>
    m ∈ c.methods ∧ m.declaringType = declaringType ∧ m.name = name ∧ m.signature = signature
  | .field declaringType name fieldType f =>
    f ∈ c.fields ∧ f.declaringType = declaringType ∧ f.name = name ∧ f.fieldType = fieldType
  | .standalone signature s => s ∈ c.signatures ∧ s.signature = signature

theorem Honours.mono (h : c.Honours r) (grows : c.Extends c') : c'.Honours r := by
  cases r with
  | type => exact ⟨mem_of_kept grows.types h.1, h.2⟩
  | method => exact ⟨mem_of_kept grows.methods h.1, h.2⟩
  | field => exact ⟨mem_of_kept grows.fields h.1, h.2⟩
  | standalone => exact ⟨mem_of_kept grows.signatures h.1, h.2⟩

/-- What is handed out has the data that was asked for, whether it is new or not. -/
theorem Honours.of_imports (h : c.Sound) (step : c.Imports r c') : c'.Honours r := by
  have sound := h.of_imports step
  have grows := Extends.of_imports step
  -- what is found has the key that was asked for; keys name types, and in a sound catalogue a name
  -- stands for one type
  cases step with
  | type imported =>
    obtain ⟨types, entered, rfl⟩ := importType_entered imported
    exact ⟨entered.mem, entered.key_eq⟩
  | method known imported =>
    obtain ⟨methods, entered, rfl⟩ := importMethod_entered imported
    -- both sets of types are known to the catalogue afterwards, where they can be compared
    have own := List.forall_mem_cons.1 (sound.methodTypes _ entered.mem)
    have asked := List.forall_mem_cons.1 (known.mono grows)
    have key := entered.key_eq
    simp only [MethodRef.key, Prod.mk.injEq] at key
    exact ⟨entered.mem, sound.type_eq own.1 asked.1 key.1, key.2.1,
      sound.signature_eq own.2 asked.2 key.2.2⟩
  | field known imported =>
    obtain ⟨fields, entered, rfl⟩ := importField_entered imported
    have own := List.forall_mem_cons.1 (sound.fieldTypes _ entered.mem)
    have asked := List.forall_mem_cons.1 (known.mono grows)
    have key := entered.key_eq
    simp only [FieldRef.key, Prod.mk.injEq] at key
    exact ⟨entered.mem, sound.type_eq own.1 asked.1 key.1, key.2.1,
      sound.type_eq (List.forall_mem_singleton.1 own.2) (List.forall_mem_singleton.1 asked.2)
        key.2.2⟩
  | standalone known imported =>
    obtain ⟨signatures, entered, rfl⟩ := importSignature_entered imported
    exact ⟨entered.mem, sound.signature_eq (sound.signatureTypes _ entered.mem)
      (known.mono grows) entered.key_eq⟩

/-! ## §3 The tables as a record of all imports -/

/-- The tables list what was handed out, each reference where it was handed out first. -/
structure Records (c : Catalog) (log : List Receipt) : Prop where
  honours : ∀ r ∈ log, c.Honours r
  types :
    c.types.toList = firsts (CoreType.all.map CoreType.ref ++ log.flatMap Receipt.types)
  methods : c.methods.toList = firsts (log.flatMap Receipt.methods)
  fields : c.fields.toList = firsts (log.flatMap Receipt.fields)
  signatures : c.signatures.toList = firsts (log.flatMap Receipt.signatures)

theorem Records.initial : Catalog.initial.Records [] where
  honours := by simp
  types := by decide
  methods := rfl
  fields := rfl
  signatures := rfl

/-- An import is one more line of the record. -/
theorem Records.imports (h : c.Records log) (sound : c.Sound) (step : c.Imports r c') :
    c'.Records (log ++ [r]) := by
  have honours : ∀ r' ∈ log ++ [r], c'.Honours r' := by
    -- earlier references are kept, and the new one is as asked for
    intro r' mem
    rcases List.mem_append.1 mem with mem | mem
    · exact (h.honours r' mem).mono (.of_imports step)
    · obtain rfl := List.mem_singleton.1 mem
      exact .of_imports sound step
  -- one table takes the reference up, and the others are left alone
  cases step with
  | type imported =>
    obtain ⟨types, entered, rfl⟩ := importType_entered imported
    refine ⟨honours, ?_, ?_, ?_, ?_⟩
    · simpa using entered.firsts_eq h.types
    · simpa using h.methods
    · simpa using h.fields
    · simpa using h.signatures
  | method _ imported =>
    obtain ⟨methods, entered, rfl⟩ := importMethod_entered imported
    refine ⟨honours, ?_, ?_, ?_, ?_⟩
    · simpa using h.types
    · simpa using entered.firsts_eq h.methods
    · simpa using h.fields
    · simpa using h.signatures
  | field _ imported =>
    obtain ⟨fields, entered, rfl⟩ := importField_entered imported
    refine ⟨honours, ?_, ?_, ?_, ?_⟩
    · simpa using h.types
    · simpa using h.methods
    · simpa using entered.firsts_eq h.fields
    · simpa using h.signatures
  | standalone _ imported =>
    obtain ⟨signatures, entered, rfl⟩ := importSignature_entered imported
    refine ⟨honours, ?_, ?_, ?_, ?_⟩
    · simpa using h.types
    · simpa using h.methods
    · simpa using h.fields
    · simpa using entered.firsts_eq h.signatures

/-! ## §4 Requests as imports -/

/-- Imports made one after the other. -/
inductive ImportsAll : Catalog → List Receipt → Catalog → Prop where
  | nil (c : Catalog) : ImportsAll c [] c
  | cons {c c₁ c' : Catalog} {r : Receipt} {rs : List Receipt} (first : c.Imports r c₁)
      (rest : ImportsAll c₁ rs c') : ImportsAll c (r :: rs) c'

/-- What every import of a sound catalogue preserves, imports preserve together. -/
theorem ImportsAll.induction {P : Catalog → List Receipt → Prop}
    (preserved : ∀ {c c' log r}, c.Sound → P c log → c.Imports r c' → P c' (log ++ [r]))
    {rs : List Receipt} (h : c.ImportsAll rs c') (sound : c.Sound) (before : P c log) :
    c'.Sound ∧ P c' (log ++ rs) := by
  -- soundness is carried along, since a step is only assumed to preserve `P` in sound catalogues
  induction h generalizing log with
  | nil c => exact ⟨sound, by rwa [List.append_nil]⟩
  | cons first _ ih =>
    rw [List.append_cons]
    exact ih (sound.of_imports first) (preserved sound before first)

theorem Sound.knows_ofStatic (h : c.Sound) {declaringType : TypeRef}
    (known : declaringType ∈ c.types) (parameters : List CoreType) (returnType : CoreType) :
    c.Knows (declaringType ::
      (Signature.ofStatic (parameters.map CoreType.ref) (some returnType.ref)).types) := by
  refine List.forall_mem_cons.2 ⟨known, fun t mem => ?_⟩
  rcases List.mem_append.1 mem with mem | mem
  · obtain ⟨core, _, rfl⟩ := List.mem_map.1 mem
    exact h.core core
  · obtain rfl := List.mem_singleton.1 mem
    exact h.core returnType

/-- The imports that the conversions come from mention known types only. -/
theorem importsAll_of_importFrom (sound : c.Sound) {helperType : String} {k : Converters}
    (h : Converters.importFrom helperType c = (k, c')) :
    c.ImportsAll (k.receipts helperType) c' := by
  -- each import needs a sound catalogue, and the types that the imports before it have left there
  obtain ⟨helper, c₁, c₂, c₃, first, second, third, fourth⟩ := Converters.importFrom_eq h
  have sound₁ := sound.importType first
  have helperKnown := (Honours.of_imports sound (.type first)).1
  have toObject : c₁.Imports (.method helper "ToObject" _ k.toObject) c₂ :=
    .method (sound₁.knows_ofStatic helperKnown [.object] .object) second
  have sound₂ := sound₁.of_imports toObject
  have toType : c₂.Imports (.method helper "ToType" _ k.toType) c₃ :=
    .method (sound₂.knows_ofStatic (mem_of_kept (Extends.of_imports toObject).types helperKnown)
      [.object, .systemType] .object) third
  have sound₃ := sound₂.of_imports toType
  -- the type of type descriptions is a core type, so it is known from the start
  have typeFromHandle :
      c₃.Imports (.method CoreType.systemType.ref "GetTypeFromHandle" _ k.typeFromHandle) c' :=
    .method (sound₃.knows_ofStatic (sound₃.core .systemType) [.runtimeTypeHandle] .systemType)
      fourth
  -- the first method has been found or made in the type that was imported for it
  have own : k.toObject.declaringType = helper := (Honours.of_imports sound₁ toObject).2.1
  rw [Converters.receipts, own]
  exact .cons (.type first) (.cons toObject (.cons toType (.cons typeFromHandle (.nil c'))))

/-- The imports that a request is made of mention known types only. -/
theorem importsAll_of_serve (sound : c.Sound) {q : Request} {receipts : List Receipt}
    (known : c.Knows q.types) (served : q.serve c = (receipts, c')) : c.ImportsAll receipts c' := by
  -- all requests but the last are single imports, of which `known` is the side condition
  cases q with
  | type =>
    cases served
    exact .cons (.type rfl) (.nil _)
  | method =>
    cases served
    exact .cons (.method known rfl) (.nil _)
  | field =>
    cases served
    exact .cons (.field known rfl) (.nil _)
  | standalone =>
    cases served
    exact .cons (.standalone known rfl) (.nil _)
  | converters helperType =>
    cases served
    exact importsAll_of_importFrom sound rfl

/-- What every import of a sound catalogue preserves, requests preserve. -/
theorem Serves.induction {P : Catalog → List Receipt → Prop}
    (preserved : ∀ {c c' log r}, c.Sound → P c log → c.Imports r c' → P c' (log ++ [r]))
    (h : c.Serves log c') (sound : c.Sound) (before : List Receipt) (initial : P c before) :
    c'.Sound ∧ P c' (before ++ log) := by
  -- requests are added at the end, and each one is a run of imports from where the others have led
  induction h with
  | nothing => exact ⟨sound, by rwa [List.append_nil]⟩
  | request _ known served ih =>
    obtain ⟨sound₁, earlier⟩ := ih
    rw [← List.append_assoc]
    exact (importsAll_of_serve sound₁ known served).induction preserved sound₁ earlier

/-- No request moves or changes an entry. -/
theorem Serves.extends (h : c.Serves log c') (sound : c.Sound) : c.Extends c' :=
  (h.induction (P := fun c' _ => c.Extends c')
    (fun _ grows step => grows.trans (.of_imports step)) sound [] (.refl c)).2

/-- Requests make the log longer, of which the tables stay a summary. -/
theorem Serves.records (h : c.Serves log c') (sound : c.Sound) {before : List Receipt}
    (records : c.Records before) : c'.Sound ∧ c'.Records (before ++ log) :=
  h.induction (fun sound records step => records.imports sound step) sound before records

end Catalog

end Devirt
