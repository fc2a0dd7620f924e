import Devirt.Proofs.Catalog.Requests
import Devirt.Proofs.Catalog.Store

/-!
# Interning

A catalogue hands out one reference for each thing that it is asked for. References are values, so
two of them are the same if they agree in all their data; since no two entries of a table have the
same key, that is so only if they are one entry. As long as the rows of all tables can be numbered,
references have different tokens too.

Main statements:
- `Catalog.Interns`: what is expected of the references in a log.
- `Catalog.Identifies`: what is expected of their tokens.
- `Catalog.interns_of_serves`: every sequence of requests meets both, and puts each member on the
  shelf of its declaring type.
-/

namespace Devirt

/-- The table that the token of a member belongs to. -/
def Member.table : Member → TokenTable
  | .type _ => .types
  | .method _ | .field _ => .members

namespace Catalog

variable {c c' : Catalog} {log : List Receipt}

/-! ## §1 Identity -/

/-- One reference is handed out for each thing, and members are listed where they belong. -/
structure Interns (c : Catalog) (log : List Receipt) : Prop where
  /-- References are in the catalogue and have the data that was asked for. -/
  honours : ∀ r ∈ log, c.Honours r
  /-- No two entries of a table are the same. -/
  distinct : c.types.toList.Nodup ∧ c.methods.toList.Nodup ∧ c.fields.toList.Nodup ∧
    c.signatures.toList.Nodup
  /-- Types are the same if their names are. -/
  types : ∀ n t n' t', .type n t ∈ log → .type n' t' ∈ log → (t = t' ↔ n = n')
  /-- Methods are the same if their declaring types, names and signatures are equal. -/
  methods : ∀ d n s m d' n' s' m', .method d n s m ∈ log → .method d' n' s' m' ∈ log →
    (m = m' ↔ (d == d') = true ∧ n = n' ∧ (s == s') = true)
  /-- Fields are the same if their declaring types, names and types are equal. -/
  fields : ∀ d n t f d' n' t' f', .field d n t f ∈ log → .field d' n' t' f' ∈ log →
    (f = f' ↔ (d == d') = true ∧ n = n' ∧ (t == t') = true)
  /-- Standalone signatures are the same if they are equal. -/
  signatures : ∀ s r s' r', .standalone s r ∈ log → .standalone s' r' ∈ log →
    (r = r' ↔ (s == s') = true)
  /-- The methods of a type are those that were handed out for it, in the order of first import. -/
  methodsOf : ∀ t, (c.methodsOf t).toList =
    firsts ((log.flatMap Receipt.methods).filter (·.declaringType == t))
  /-- The fields of a type are those that were handed out for it, in the order of first import. -/
  fieldsOf : ∀ t, (c.fieldsOf t).toList =
    firsts ((log.flatMap Receipt.fields).filter (·.declaringType == t))
  /-- A method is listed once, and on its declaring type only. -/
  methodListed : ∀ d n s m, .method d n s m ∈ log →
    (∃! i : Nat, (c.methodsOf d)[i]? = some m) ∧ ∀ t ∈ c.types, m ∈ c.methodsOf t → t = d
  /-- A field is listed once, and on its declaring type only. -/
  fieldListed : ∀ d n t f, .field d n t f ∈ log →
    (∃! i : Nat, (c.fieldsOf d)[i]? = some f) ∧ ∀ u ∈ c.types, f ∈ c.fieldsOf u → u = d

/-- Without repetitions, an element has one place. -/
theorem existsUnique_getElem? {α : Type} {as : Array α} (distinct : as.toList.Nodup) {a : α}
    (mem : a ∈ as) : ∃! i : Nat, as[i]? = some a := by
  obtain ⟨i, here⟩ := Array.getElem?_of_mem mem
  refine ⟨i, here, fun j there => ?_⟩
  rw [← Array.getElem?_toList] at here there
  -- another place of the element would be a repetition of it
  have inside := (List.getElem?_eq_some_iff.1 there).1
  exact (List.getElem?_inj inside distinct).1 (there.trans here.symm)

theorem Records.methodsOf (h : c.Records log) (t : TypeRef) : (c.methodsOf t).toList =
    firsts ((log.flatMap Receipt.methods).filter (·.declaringType == t)) := by
  rw [Catalog.methodsOf, Array.toList_filter, h.methods, filter_firsts]

theorem Records.fieldsOf (h : c.Records log) (t : TypeRef) : (c.fieldsOf t).toList =
    firsts ((log.flatMap Receipt.fields).filter (·.declaringType == t)) := by
  rw [Catalog.fieldsOf, Array.toList_filter, h.fields, filter_firsts]

/-- Sound catalogues whose tables summarise the log intern what is in the log. -/
theorem Sound.interns (h : c.Sound) (records : c.Records log) : c.Interns log where
  honours := records.honours
  distinct := ⟨h.typeKeys.of_map _, h.methodKeys.of_map _, h.fieldKeys.of_map _,
    h.signatureKeys.of_map _⟩
  types n t n' t' given given' := by
    obtain ⟨mem, rfl⟩ := records.honours _ given
    obtain ⟨mem', rfl⟩ := records.honours _ given'
    exact ⟨congrArg _, h.type_eq mem mem'⟩
  methods d n s m d' n' s' m' given given' := by
    obtain ⟨mem, rfl, rfl, rfl⟩ := records.honours _ given
    obtain ⟨mem', rfl, rfl, rfl⟩ := records.honours _ given'
    have byKey : m = m' ↔ m.key = m'.key := ⟨congrArg _, eq_of_key_eq h.methodKeys mem mem'⟩
    rw [byKey, TypeRef.beq_iff, Signature.beq_iff, MethodRef.key, MethodRef.key, Prod.mk.injEq,
      Prod.mk.injEq]
  fields d n t f d' n' t' f' given given' := by
    obtain ⟨mem, rfl, rfl, rfl⟩ := records.honours _ given
    obtain ⟨mem', rfl, rfl, rfl⟩ := records.honours _ given'
    have byKey : f = f' ↔ f.key = f'.key := ⟨congrArg _, eq_of_key_eq h.fieldKeys mem mem'⟩
    rw [byKey, TypeRef.beq_iff, TypeRef.beq_iff, FieldRef.key, FieldRef.key, Prod.mk.injEq,
      Prod.mk.injEq]
  signatures s r s' r' given given' := by
    obtain ⟨mem, rfl⟩ := records.honours _ given
    obtain ⟨mem', rfl⟩ := records.honours _ given'
    have byKey : r = r' ↔ r.key = r'.key :=
      ⟨congrArg _, eq_of_key_eq h.signatureKeys mem mem'⟩
    rw [byKey, Signature.beq_iff, SignatureRef.key, SignatureRef.key]
  methodsOf := records.methodsOf
  fieldsOf := records.fieldsOf
  methodListed d n s m given := by
    obtain ⟨mem, rfl, _⟩ := records.honours _ given
    have declared := (h.methodTypes m mem) m.declaringType List.mem_cons_self
    refine ⟨existsUnique_getElem? (records.methodsOf _ ▸ nodup_firsts _) ?_,
      fun t known listed => ?_⟩
    · exact Array.mem_filter.2 ⟨mem, TypeRef.beq_iff.2 rfl⟩
    · exact h.type_eq known declared (TypeRef.beq_iff.1 (Array.mem_filter.1 listed).2).symm
  fieldListed d n t f given := by
    obtain ⟨mem, rfl, _⟩ := records.honours _ given
    have declared := (h.fieldTypes f mem) f.declaringType List.mem_cons_self
    refine ⟨existsUnique_getElem? (records.fieldsOf _ ▸ nodup_firsts _) ?_,
      fun t known listed => ?_⟩
    · exact Array.mem_filter.2 ⟨mem, TypeRef.beq_iff.2 rfl⟩
    · exact h.type_eq known declared (TypeRef.beq_iff.1 (Array.mem_filter.1 listed).2).symm

/-! ## §2 Tokens -/

/-- All types, methods and fields of a catalogue. -/
def members (c : Catalog) : List Member :=
  c.types.toList.map .type ++ (c.methods.toList.map .method ++ c.fields.toList.map .field)

/-- The rows of all tables can be numbered. -/
structure Fits (c : Catalog) : Prop where
  types : c.types.size ≤ TokenTable.capacity
  /-- Methods and fields share a table. -/
  members : c.methods.size + c.fields.size ≤ TokenTable.capacity
  signatures : c.signatures.size ≤ TokenTable.capacity

/-- Tokens tell what they are tokens of. -/
structure Identifies (c : Catalog) : Prop where
  /-- The top byte of a token is the number of its table. -/
  memberTable : ∀ a ∈ c.members, a.token >>> 24 = a.table.number
  signatureTable : ∀ s ∈ c.signatures, s.token >>> 24 = TokenTable.signatures.number
  /-- Members that are compared as equal, or have one token, are the same. -/
  members : ∀ a ∈ c.members, ∀ b ∈ c.members,
    ((a == b) = true ↔ a = b) ∧ (a = b ↔ a.token = b.token)
  /-- So are standalone signatures. -/
  signatures : ∀ s ∈ c.signatures, ∀ s' ∈ c.signatures,
    ((s == s') = true ↔ s = s') ∧ (s = s' ↔ s.token = s'.token)
  /-- No method and field share a token. -/
  apart : ∀ m ∈ c.methods, ∀ f ∈ c.fields, m.token ≠ f.token

theorem mem_members {a : Member} : a ∈ c.members ↔
    match a with
    | .type t => t ∈ c.types
    | .method m => m ∈ c.methods
    | .field f => f ∈ c.fields := by
  cases a <;> simp [members]

/-- Members are compared by their keys and their data, which keys determine. -/
theorem Sound.member_beq_iff (h : c.Sound) {a b : Member} (mem : a ∈ c.members)
    (mem' : b ∈ c.members) : (a == b) = true ↔ a = b := by
  rw [mem_members] at mem mem'
  show a.same b = true ↔ a = b
  -- only members of one kind are compared, the others are different either way
  cases a <;> cases b
  case type.type t t' =>
    rw [Member.same, TypeRef.beq_iff, Member.type.injEq]
    exact ⟨h.type_eq mem mem', congrArg _⟩
  case method.method m m' =>
    rw [Member.same, MethodRef.beq_iff, Member.method.injEq]
    exact ⟨fun same => eq_of_key_eq h.methodKeys mem mem' same.1, by rintro rfl; exact ⟨rfl, rfl⟩⟩
  case field.field f f' =>
    rw [Member.same, FieldRef.beq_iff, Member.field.injEq]
    exact ⟨fun same => eq_of_key_eq h.fieldKeys mem mem' same.1,
      by rintro rfl; exact ⟨rfl, rfl, rfl⟩⟩
  all_goals simp [Member.same]

/-- The tokens of members are those of the rows of two tables. -/
theorem Sound.tokens_members (h : c.Sound) : (c.members.map Member.token).Perm
    (TokenTable.types.rows c.types.size ++
      TokenTable.members.rows (c.methods.size + c.fields.size)) := by
  have split : c.members.map Member.token = c.types.toList.map TypeRef.token ++
      (c.methods.toList.map MethodRef.token ++ c.fields.toList.map FieldRef.token) := by
    simp [members, Function.comp_def, Member.token]
  -- methods and fields are numbered together, in an order that the tables do not tell
  rw [split, h.typeTokens]
  exact h.memberTokens.append_left _

theorem Sound.nodup_tokens_members (h : c.Sound) (fits : c.Fits) :
    (c.members.map Member.token).Nodup := by
  rw [h.tokens_members.nodup_iff, List.nodup_append]
  refine ⟨TokenTable.nodup_rows _ fits.types, TokenTable.nodup_rows _ fits.members, ?_⟩
  -- tokens of different tables differ in their top bytes
  rintro token mem _ mem' rfl
  have top := TokenTable.shiftRight_of_mem_rows _ fits.types mem
  rw [TokenTable.shiftRight_of_mem_rows _ fits.members mem'] at top
  cases top

theorem Sound.identifies (h : c.Sound) (fits : c.Fits) : c.Identifies where
  memberTable a mem := by
    rw [mem_members] at mem
    cases a with
    | type t =>
      refine TokenTable.shiftRight_of_mem_rows _ fits.types (h.typeTokens ▸ ?_)
      exact List.mem_map_of_mem (Array.mem_toList_iff.2 mem)
    | method m =>
      refine TokenTable.shiftRight_of_mem_rows _ fits.members (h.memberTokens.mem_iff.1 ?_)
      exact List.mem_append_left _ (List.mem_map_of_mem (Array.mem_toList_iff.2 mem))
    | field f =>
      refine TokenTable.shiftRight_of_mem_rows _ fits.members (h.memberTokens.mem_iff.1 ?_)
      exact List.mem_append_right _ (List.mem_map_of_mem (Array.mem_toList_iff.2 mem))
  signatureTable s mem := by
    refine TokenTable.shiftRight_of_mem_rows _ fits.signatures (h.signatureTokens ▸ ?_)
    exact List.mem_map_of_mem (Array.mem_toList_iff.2 mem)
  members a mem b mem' := by
    -- no two of all the tokens are the same, so a token has one member
    refine ⟨h.member_beq_iff mem mem', congrArg _, fun same => ?_⟩
    exact List.inj_on_of_nodup_map (h.nodup_tokens_members fits) mem mem' same
  signatures s mem s' mem' := by
    rw [SignatureRef.beq_iff]
    refine ⟨⟨fun same => eq_of_key_eq h.signatureKeys mem mem' same.1, ?_⟩, congrArg _, ?_⟩
    · rintro rfl
      exact ⟨rfl, rfl⟩
    · refine eq_of_key_eq ?_ mem mem'
      exact h.signatureTokens ▸ TokenTable.nodup_rows _ fits.signatures
  apart m mem f mem' same := by
    have method : Member.method m ∈ c.members := mem_members.2 mem
    have field : Member.field f ∈ c.members := mem_members.2 mem'
    cases List.inj_on_of_nodup_map (h.nodup_tokens_members fits) method field same

/-! ## §3 Sequences of requests -/

/-- However requests follow each other, the references that they hand out are interned. Later
    requests leave the entries of the catalogue as they are, and as long as all rows can be
    numbered, tokens tell what they are tokens of. What the catalogue lists for each type is what
    imports put on the shelf of the type, when every new member goes to the shelf of the type that
    declares it. -/
theorem interns_of_serves (h : Catalog.initial.Serves log c) {later : List Receipt}
    (h' : c.Serves later c') : c.Interns log ∧ c.Extends c' ∧ (c.Fits → c.Identifies) ∧
      Store.After log c.store := by
  -- soundness, the tables as a summary, and the shelves are all carried along the log
  obtain ⟨sound, records⟩ := h.records .initial .initial
  have kept : Store.After [] Catalog.initial.store := store_initial ▸ .nothing
  refine ⟨sound.interns records, h'.extends sound, sound.identifies, ?_⟩
  exact (h.induction (P := fun c log => Store.After log c.store)
    (fun sound before step => before.next (sound.imports_store step)) .initial [] kept).2

/-- The first type that is imported gets the row behind the core types. -/
def int32 : TypeRef := ⟨"System.Int32", true, 0x01000006⟩

theorem knows_int32 {c : Catalog} (here : c.types[5]? = some int32) {types : List TypeRef}
    (only : ∀ t ∈ types, t = int32) : c.Knows types :=
  fun t mem => only t mem ▸ Array.mem_of_getElem? here

/-- A type is asked for twice, the second time as if it were stored elsewhere, with the conversions
    and members of its own in between. It stays the one it was, and so does a method that is asked
    for again later. -/
theorem interns_of_serves_int32 : ∃ log c again c',
    Catalog.initial.Serves log c ∧ c.Serves again c' ∧ c.Fits ∧ log.length = 9 ∧
      log.getLast? = some (.type "System.Int32" int32) ∧ c.types.size = 7 ∧ c.methods.size = 4 ∧
      c.Interns log ∧ c.Extends c' ∧ c.Identifies ∧ Store.After log c.store := by
  have parameter : ∀ t ∈ (Request.method int32 "Parse" (.ofStatic [int32] (some int32))).types,
      t = int32 := by
    simp [Request.types, Signature.types, Signature.ofStatic]
  have start : Catalog.initial.Serves [] .initial := .nothing
  have type := start.next (.type "System.Int32" true) (fun _ absent => by cases absent)
  have converters := type.next (.converters "VM.Helpers") (fun _ absent => by cases absent)
  have method := converters.next (.method int32 "Parse" (.ofStatic [int32] (some int32)))
    (knows_int32 rfl parameter)
  have field := method.next (.field int32 "Zero" int32 true)
    (knows_int32 rfl (by simp [Request.types]))
  have standalone := field.next (.standalone (.ofStatic [int32] none))
    (knows_int32 rfl (by simp [Request.types, Signature.types, Signature.ofStatic]))
  have served := standalone.next (.type "System.Int32" false) (fun _ absent => by cases absent)
  have later : ∀ c : Catalog, c.types[5]? = some int32 → c.Serves _ _ := fun c here =>
    Serves.nothing.next (.method int32 "Parse" (.ofStatic [int32] (some int32)))
      (knows_int32 here parameter)
  -- the types of each request are among those that the requests before it have left
  obtain ⟨interns, grows, identifies, kept⟩ := interns_of_serves served (later _ rfl)
  refine ⟨_, _, _, _, served, later _ rfl, ?fits, rfl, rfl, rfl, rfl, interns, grows,
    identifies ?fits, kept⟩
  exact ⟨by decide, by decide, by decide⟩

end Catalog

end Devirt
