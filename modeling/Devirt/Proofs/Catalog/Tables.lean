import Devirt.Catalog
import Mathlib.Data.List.Induction
import Mathlib.Data.List.Nodup

/-!
# Tables of References

Each of the four ways to import something looks for an entry of a table with the right key, and
adds one if there is none. Two members or signatures have the same key exactly if they are compared
as equal, and the key of a type is its full name. So all four imports are instances of one step on
a table, whose keys stay different and whose entries stay in the order of their first import.

Main statements:
- `firsts_append_singleton`: the order of first occurrences, one element at a time.
- `Entered`, `Entered.nodup`, `Entered.firsts_eq`: the step, and what it preserves.
- `Signature.beq_iff`, `MethodRef.beq_iff`, `FieldRef.beq_iff`: comparison by keys.
- `Catalog.importType_entered` and its companions: the four imports are instances of the step.
-/

namespace Devirt

variable {α κ : Type}

/-! ## §1 First occurrences -/

/-- The elements of a list, each of them where it occurs first. -/
def firsts [DecidableEq α] (as : List α) : List α :=
  as.foldl (fun found a => if a ∈ found then found else found ++ [a]) []

section

variable [DecidableEq α]

theorem firsts_append_singleton (as : List α) (a : α) :
    firsts (as ++ [a]) = if a ∈ firsts as then firsts as else firsts as ++ [a] := by
  rw [firsts, List.foldl_append]
  rfl

theorem nodup_firsts (as : List α) : (firsts as).Nodup := by
  -- first occurrences are found from the front, so the list is taken apart at its end
  induction as using List.reverseRecOn with
  | nil => exact .nil
  | append_singleton as a ih =>
    rw [firsts_append_singleton]
    split
    next => exact ih
    next new =>
      rw [← List.concat_eq_append]
      exact .concat new ih

/-- Elements can be left out before or afterwards. -/
theorem filter_firsts (p : α → Bool) (as : List α) :
    (firsts as).filter p = firsts (as.filter p) := by
  induction as using List.reverseRecOn with
  | nil => rfl
  | append_singleton as a ih =>
    rw [firsts_append_singleton, List.filter_append]
    -- the last element is new to all elements exactly if it is new to the chosen ones
    by_cases chosen : p a = true
    · have single : [a].filter p = [a] := by simp [chosen]
      have same : a ∈ (firsts as).filter p ↔ a ∈ firsts as := by simp [List.mem_filter, chosen]
      rw [single, firsts_append_singleton, ← ih]
      simp only [same]
      split
      next => rfl
      next => rw [List.filter_append, single]
    · have single : [a].filter p = [] := by simp [chosen]
      rw [single, List.append_nil, ← ih]
      split
      next => rfl
      next => rw [List.filter_append, single, List.append_nil]

end

/-! ## §2 Entering a table -/

/-- A new entry is looked up in a table by its key: which entry is found or added, and the table
    afterwards. -/
inductive Entered (key : α → κ) (table : Array α) (new : α) : α → Array α → Prop where
  /-- There is an entry with the key. -/
  | known {a : α} (mem : a ∈ table) (same : key a = key new) : Entered key table new a table
  /-- The entry is added, since no other one has its key. -/
  | added (unknown : ∀ a ∈ table, key a ≠ key new) : Entered key table new new (table.push new)

namespace Entered

variable {key : α → κ} {table table' : Array α} {new a : α}

/-- A search for the key finds an entry. -/
theorem of_find?_eq_some {p : α → Bool} (byKey : ∀ b, p b = true → key b = key new)
    (found : table.find? p = some a) : Entered key table new a table :=
  .known (Array.mem_of_find?_eq_some found) (byKey a (Array.find?_some found))

/-- A search for the key finds nothing. -/
theorem of_find?_eq_none {p : α → Bool} (byKey : ∀ b, key b = key new → p b = true)
    (absent : table.find? p = none) : Entered key table new new (table.push new) :=
  .added fun b mem same => Array.find?_eq_none.1 absent b mem (byKey b same)

theorem key_eq (h : Entered key table new a table') : key a = key new := by
  cases h with
  | known _ same => exact same
  | added => rfl

theorem mem (h : Entered key table new a table') : a ∈ table' := by
  cases h with
  | known mem => exact mem
  | added => exact Array.mem_push_self

/-- Entries keep their places. -/
theorem kept (h : Entered key table new a table') : table.toList <+: table'.toList := by
  cases h with
  | known => exact List.prefix_rfl
  | added =>
    rw [Array.toList_push]
    exact List.prefix_append _ _

theorem mem_cases (h : Entered key table new a table') {b : α} (mem : b ∈ table') :
    b ∈ table ∨ b = new := by
  -- the table grows by the new entry at most
  cases h with
  | known => exact .inl mem
  | added => exact Array.mem_push.1 mem

/-- No two entries get the same key. -/
theorem nodup (h : Entered key table new a table') (distinct : (table.toList.map key).Nodup) :
    (table'.toList.map key).Nodup := by
  cases h with
  | known => exact distinct
  | added unknown =>
    -- the new entry is at the end, and its key has been searched for
    rw [Array.toList_push, List.map_append, List.map_singleton, ← List.concat_eq_append]
    refine .concat (fun old => ?_) distinct
    obtain ⟨b, mem, same⟩ := List.mem_map.1 old
    exact unknown b (Array.mem_toList_iff.1 mem) same

/-- The table lists what was found or added in the order of first occurrences. -/
theorem firsts_eq [DecidableEq α] (h : Entered key table new a table') {given : List α}
    (order : table.toList = firsts given) : table'.toList = firsts (given ++ [a]) := by
  rw [firsts_append_singleton, ← order]
  -- an entry that is found occurs already, one that is added has not occurred
  cases h with
  | known mem => rw [if_pos (Array.mem_toList_iff.2 mem)]
  | added unknown =>
    rw [if_neg fun old => unknown _ (Array.mem_toList_iff.1 old) rfl, Array.toList_push]

end Entered

/-- If keys are different, entries with one key are one entry. -/
theorem eq_of_key_eq {key : α → κ} {table : Array α} (distinct : (table.toList.map key).Nodup)
    {a b : α} (mem : a ∈ table) (mem' : b ∈ table) (same : key a = key b) : a = b :=
  List.inj_on_of_nodup_map distinct (Array.mem_toList_iff.2 mem) (Array.mem_toList_iff.2 mem') same

/-! ## §3 Keys -/

/-- Types are compared by their full names. -/
theorem TypeRef.beq_iff {t t' : TypeRef} : (t == t') = true ↔ t.fullName = t'.fullName :=
  beq_iff_eq (α := String)

theorem TypeRef.beq_comm (t t' : TypeRef) : (t == t') = (t' == t) := by
  rw [Bool.eq_iff_iff, beq_iff, beq_iff]
  exact eq_comm

theorem TypeRef.list_beq_iff {ts ts' : List TypeRef} :
    (ts == ts') = true ↔ ts.map TypeRef.fullName = ts'.map TypeRef.fullName := by
  -- lists are compared element by element, so both are taken apart together
  induction ts generalizing ts' with
  | nil => cases ts' <;> simp
  | cons t ts ih =>
    cases ts' with
    | nil => simp
    | cons t' ts' => simp only [List.cons_beq_cons, Bool.and_eq_true, TypeRef.beq_iff, ih,
        List.map_cons, List.cons.injEq]

theorem TypeRef.option_beq_iff {t t' : Option TypeRef} :
    (t == t') = true ↔ t.map TypeRef.fullName = t'.map TypeRef.fullName := by
  cases t <;> cases t' <;> simp [TypeRef.beq_iff]

namespace Signature

/-- A signature with the names of its types in place of the types. -/
def shape (s : Signature) : Bool × List String × Option String :=
  (s.hasThis, s.parameters.map TypeRef.fullName, s.returnType.map TypeRef.fullName)

/-- The types that a signature mentions. -/
def types (s : Signature) : List TypeRef :=
  s.parameters ++ s.returnType.toList

theorem beq_iff {s s' : Signature} : (s == s') = true ↔ s.shape = s'.shape := by
  show (s.hasThis == s'.hasThis && s.parameters == s'.parameters &&
    s.returnType == s'.returnType) = true ↔ _
  simp only [Bool.and_eq_true, beq_iff_eq, TypeRef.list_beq_iff, TypeRef.option_beq_iff, shape,
    Prod.mk.injEq, and_assoc]

end Signature

namespace MethodRef

/-- What methods are told apart by when they are imported. -/
def key (m : MethodRef) : String × String × Bool × List String × Option String :=
  (m.declaringType.fullName, m.name, m.signature.shape)

/-- Methods are compared by their keys and their tokens. -/
theorem beq_iff {m m' : MethodRef} : (m == m') = true ↔ m.key = m'.key ∧ m.token = m'.token := by
  show (m.declaringType == m'.declaringType && m.name == m'.name && m.signature == m'.signature &&
    m.token == m'.token) = true ↔ _
  simp only [Bool.and_eq_true, beq_iff_eq, TypeRef.beq_iff, Signature.beq_iff, key, Prod.mk.injEq,
    and_assoc]

end MethodRef

namespace FieldRef

/-- What fields are told apart by when they are imported. -/
def key (f : FieldRef) : String × String × String :=
  (f.declaringType.fullName, f.name, f.fieldType.fullName)

/-- Fields are compared by their keys, by whether they are static, and by their tokens. -/
theorem beq_iff {f f' : FieldRef} : (f == f') = true ↔
    f.key = f'.key ∧ f.isStatic = f'.isStatic ∧ f.token = f'.token := by
  show (f.declaringType == f'.declaringType && f.name == f'.name && f.fieldType == f'.fieldType &&
    f.isStatic == f'.isStatic && f.token == f'.token) = true ↔ _
  simp only [Bool.and_eq_true, beq_iff_eq, TypeRef.beq_iff, key, Prod.mk.injEq, and_assoc]

end FieldRef

namespace SignatureRef

/-- What standalone signatures are told apart by when they are imported. -/
def key (s : SignatureRef) : Bool × List String × Option String :=
  s.signature.shape

/-- Standalone signatures are compared by their keys and their tokens. -/
theorem beq_iff {s s' : SignatureRef} :
    (s == s') = true ↔ s.key = s'.key ∧ s.token = s'.token := by
  show (s.signature == s'.signature && s.token == s'.token) = true ↔ _
  simp only [Bool.and_eq_true, beq_iff_eq, Signature.beq_iff, key]

end SignatureRef

/-! ## §4 Imports -/

namespace Catalog

variable {c c' : Catalog}

theorem importType_entered {fullName : String} {isValueType : Bool} {t : TypeRef}
    (h : importType fullName isValueType c = (t, c')) : ∃ types,
      Entered TypeRef.fullName c.types
        ⟨fullName, isValueType, TokenTable.types.token (c.types.size + 1)⟩ t types ∧
      c' = { c with types := types } := by
  unfold importType at h
  split at h
  next found =>
    cases h
    exact ⟨_, .of_find?_eq_some (fun b same => beq_iff_eq.1 same) found, rfl⟩
  next absent =>
    cases h
    exact ⟨_, .of_find?_eq_none (fun b same => beq_iff_eq.2 same) absent, rfl⟩

theorem importMethod_entered {declaringType : TypeRef} {name : String} {signature : Signature}
    {m : MethodRef} (h : importMethod declaringType name signature c = (m, c')) : ∃ methods,
      Entered MethodRef.key c.methods ⟨declaringType, name, signature, c.nextMemberToken⟩ m
        methods ∧
      c' = { c with methods := methods } := by
  -- the three comparisons of the search are one comparison of keys
  have byKey : ∀ m : MethodRef, (m.declaringType == declaringType && m.name == name &&
      m.signature == signature) = true ↔
        m.key = MethodRef.key ⟨declaringType, name, signature, c.nextMemberToken⟩ := by
    intro m
    simp only [Bool.and_eq_true, beq_iff_eq, TypeRef.beq_iff, Signature.beq_iff, MethodRef.key,
      Prod.mk.injEq, and_assoc]
  unfold importMethod at h
  split at h
  next found =>
    cases h
    exact ⟨_, .of_find?_eq_some (fun m => (byKey m).1) found, rfl⟩
  next absent =>
    cases h
    exact ⟨_, .of_find?_eq_none (fun m => (byKey m).2) absent, rfl⟩

theorem importField_entered {declaringType fieldType : TypeRef} {name : String} {isStatic : Bool}
    {f : FieldRef} (h : importField declaringType name fieldType isStatic c = (f, c')) : ∃ fields,
      Entered FieldRef.key c.fields ⟨declaringType, name, fieldType, isStatic, c.nextMemberToken⟩ f
        fields ∧
      c' = { c with fields := fields } := by
  -- whether the field is static is not part of its key
  have byKey : ∀ f : FieldRef, (f.declaringType == declaringType && f.name == name &&
      f.fieldType == fieldType) = true ↔
        f.key = FieldRef.key ⟨declaringType, name, fieldType, isStatic, c.nextMemberToken⟩ := by
    intro f
    simp only [Bool.and_eq_true, beq_iff_eq, TypeRef.beq_iff, FieldRef.key, Prod.mk.injEq,
      and_assoc]
  unfold importField at h
  split at h
  next found =>
    cases h
    exact ⟨_, .of_find?_eq_some (fun f => (byKey f).1) found, rfl⟩
  next absent =>
    cases h
    exact ⟨_, .of_find?_eq_none (fun f => (byKey f).2) absent, rfl⟩

theorem importSignature_entered {signature : Signature} {s : SignatureRef}
    (h : importSignature signature c = (s, c')) : ∃ signatures,
      Entered SignatureRef.key c.signatures
        ⟨signature, TokenTable.signatures.token (c.signatures.size + 1)⟩ s signatures ∧
      c' = { c with signatures := signatures } := by
  unfold importSignature at h
  split at h
  next found =>
    cases h
    exact ⟨_, .of_find?_eq_some (fun s => Signature.beq_iff.1) found, rfl⟩
  next absent =>
    cases h
    exact ⟨_, .of_find?_eq_none (fun s => Signature.beq_iff.2) absent, rfl⟩

end Catalog

end Devirt
