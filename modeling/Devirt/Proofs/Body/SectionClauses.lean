import Devirt.Body.ExceptionSection
import Devirt.Proofs.Body.Fields

/-!
# Clauses of Exception Sections

What the bytes of an exception section say, read off the bytes, and when there is no section. A
section is a header that holds its own size, and behind it a clause of six numbers for each handler.
The numbers describe the handler: an offset and a length for each of its ranges, so that the sum of
the two is the offset at which the range stops.

A handler offends if one of its labels is not in the body, or if one of its ranges stops before it
starts. Handlers are encoded in order, so the first handler that offends is the one reported.

Main statements:
- `Handler.Offends`: what can be wrong with a handler.
- `Clause.Describes`, `Body.SectionDescribes`: what clauses and sections say.
- `Body.describes_of_encodeHandler`, `Body.offends_of_encodeHandler`: a handler is encoded as its
  clause, or offends.
- `Body.encodeHandlers_describes`: when there is a section, what it says, and which error there is
  otherwise.
-/

namespace Devirt

open Numeric (littleEndian)

/-! ## §1 Pieces of equal length -/

/-- A piece of a sequence of equally long pieces is found behind the pieces before it. -/
theorem exists_drop_flatten {α : Type} {width : Nat} {pieces : List (List α)}
    (each : ∀ piece ∈ pieces, piece.length = width) {k : Nat} {piece : List α}
    (here : pieces[k]? = some piece) : ∃ rest, pieces.flatten.drop (width * k) = piece ++ rest := by
  -- position `k` moves to the front as the pieces before it are dropped one by one
  induction pieces generalizing k with
  | nil => cases here
  | cons first pieces ih =>
    obtain ⟨length, others⟩ := List.forall_mem_cons.1 each
    cases k with
    | zero =>
      obtain rfl := Option.some.inj here
      exact ⟨pieces.flatten, rfl⟩
    | succ k =>
      obtain ⟨rest, behind⟩ := ih others here
      refine ⟨rest, ?_⟩
      rw [List.flatten_cons, Nat.mul_succ, Nat.add_comm, ← List.drop_drop, List.drop_left' length,
        behind]

theorem length_flatten_of_forall {α : Type} {width : Nat} {pieces : List (List α)}
    (each : ∀ piece ∈ pieces, piece.length = width) :
    pieces.flatten.length = width * pieces.length := by
  induction pieces with
  | nil => rfl
  | cons first pieces ih =>
    obtain ⟨length, others⟩ := List.forall_mem_cons.1 each
    rw [List.flatten_cons, List.length_append, length, ih others, List.length_cons, Nat.mul_succ,
      Nat.add_comm]

/-- A number is found behind the numbers before it, all of them being written in four bytes. -/
theorem exists_drop_fields {numbers : List Nat} {j n : Nat} (here : numbers[j]? = some n) :
    ∃ rest, (numbers.flatMap (littleEndian 4)).drop (4 * j) = littleEndian 4 n ++ rest := by
  rw [List.flatMap_def]
  refine exists_drop_flatten (fun piece mem => ?_) ?_
  · obtain ⟨m, _, rfl⟩ := List.mem_map.1 mem
    exact Numeric.length_littleEndian 4 m
  · rw [List.getElem?_map, here, Option.map_some]

/-! ## §2 What can be wrong with a handler -/

/-- The labels that a handler refers to. Where a filter starts matters for filters only. -/
def Handler.labels (h : Handler) : List Label :=
  [h.guarded.start, h.guarded.stop, h.handler.start, h.handler.stop] ++
    if h.kind = .filter then h.filterStart.toList else []

/-- The reasons for which a handler cannot be encoded. -/
inductive Handler.Offends (b : Body) (h : Handler) : BodyError → Prop where
  /-- A label is not in the body. -/
  | unknown {label : Label} : label ∈ h.labels → b.position? label = none →
      Offends b h (.unknownLine label)
  /-- A range stops at a smaller offset than that at which it starts. -/
  | inverted {span : Span} {start stop : Nat} : span ∈ [h.guarded, h.handler] →
      b.offset? span.start = some start → b.offset? span.stop = some stop → stop < start →
      Offends b h (.invertedRange span.start span.stop)

/-! ## §3 What a clause says -/

/-- The numbers of a clause. -/
structure Clause where
  flags : Nat
  guardedOffset : Nat
  guardedLength : Nat
  handlerOffset : Nat
  handlerLength : Nat
  /-- Where the filter starts, or the token of the type caught, or zero. -/
  detail : Nat

/-- The numbers of a clause, in the order in which they are written. -/
def Clause.fields (c : Clause) : List Nat :=
  [c.flags, c.guardedOffset, c.guardedLength, c.handlerOffset, c.handlerLength, c.detail]

/-- The numbers are those of a handler in a body. -/
structure Clause.Describes (c : Clause) (b : Body) (h : Handler) : Prop where
  flags : c.flags = h.kind.clauseFlags
  guardedStart : b.offset? h.guarded.start = some c.guardedOffset
  guardedStop : b.offset? h.guarded.stop = some (c.guardedOffset + c.guardedLength)
  handlerStart : b.offset? h.handler.start = some c.handlerOffset
  handlerStop : b.offset? h.handler.stop = some (c.handlerOffset + c.handlerLength)
  filter : h.kind = .filter → ∀ start, h.filterStart = some start → b.offset? start = some c.detail
  catchType : h.kind = .typed → ∀ type, h.catchType = some type → c.detail = type.token.toNat
  /-- A filter without a start, and a catch without a type, are like the other kinds. -/
  otherwise : (h.kind = .filter → h.filterStart = none) → (h.kind = .typed → h.catchType = none) →
    c.detail = 0

namespace Body

variable {b : Body} {h : Handler} {label : Label} {e : BodyError}

/-- Lines start before the end of the code. -/
theorem lt_codeSize_of_offset? {offset : Nat} (found : b.offset? label = some offset) :
    offset < b.codeSize := by
  rw [offset?_eq, Option.map_eq_some_iff] at found
  obtain ⟨i, position, rfl⟩ := found
  have inside : i < b.lines.length := by
    rw [b.length_lines]
    exact lt_length_of_position? position
  have whole := totalWidth_take_lt inside inside
  rwa [List.take_length, ← b.codeSize_eq] at whole

theorem offsetField_eq_ok_iff {n : Nat} :
    b.offsetField label = .ok n ↔ b.offset? label = some n ∧ n < 0x100000000 := by
  unfold offsetField
  cases b.offset? label with
  | none => simp
  | some offset =>
    dsimp only
    split
    next small =>
      constructor
      · rintro ⟨⟩
        exact ⟨rfl, small⟩
      · rintro ⟨⟨⟩, _⟩
        rfl
    next large =>
      constructor
      · rintro ⟨⟩
      · rintro ⟨⟨⟩, small⟩
        exact absurd small large

/-- The length leads from the start of the range to its stop. -/
theorem offset?_of_lengthField {span : Span} {n : Nat} (field : b.lengthField span = .ok n) :
    ∃ start, b.offset? span.start = some start ∧ b.offset? span.stop = some (start + n) ∧
      start + n < 0x100000000 := by
  obtain ⟨stop, upper, field⟩ := Fallible.bind_eq_ok.1 field
  obtain ⟨start, lower, field⟩ := Fallible.bind_eq_ok.1 field
  obtain ⟨last, small⟩ := offsetField_eq_ok_iff.1 upper
  refine ⟨start, (offsetField_eq_ok_iff.1 lower).1, ?_⟩
  -- a range that stops before it starts has no length
  split at field
  next le =>
    obtain rfl := Fallible.pure_eq_ok.1 field
    rw [Nat.add_sub_of_le le]
    exact ⟨last, small⟩
  next => cases field

/-! ## §4 Encoding one handler -/

theorem clauseFlags_lt (kind : HandlerKind) : kind.clauseFlags < 0x100000000 := by
  cases kind <;> decide

/-- What the last number of a clause is. -/
theorem detailField_eq_ok {n : Nat} (field : b.detailField h = .ok n) : n < 0x100000000 ∧
    (h.kind = .filter → ∀ start, h.filterStart = some start → b.offset? start = some n) ∧
    (h.kind = .typed → ∀ type, h.catchType = some type → n = type.token.toNat) ∧
    ((h.kind = .filter → h.filterStart = none) → (h.kind = .typed → h.catchType = none) →
      n = 0) := by
  unfold detailField at field
  -- what is written depends on the kind, and on whether the handler has what the kind asks for
  split at field
  next start _ kind filter =>
    obtain ⟨found, small⟩ := offsetField_eq_ok_iff.1 field
    rw [kind, filter]
    refine ⟨small, ?_, by simp, by simp⟩
    rintro - _ ⟨⟩
    exact found
  next type kind known =>
    obtain rfl := Except.ok.inj field
    rw [kind, known]
    refine ⟨type.token.toNat_lt, by simp, ?_, by simp⟩
    rintro - _ ⟨⟩
    rfl
  -- the rest is neither a filter with a start nor a catch with a type
  next noFilter noType =>
    obtain rfl := Except.ok.inj field
    refine ⟨by decide, fun kind start known => ?_, fun kind type known => ?_, fun _ _ => rfl⟩
    · exact (noFilter start kind known).elim
    · exact (noType type kind known).elim

/-- A handler that is encoded is encoded as its clause. -/
theorem describes_of_encodeHandler {bytes : List UInt8} (encoded : b.encodeHandler h = .ok bytes) :
    ∃ clause : Clause, clause.Describes b h ∧ (∀ n ∈ clause.fields, n < 0x100000000) ∧
      bytes = clause.fields.flatMap (littleEndian 4) := by
  -- the numbers are computed in the order in which they are written
  obtain ⟨guardedOffset, lower, encoded⟩ := Fallible.bind_eq_ok.1 encoded
  obtain ⟨guardedLength, extent, encoded⟩ := Fallible.bind_eq_ok.1 encoded
  obtain ⟨handlerOffset, lower', encoded⟩ := Fallible.bind_eq_ok.1 encoded
  obtain ⟨handlerLength, extent', encoded⟩ := Fallible.bind_eq_ok.1 encoded
  obtain ⟨detail, field, encoded⟩ := Fallible.bind_eq_ok.1 encoded
  obtain rfl := Fallible.pure_eq_ok.1 encoded
  obtain ⟨start, small⟩ := offsetField_eq_ok_iff.1 lower
  obtain ⟨start', small'⟩ := offsetField_eq_ok_iff.1 lower'
  -- the length of a range looks its start up again, and finds the offset that is written before it
  obtain ⟨_, same, stop, sum⟩ := offset?_of_lengthField extent
  obtain ⟨_, same', stop', sum'⟩ := offset?_of_lengthField extent'
  obtain rfl := Option.some.inj (start.symm.trans same)
  obtain rfl := Option.some.inj (start'.symm.trans same')
  obtain ⟨smallDetail, filter, catchType, otherwise⟩ := detailField_eq_ok field
  refine ⟨⟨h.kind.clauseFlags, guardedOffset, guardedLength, handlerOffset, handlerLength, detail⟩,
    ⟨rfl, start, stop, start', stop', filter, catchType, otherwise⟩, ?_, rfl⟩
  -- flags, offsets and tokens are checked or small, and a length is below the offset it leads to
  have flags := clauseFlags_lt h.kind
  simp only [Clause.fields, List.forall_mem_cons, List.not_mem_nil, false_imp_iff, implies_true,
    and_true]
  omega

/-- A handler with a clause does not offend. -/
theorem not_offends_of_describes {clause : Clause} (describes : clause.Describes b h) :
    ¬h.Offends b e := by
  rintro (⟨mem, absent⟩ | ⟨mem, start, stop, before⟩)
  case unknown label =>
    -- every label has an offset in the clause
    have found : ∃ offset, b.offset? label = some offset := by
      rcases List.mem_append.1 mem with mem | mem
      · simp only [List.mem_cons, List.not_mem_nil, or_false] at mem
        rcases mem with rfl | rfl | rfl | rfl
        · exact ⟨_, describes.guardedStart⟩
        · exact ⟨_, describes.guardedStop⟩
        · exact ⟨_, describes.handlerStart⟩
        · exact ⟨_, describes.handlerStop⟩
      · split at mem
        next kind => exact ⟨_, describes.filter kind _ (Option.mem_toList.1 mem)⟩
        next => cases mem
    obtain ⟨offset, found⟩ := found
    rw [offset?_eq, absent] at found
    cases found
  case inverted span lower upper =>
    -- a range stops where its length leads to, which is not before its start
    have sum : ∃ length, upper = lower + length := by
      simp only [List.mem_cons, List.not_mem_nil, or_false] at mem
      rcases mem with rfl | rfl
      · obtain rfl := Option.some.inj (describes.guardedStart.symm.trans start)
        exact ⟨_, Option.some.inj (stop.symm.trans describes.guardedStop)⟩
      · obtain rfl := Option.some.inj (describes.handlerStart.symm.trans start)
        exact ⟨_, Option.some.inj (stop.symm.trans describes.handlerStop)⟩
    obtain ⟨length, rfl⟩ := sum
    omega

/-- The code is longer than can be declared, and the error says so. -/
def IsTooLong (b : Body) (e : BodyError) : Prop :=
  0xFFFFFFFF < b.codeSize ∧ ∃ size, e = .codeTooLong size

/-- An offset fails to be encoded for an unknown label, or in code that is too long. -/
theorem unknown_of_offsetField (failed : b.offsetField label = .error e) :
    b.position? label = none ∧ e = .unknownLine label ∨ b.IsTooLong e := by
  unfold offsetField at failed
  split at failed
  next absent =>
    rw [offset?_eq, Option.map_eq_none_iff] at absent
    exact .inl ⟨absent, (Except.error.inj failed).symm⟩
  -- an offset that needs more than four bytes lies in code that is longer than can be declared
  next offset found =>
    split at failed
    next => cases failed
    next large =>
      have within := lt_codeSize_of_offset? found
      exact .inr ⟨by omega, offset, (Except.error.inj failed).symm⟩

theorem offends_of_offsetField (mem : label ∈ h.labels) (failed : b.offsetField label = .error e) :
    h.Offends b e ∨ b.IsTooLong e := by
  refine (unknown_of_offsetField failed).imp_left ?_
  rintro ⟨absent, rfl⟩
  exact .unknown mem absent

/-- A length fails to be encoded for a range that offends, or in code that is too long. -/
theorem offends_of_lengthField {span : Span} (range : span ∈ [h.guarded, h.handler])
    (failed : b.lengthField span = .error e) : h.Offends b e ∨ b.IsTooLong e := by
  have labels : span.start ∈ h.labels ∧ span.stop ∈ h.labels := by
    simp only [List.mem_cons, List.not_mem_nil, or_false] at range
    rcases range with rfl | rfl <;> simp [Handler.labels]
  -- the upper end is resolved first, so a label missing there is the one reported
  rcases Fallible.bind_eq_error.1 failed with failed | ⟨stop, upper, failed⟩
  · exact offends_of_offsetField labels.2 failed
  rcases Fallible.bind_eq_error.1 failed with failed | ⟨start, lower, failed⟩
  · exact offends_of_offsetField labels.1 failed
  split at failed
  next => cases failed
  next before =>
    obtain rfl := Except.error.inj failed
    exact .inl (.inverted range (offsetField_eq_ok_iff.1 lower).1 (offsetField_eq_ok_iff.1 upper).1
      (Nat.lt_of_not_le before))

/-- A handler fails to be encoded because it offends, or in code that is too long. -/
theorem offends_of_encodeHandler (failed : b.encodeHandler h = .error e) :
    h.Offends b e ∨ b.IsTooLong e := by
  -- field by field, in the order in which they are written
  rcases Fallible.bind_eq_error.1 failed with failed | ⟨_, _, failed⟩
  · exact offends_of_offsetField (by simp [Handler.labels]) failed
  rcases Fallible.bind_eq_error.1 failed with failed | ⟨_, _, failed⟩
  · exact offends_of_lengthField (by simp) failed
  rcases Fallible.bind_eq_error.1 failed with failed | ⟨_, _, failed⟩
  · exact offends_of_offsetField (by simp [Handler.labels]) failed
  rcases Fallible.bind_eq_error.1 failed with failed | ⟨_, _, failed⟩
  · exact offends_of_lengthField (by simp) failed
  rcases Fallible.bind_eq_error.1 failed with failed | ⟨_, _, done⟩
  · unfold detailField at failed
    split at failed
    next start _ kind filter =>
      exact offends_of_offsetField (by simp [Handler.labels, kind, filter]) failed
    next => cases failed
    next => cases failed
  · cases done

/-! ## §5 Sections -/

/-- The bytes are a section for the handlers of the body: a header of four bytes, which holds the
    number of all bytes, and a clause of six numbers for each handler. -/
structure SectionDescribes (b : Body) (bytes : Array UInt8) : Prop where
  size_eq : bytes.size = 4 + 24 * b.handlers.size
  tag : bytes[0]? = some 0x41
  /-- The size fits in the 24 bits that there are for it. -/
  header : Holds 3 (4 + 24 * b.handlers.size) (bytes.extract 1 4).toList
  /-- The number at position `j` of the clause at position `k`. -/
  clauses : ∀ (k : Nat) (h : Handler), b.handlers[k]? = some h →
    ∃ clause : Clause, clause.Describes b h ∧ ∀ j n, clause.fields[j]? = some n →
      Holds 4 n (bytes.extract (4 + 24 * k + 4 * j) (8 + 24 * k + 4 * j)).toList

/-- Without too many handlers, a section is its header and the clauses of all handlers. -/
theorem encodeHandlers_eq (present : b.handlers ≠ #[])
    (few : exceptionSectionSize b.handlers.size < 0x1000000) :
    b.encodeHandlers = do
      let clauses ← b.handlers.toList.mapM b.encodeHandler
      return (#[exceptionSectionTag] ++ littleEndian 3 (exceptionSectionSize b.handlers.size)) ++
        clauses.flatten := by
  rw [encodeHandlers, if_neg (by simpa using present), if_pos few, ← Array.foldlM_toList,
    Fallible.foldlM_append_eq]

/-- A clause has 24 bytes. -/
theorem length_clause (clause : Clause) :
    (clause.fields.flatMap (littleEndian 4)).length = 24 := by
  simp [Clause.fields]

/-- A number of a clause is found behind the clauses and the numbers before it. -/
theorem exists_drop_clauses {clauses : List (List UInt8)}
    (wide : ∀ clause ∈ clauses, clause.length = 24) {k : Nat} {clause : Clause}
    (here : clauses[k]? = some (clause.fields.flatMap (littleEndian 4))) {j n : Nat}
    (field : clause.fields[j]? = some n) :
    ∃ rest, clauses.flatten.drop (24 * k + 4 * j) = littleEndian 4 n ++ rest := by
  obtain ⟨others, behind⟩ := exists_drop_flatten wide here
  obtain ⟨numbers, fields⟩ := exists_drop_fields field
  -- the number lies within its clause, so it is not cut off by the other clauses
  have within : 4 * j ≤ (clause.fields.flatMap (littleEndian 4)).length := by
    have position : j < 6 := (List.getElem?_eq_some_iff.1 field).1
    rw [length_clause]
    omega
  refine ⟨numbers ++ others, ?_⟩
  rw [← List.drop_drop, behind, List.drop_append_of_le_length within, fields, List.append_assoc]

/-- A header of four bytes with clauses behind it is a section. -/
theorem sectionDescribes_of_clauses {clauses : List (List UInt8)} {bytes : Array UInt8}
    (few : exceptionSectionSize b.handlers.size < 0x1000000)
    (encoded : b.handlers.toList.mapM b.encodeHandler = .ok clauses)
    (layout : bytes.toList = (exceptionSectionTag ::
      littleEndian 3 (exceptionSectionSize b.handlers.size)) ++ clauses.flatten) :
    b.SectionDescribes bytes := by
  have size : exceptionSectionSize b.handlers.size = 4 + 24 * b.handlers.size := Nat.add_comm _ _
  rw [size] at few layout
  -- there is a clause for each handler, at the same position
  obtain ⟨count, each⟩ := List.forall₂_iff_get.1 (Fallible.mapM_eq_ok.1 encoded)
  rw [Array.length_toList] at count
  -- all clauses being of one length, the position of a clause tells where its bytes are
  have wide : ∀ clause ∈ clauses, clause.length = 24 := by
    intro clause mem
    obtain ⟨k, inside, rfl⟩ := List.mem_iff_getElem.1 mem
    obtain ⟨_, _, _, same⟩ := describes_of_encodeHandler (each k (by simpa [count]) inside)
    exact (congrArg List.length same).trans (length_clause _)
  refine ⟨?_, ?_, ?_, fun k h here => ?_⟩
  · rw [← Array.length_toList, layout, List.length_append, length_flatten_of_forall wide, count,
      List.length_cons, Numeric.length_littleEndian]
  · rw [← Array.getElem?_toList, layout]
    rfl
  · -- behind the tag stands the size, in three bytes because there are few handlers
    rw [Array.toList_extract, List.extract_eq_take_drop, layout]
    exact holds_littleEndian few
  · obtain ⟨inside, rfl⟩ := Array.getElem?_eq_some_iff.1 here
    have inside' : k < clauses.length := count ▸ inside
    obtain ⟨clause, describes, small, same⟩ := describes_of_encodeHandler (each k inside inside')
    refine ⟨clause, describes, fun j n field => ?_⟩
    have here' : clauses[k]? = some (clause.fields.flatMap (littleEndian 4)) :=
      (List.getElem?_eq_getElem inside').trans (congrArg some same)
    obtain ⟨rest, slice⟩ := exists_drop_clauses wide here' field
    have behind : bytes.toList.drop (4 + 24 * k + 4 * j) = littleEndian 4 n ++ rest := by
      -- four bytes of header come first
      rw [layout, Nat.add_assoc, ← List.drop_drop, List.drop_left' (by simp), slice]
    rw [Array.toList_extract, List.extract_eq_take_drop, behind, List.take_left' (by simp; omega)]
    exact holds_littleEndian (small n (List.mem_of_getElem? field))

/-- Without too many handlers, a section fails as the first handler that cannot be encoded. -/
theorem exists_of_encodeHandlers_eq_error (present : b.handlers ≠ #[])
    (few : exceptionSectionSize b.handlers.size < 0x1000000)
    (failed : b.encodeHandlers = .error e) : ∃ before h after,
      b.handlers.toList = before ++ h :: after ∧ b.encodeHandler h = .error e ∧
      ∀ earlier ∈ before, ∃ clause, b.encodeHandler earlier = .ok clause := by
  -- the fault of a list of steps is the first one that a search for faults finds
  rw [encodeHandlers_eq present few, ← Fallible.fault?_eq_some_iff, Fallible.fault?_bind_pure,
    Fallible.fault?_mapM, List.findSome?_eq_some_iff] at failed
  obtain ⟨before, h, after, handlers, fault, sound⟩ := failed
  refine ⟨before, h, after, handlers, Fallible.fault?_eq_some_iff.1 fault, fun earlier mem => ?_⟩
  cases encoded : b.encodeHandler earlier with
  | ok clause => exact ⟨clause, rfl⟩
  | error e' =>
    have absent := sound earlier mem
    rw [Fallible.fault?_eq_some_iff.2 encoded] at absent
    cases absent

/-- Too many handlers are the one fault of a section that is not the fault of a handler. -/
theorem encodeHandlers_eq_tooManyHandlers_iff (present : b.handlers ≠ #[]) {count : Nat} :
    b.encodeHandlers = .error (.tooManyHandlers count) ↔
      0xFFFFFF < 24 * b.handlers.size + 4 ∧ count = b.handlers.size := by
  by_cases few : exceptionSectionSize b.handlers.size < 0x1000000
  · have small : ¬0xFFFFFF < 24 * b.handlers.size + 4 := Nat.not_lt.2 (Nat.le_of_lt_succ few)
    simp only [small, false_and, iff_false]
    intro failed
    -- no handler fails for the number of handlers
    obtain ⟨_, _, _, _, fault, _⟩ := exists_of_encodeHandlers_eq_error present few failed
    rcases offends_of_encodeHandler fault with offends | ⟨_, _, same⟩
    · cases offends
    · cases same
  · have large : 0xFFFFFF < 24 * b.handlers.size + 4 := Nat.lt_of_succ_le (Nat.not_lt.1 few)
    have many : b.encodeHandlers = .error (.tooManyHandlers b.handlers.size) := by
      rw [encodeHandlers, if_neg (by simpa using present), if_neg few]
      rfl
    simp [many, large, eq_comm]

/-- Bytes that are encoded for handlers are a section for them. -/
theorem sectionDescribes_of_encodeHandlers (present : b.handlers ≠ #[]) {bytes : Array UInt8}
    (encoded : b.encodeHandlers = .ok bytes) : b.SectionDescribes bytes := by
  by_cases few : exceptionSectionSize b.handlers.size < 0x1000000
  · rw [encodeHandlers_eq present few] at encoded
    obtain ⟨clauses, each, layout⟩ := Fallible.bind_eq_ok.1 encoded
    obtain rfl := Fallible.pure_eq_ok.1 layout
    exact sectionDescribes_of_clauses few each (by simp)
  · rw [encodeHandlers, if_neg (by simpa using present), if_neg few] at encoded
    cases encoded

/-- In code that is not too long, the error is about the first handler that offends. -/
theorem exists_first_offender (present : b.handlers ≠ #[])
    (few : 24 * b.handlers.size + 4 ≤ 0xFFFFFF) (small : b.codeSize ≤ 0xFFFFFFFF)
    (failed : b.encodeHandlers = .error e) : ∃ before h after,
      b.handlers.toList = before ++ h :: after ∧ h.Offends b e ∧
      ∀ earlier ∈ before, ∀ e', ¬earlier.Offends b e' := by
  obtain ⟨before, h, after, handlers, fault, sound⟩ :=
    exists_of_encodeHandlers_eq_error present (Nat.lt_succ_of_le few) failed
  have notLong : ¬b.IsTooLong e := fun long => absurd long.1 (Nat.not_lt.2 small)
  refine ⟨before, h, after, handlers, (offends_of_encodeHandler fault).resolve_right notLong, ?_⟩
  -- the handlers before it have been encoded as clauses, so they do not offend
  intro earlier mem e'
  obtain ⟨clause, encoded⟩ := sound earlier mem
  obtain ⟨_, describes, _⟩ := describes_of_encodeHandler encoded
  exact not_offends_of_describes describes

/-- If a handler offends, there is no section, since it would have a clause for the handler. -/
theorem exists_error_of_offends (present : b.handlers ≠ #[]) (mem : h ∈ b.handlers)
    (offends : h.Offends b e) : ∃ e', b.encodeHandlers = .error e' := by
  cases encoded : b.encodeHandlers with
  | error e' => exact ⟨e', rfl⟩
  | ok bytes =>
    have describes := sectionDescribes_of_encodeHandlers present encoded
    obtain ⟨k, inside, rfl⟩ := Array.mem_iff_getElem.1 mem
    obtain ⟨clause, same, _⟩ := describes.clauses k _ (Array.getElem?_eq_getElem inside)
    exact absurd offends (not_offends_of_describes same)

/-- Without handlers there is no section. Otherwise there are too many handlers for its size, or, in
    code that is not too long, some handler offends, and then the error is about the first handler
    that does. In all other cases there is a section, and it describes the handlers. -/
theorem encodeHandlers_describes (b : Body) :
    (b.handlers = #[] → b.encodeHandlers = .ok #[]) ∧
    (b.handlers ≠ #[] →
      (∀ count, b.encodeHandlers = .error (.tooManyHandlers count) ↔
        0xFFFFFF < 24 * b.handlers.size + 4 ∧ count = b.handlers.size) ∧
      (24 * b.handlers.size + 4 ≤ 0xFFFFFF → b.codeSize ≤ 0xFFFFFFFF →
        ((∃ e, b.encodeHandlers = .error e) ↔ ∃ h ∈ b.handlers, ∃ e, h.Offends b e) ∧
        ∀ e, b.encodeHandlers = .error e → ∃ before h after,
          b.handlers.toList = before ++ h :: after ∧ h.Offends b e ∧
          ∀ earlier ∈ before, ∀ e', ¬earlier.Offends b e') ∧
      ∀ bytes, b.encodeHandlers = .ok bytes → b.SectionDescribes bytes) := by
  refine ⟨fun empty => ?_, fun present => ⟨?_, fun few small => ⟨⟨?_, ?_⟩, ?_⟩, ?_⟩⟩
  · rw [encodeHandlers, if_pos (by simp [empty])]
    rfl
  · exact fun count => encodeHandlers_eq_tooManyHandlers_iff present
  · rintro ⟨e, failed⟩
    obtain ⟨before, h, after, handlers, offends, _⟩ :=
      exists_first_offender present few small failed
    exact ⟨h, by simp [← Array.mem_toList_iff, handlers], e, offends⟩
  · rintro ⟨h, mem, e, offends⟩
    exact exists_error_of_offends present mem offends
  · exact fun e => exists_first_offender present few small
  · exact fun bytes => sectionDescribes_of_encodeHandlers present

/-- Three placeholders with handlers. -/
def guarding (handlers : Array Handler) : Body where
  __ := ofLines #[⟨⟨0⟩, .anchor⟩, ⟨⟨1⟩, .anchor⟩, ⟨⟨2⟩, .anchor⟩]
  handlers := handlers

theorem offset?_guarding {handlers : Array Handler} {i : Nat} (inside : i < 3) :
    (guarding handlers).offset? ⟨i⟩ = some i := by
  have lines : (guarding handlers).lines = [⟨⟨0⟩, .anchor⟩, ⟨⟨1⟩, .anchor⟩, ⟨⟨2⟩, .anchor⟩] :=
    lines_ofLines _
  have position : (guarding handlers).position? ⟨i⟩ = some i := by
    rw [position?_eq_some_iff_of_distinct (by rw [lines]; decide), lines]
    obtain rfl | rfl | rfl : i = 0 ∨ i = 1 ∨ i = 2 := by omega
    all_goals rfl
  rw [offset?_eq, position, lines]
  obtain rfl | rfl | rfl : i = 0 ∨ i = 1 ∨ i = 2 := by omega
  all_goals rfl

/-- The first placeholder is guarded, and the second one deals with faults. -/
def straight : Handler :=
  ⟨.fault, ⟨⟨0⟩, ⟨1⟩⟩, none, ⟨⟨1⟩, ⟨2⟩⟩, none⟩

/-- The code of the handler stops before it starts. -/
def crossed : Handler :=
  ⟨.final, ⟨⟨0⟩, ⟨1⟩⟩, none, ⟨⟨2⟩, ⟨1⟩⟩, none⟩

/-- There is a section for one handler, but none if a second one offends. -/
theorem encodeHandlers_describes_guarding :
    (∃ bytes, (guarding #[straight]).encodeHandlers = .ok bytes ∧
      (guarding #[straight]).SectionDescribes bytes) ∧
    (∃ e, (guarding #[straight, crossed]).encodeHandlers = .error e) := by
  have found : ∀ {handlers i}, i < 3 → (guarding handlers).offset? ⟨i⟩ = some i := offset?_guarding
  constructor
  · have describes : (⟨4, 0, 1, 1, 1, 0⟩ : Clause).Describes (guarding #[straight]) straight :=
      ⟨rfl, found (by decide), found (by decide), found (by decide), found (by decide),
        nofun, nofun, fun _ _ => rfl⟩
    -- the only handler has a clause, so it cannot be the reason of an error
    have sections := (encodeHandlers_describes (guarding #[straight])).2 (by simp [guarding])
    have sound := (sections.2.1 (by decide) (by decide)).1
    cases encoded : (guarding #[straight]).encodeHandlers with
    | ok bytes => exact ⟨bytes, rfl, sections.2.2 bytes encoded⟩
    | error e =>
      obtain ⟨h, mem, e', offends⟩ := sound.1 ⟨e, encoded⟩
      obtain rfl : h = straight := by simpa [guarding] using mem
      exact absurd offends (not_offends_of_describes describes)
  · have range : (⟨⟨2⟩, ⟨1⟩⟩ : Span) ∈ [crossed.guarded, crossed.handler] := by simp [crossed]
    have offends : crossed.Offends (guarding #[straight, crossed]) (.invertedRange ⟨2⟩ ⟨1⟩) :=
      .inverted range (found (by decide)) (found (by decide)) (by decide)
    have sections := (encodeHandlers_describes (guarding #[straight, crossed])).2
      (by simp [guarding])
    exact (sections.2.1 (by decide) (by decide)).1.2 ⟨crossed, by simp [guarding], _, offends⟩

end Body

end Devirt
