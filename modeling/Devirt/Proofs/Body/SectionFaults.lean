import Devirt.Proofs.Body.SectionClauses

/-!
# Faults of Exception Sections

If the labels of handlers resolve, and every range starts before it stops, then the only faults of
an exception section are those of size: the code is too long for its offsets, or there are too many
handlers. The lengths of ranges are never zero, since offsets increase strictly with positions.

Main statements:
- `Body.lengthField_eq_ok`: lengths are positive and fit in their fields.
- `Body.encodeHandlers_eq_error`: the faults of a section.
-/

namespace Devirt.Body

variable {b : Body}

/-! ## §1 Ranges -/

/-- The labels of the range resolve, and the first one comes before the second one. -/
def Delimits (b : Body) (span : Span) : Prop :=
  ∃ start stop, b.position? span.start = some start ∧ b.position? span.stop = some stop ∧
    start < stop

/-- The offsets of a range are in the order of the positions. -/
theorem Delimits.offsets {span : Span} (h : b.Delimits span) : ∃ start stop,
    b.offset? span.start = some start ∧ b.offset? span.stop = some stop ∧ start < stop := by
  obtain ⟨start, stop, first, last, lt⟩ := h
  have inside : start < b.lines.length := by
    rw [b.length_lines]
    exact Nat.lt_trans lt (lt_length_of_position? last)
  exact ⟨_, _, by rw [offset?_eq, first]; rfl, by rw [offset?_eq, last]; rfl,
    totalWidth_take_lt lt inside⟩

/-- The length of a range that starts before it stops is positive and fits in its field. -/
theorem lengthField_eq_ok {span : Span} {n : Nat} (delimits : b.Delimits span)
    (h : b.lengthField span = .ok n) : 0 < n ∧ n < 0x100000000 := by
  -- the offsets of the field are those that the labels resolve to
  obtain ⟨start, stop, first, last, lt⟩ := delimits.offsets
  obtain ⟨start', first', last', small⟩ := offset?_of_lengthField h
  obtain rfl := Option.some.inj (first.symm.trans first')
  obtain rfl := Option.some.inj (last.symm.trans last')
  omega

/-! ## §2 Handlers -/

/-- Both ranges of the handler start before they stop, and its filter starts at a line. -/
structure Resolves (b : Body) (h : Handler) : Prop where
  guarded : b.Delimits h.guarded
  handler : b.Delimits h.handler
  filter : ∀ start, h.filterStart = some start → ∃ i, b.position? start = some i

/-- A handler whose labels resolve in order does not offend. -/
theorem Resolves.not_offends {h : Handler} (resolves : b.Resolves h) {e : BodyError} :
    ¬h.Offends b e := by
  -- a label cannot be unknown, since all of them resolve, and no range is upside down
  rintro (⟨mem, absent⟩ | ⟨mem, start, stop, before⟩)
  case unknown label =>
    have found : ∃ i, b.position? label = some i := by
      obtain ⟨start, stop, first, last, _⟩ := resolves.guarded
      obtain ⟨start', stop', first', last', _⟩ := resolves.handler
      rcases List.mem_append.1 mem with mem | mem
      · simp only [List.mem_cons, List.not_mem_nil, or_false] at mem
        rcases mem with rfl | rfl | rfl | rfl
        · exact ⟨start, first⟩
        · exact ⟨stop, last⟩
        · exact ⟨start', first'⟩
        · exact ⟨stop', last'⟩
      · split at mem
        next => exact resolves.filter label (Option.mem_toList.1 mem)
        next => cases mem
    obtain ⟨i, found⟩ := found
    cases absent.symm.trans found
  case inverted span lower upper =>
    have delimits : b.Delimits span := by
      simp only [List.mem_cons, List.not_mem_nil, or_false] at mem
      rcases mem with rfl | rfl
      · exact resolves.guarded
      · exact resolves.handler
    obtain ⟨lower', upper', start', stop', lt⟩ := delimits.offsets
    obtain rfl := Option.some.inj (start.symm.trans start')
    obtain rfl := Option.some.inj (stop.symm.trans stop')
    omega

/-- If all handlers resolve, a section has only faults of size. -/
theorem encodeHandlers_eq_error {e : BodyError} (resolves : ∀ h ∈ b.handlers, b.Resolves h)
    (failed : b.encodeHandlers = .error e) :
    (∃ size, e = .codeTooLong size) ∨ e = .tooManyHandlers b.handlers.size := by
  have present : b.handlers ≠ #[] := by
    intro empty
    rw [encodeHandlers, if_pos (by simp [empty])] at failed
    cases failed
  by_cases few : exceptionSectionSize b.handlers.size < 0x1000000
  -- the first handler that cannot be written does not offend, so the code is too long for it
  · obtain ⟨before, h, after, handlers, fault, _⟩ :=
      exists_of_encodeHandlers_eq_error present few failed
    have mem : h ∈ b.handlers := by simp [← Array.mem_toList_iff, handlers]
    refine .inl (((offends_of_encodeHandler fault).resolve_left ?_).2)
    exact (resolves h mem).not_offends
  · rw [encodeHandlers, if_neg (by simpa using present), if_neg few] at failed
    exact .inr (Except.error.inj failed).symm

end Devirt.Body
