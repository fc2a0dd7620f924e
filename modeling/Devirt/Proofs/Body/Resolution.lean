import Devirt.Body.Basic
import Devirt.Proofs.Layout.Offsets
import Mathlib.Data.List.Induction

/-!
# Resolution of Labels

A body resolves a label to the last line that carries it. From the position of that line follow its
offset, which is the total width of the lines before it, and the line behind it, which is the one at
the next position. If no two lines carry the same label, every line is the one that its label
resolves to.

Main statements:
- `Body.position?_eq_some_iff`: labels resolve to their last line.
- `Body.offset?_eq`, `Body.following?_eq`: what follows from the position.
- `Body.position?_eq_some_iff_of_distinct`: with distinct labels every line is found.
-/

namespace Devirt

/-! ## §1 The table of positions -/

/-- The last line with the label is at the given position. -/
def IsLastAt (lines : List Line) (label : Label) (position : Nat) : Prop :=
  lines[position]?.map Line.label = some label ∧
    ∀ later, position < later → lines[later]?.map Line.label ≠ some label

theorem positionsOf_append_singleton (lines : List Line) (line : Line) :
    positionsOf (lines ++ [line]) = (positionsOf lines).insert line.label lines.length := by
  simp [positionsOf, List.zipIdx_append]

theorem label_append_singleton (lines : List Line) (line : Line) (i : Nat) :
    (lines ++ [line])[i]?.map Line.label =
      if i = lines.length then some line.label else lines[i]?.map Line.label := by
  split
  next atEnd => simp [atEnd]
  next notEnd =>
    rcases Nat.lt_or_gt_of_ne notEnd with before | beyond
    · rw [List.getElem?_append_left before]
    · rw [List.getElem?_eq_none (Nat.le_of_lt beyond), List.getElem?_eq_none (by simp; omega)]

theorem IsLastAt.lt_length {lines : List Line} {label : Label} {i : Nat}
    (h : IsLastAt lines label i) : i < lines.length := by
  obtain ⟨line, there, _⟩ := Option.map_eq_some_iff.1 h.1
  exact (List.getElem?_eq_some_iff.1 there).1

/-- A line at the end hides the earlier lines with its label, and no other lines. -/
theorem isLastAt_append_singleton {lines : List Line} {line : Line} {label : Label} {i : Nat} :
    IsLastAt (lines ++ [line]) label i ↔
      if line.label = label then i = lines.length else IsLastAt lines label i := by
  split
  next same =>
    constructor
    · intro h
      have inside := h.lt_length
      rw [List.length_append, List.length_singleton] at inside
      -- an earlier line would be hidden by the new one
      have notBefore := mt (h.2 lines.length) (by simp [same])
      omega
    · rintro rfl
      refine ⟨by simp [same], fun j later => ?_⟩
      rw [List.getElem?_eq_none (by simp; omega)]
      simp
  next different =>
    unfold IsLastAt
    simp only [label_append_singleton]
    constructor
    · rintro ⟨here, last⟩
      have notEnd : i ≠ lines.length := by
        rintro rfl
        simp [different] at here
      refine ⟨by rwa [if_neg notEnd] at here, fun j later => ?_⟩
      by_cases atEnd : j = lines.length
      · simp [atEnd]
      · simpa [atEnd] using last j later
    · intro h
      have inside := IsLastAt.lt_length h
      refine ⟨by rw [if_neg (Nat.ne_of_lt inside), h.1], fun j later => ?_⟩
      by_cases atEnd : j = lines.length
      · simp [atEnd, different]
      · rw [if_neg atEnd]
        exact h.2 j later

/-- The table of positions holds the last position of every label. -/
theorem positionsOf_eq_some_iff {lines : List Line} {label : Label} {i : Nat} :
    (positionsOf lines)[label]? = some i ↔ IsLastAt lines label i := by
  -- later lines replace earlier ones in the table, so the last line comes off first
  induction lines using List.reverseRecOn with
  | nil => simp [positionsOf, IsLastAt]
  | append_singleton lines line ih =>
    rw [positionsOf_append_singleton, isLastAt_append_singleton, Std.HashMap.getElem?_insert]
    by_cases same : line.label = label
    · simp [same, eq_comm]
    · simp [same, ih]

/-- A label without a position is carried by no line. -/
theorem positionsOf_eq_none_iff {lines : List Line} {label : Label} :
    (positionsOf lines)[label]? = none ↔ label ∉ lines.map Line.label := by
  -- no line is removed from the table, so the last line comes off here too
  induction lines using List.reverseRecOn with
  | nil => simp [positionsOf]
  | append_singleton lines line ih =>
    rw [positionsOf_append_singleton, Std.HashMap.getElem?_insert]
    by_cases same : line.label = label
    · simp [same]
    · simp [same, ih, Ne.symm same]

/-- No two lines carry the same label. -/
def DistinctLabels (lines : List Line) : Prop :=
  (lines.map Line.label).Nodup

instance (lines : List Line) : Decidable (DistinctLabels lines) :=
  inferInstanceAs (Decidable (List.Nodup _))

theorem DistinctLabels.isLastAt_iff {lines : List Line} (distinct : DistinctLabels lines)
    {label : Label} {i : Nat} :
    IsLastAt lines label i ↔ lines[i]?.map Line.label = some label := by
  refine ⟨And.left, fun here => ⟨here, fun j later there => ?_⟩⟩
  -- two positions with the label would be one
  rw [← List.getElem?_map] at here there
  have inside := (List.getElem?_eq_some_iff.1 here).1
  exact Nat.ne_of_lt later ((List.getElem?_inj inside distinct).1 (here.trans there.symm))

namespace Body

/-! ## §2 Lines by position -/

@[simp] theorem lines_ofLines (lines : Array Line) : (ofLines lines).lines = lines.toList :=
  Layout.elements_ofArray lines

theorem length_lines (b : Body) : b.lines.length = b.length :=
  b.layout.length_elements

theorem codeSize_eq (b : Body) : b.codeSize = totalWidth b.lines :=
  b.layout.size_eq_totalWidth

/-! ## §3 Labels -/

/-- A label resolves to the last line that carries it. -/
theorem position?_eq_some_iff {b : Body} {label : Label} {i : Nat} :
    b.position? label = some i ↔ IsLastAt b.lines label i := by
  rw [position?, b.positions_eq]
  exact positionsOf_eq_some_iff

/-- What labels resolve to depends on the lines alone. -/
theorem position?_congr {b b' : Body} (same : b.lines = b'.lines) : b.position? = b'.position? := by
  funext label
  rw [position?, position?, b.positions_eq, b'.positions_eq]
  exact congrArg (fun lines => (positionsOf lines)[label]?) same

/-- Bodies whose lines carry the same labels resolve them to the same positions. -/
theorem position?_congr_labels {b b' : Body}
    (same : b.lines.map Line.label = b'.lines.map Line.label) : b.position? = b'.position? := by
  funext label
  ext i
  -- being the last line with a label is a matter of labels
  simp only [position?_eq_some_iff, IsLastAt, ← List.getElem?_map, same]

theorem position?_eq_none_iff {b : Body} {label : Label} :
    b.position? label = none ↔ label ∉ b.lines.map Line.label := by
  rw [position?, b.positions_eq]
  exact positionsOf_eq_none_iff

/-- With distinct labels every line is the one that its label resolves to. -/
theorem position?_eq_some_iff_of_distinct {b : Body} (distinct : DistinctLabels b.lines)
    {label : Label} {i : Nat} :
    b.position? label = some i ↔ b.lines[i]?.map Line.label = some label := by
  rw [position?_eq_some_iff, distinct.isLastAt_iff]

/-- The line that a label resolves to carries the label. -/
theorem getElem?_lines_of_position? {b : Body} {label : Label} {i : Nat}
    (h : b.position? label = some i) : ∃ line, b.lines[i]? = some line ∧ line.label = label :=
  Option.map_eq_some_iff.1 (position?_eq_some_iff.1 h).1

theorem lt_length_of_position? {b : Body} {label : Label} {i : Nat}
    (h : b.position? label = some i) : i < b.length := by
  obtain ⟨line, found, _⟩ := getElem?_lines_of_position? h
  rw [← b.length_lines]
  exact (List.getElem?_eq_some_iff.1 found).1

theorem line?_eq (b : Body) (label : Label) :
    b.line? label = (b.position? label).bind fun i =>
      b.lines[i]?.map fun line => (totalWidth (b.lines.take i), line) := by
  have at? : ∀ i, b.layout.at? i = b.lines[i]?.map _ := b.layout.at?_eq
  unfold line?
  cases b.position? label with
  | none => rfl
  | some i => exact at? i

/-- The offset of a line is the total width of the lines before it. -/
theorem offset?_eq (b : Body) (label : Label) :
    b.offset? label = (b.position? label).map fun i => totalWidth (b.lines.take i) := by
  rw [offset?, line?_eq]
  cases position : b.position? label with
  | none => rfl
  | some i =>
    obtain ⟨line, found, _⟩ := getElem?_lines_of_position? position
    simp [found]

/-- The line that starts where another one ends is the line at the next position. -/
theorem following?_eq (b : Body) (label : Label) :
    b.following? label = (b.position? label).bind fun i => b.lines[i + 1]?.map Line.label := by
  rw [following?, line?_eq]
  cases position : b.position? label with
  | none => rfl
  | some i =>
    obtain ⟨line, found, _⟩ := getElem?_lines_of_position? position
    have stop := totalWidth_take_succ found
    -- the line ends where the next position starts, and an offset belongs to one position
    have behind : (b.layout.find (totalWidth (b.lines.take (i + 1)))).element? =
        b.lines[i + 1]? := by
      ext next
      rw [Layout.element?_find_eq_some_iff]
      constructor
      · rintro ⟨j, there, same⟩
        have insideJ := (List.getElem?_eq_some_iff.1 there).1
        have insideI := (List.getElem?_eq_some_iff.1 found).1
        obtain rfl := totalWidth_take_inj (Nat.le_of_lt insideJ) insideI same
        exact there
      · intro next
        exact ⟨i + 1, next, rfl⟩
    simp only [found, Option.bind_some, Option.map_some, bind, ← stop, behind]
    cases b.lines[i + 1]? <;> rfl

/-- Which line follows another one depends on the labels alone. -/
theorem following?_congr_labels {b b' : Body}
    (same : b.lines.map Line.label = b'.lines.map Line.label) : b.following? = b'.following? := by
  funext label
  simp only [following?_eq, position?_congr_labels same, ← List.getElem?_map, same]

end Body

end Devirt
