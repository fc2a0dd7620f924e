import Devirt.Proofs.Body.Resolution
import Devirt.Proofs.Layout.Lookups

/-!
# Succession of Lines

The line that follows another one is looked up by the offset at which the other one ends. This gives
the line at the next position, whatever the widths are: as every instruction has an opcode, no two
lines start at the same offset, not even those whose operands do not fit their opcodes. Labels may
repeat; the line that is followed is the last one with the label.

Main statement: `Body.following_ofLines`.
-/

namespace Devirt.Body

/-- Nothing follows a line exactly if no line carries its label, or the last one does. -/
theorem following?_eq_none_iff {b : Body} {label : Label} :
    b.following? label = none ↔
      b.position? label = none ∨ ∃ i, b.position? label = some i ∧ i + 1 = b.length := by
  rw [following?_eq]
  cases position : b.position? label with
  | none => simp
  | some i =>
    -- a known label has a position, behind which there is a line unless it is the last one
    have inside := lt_length_of_position? position
    rw [← b.length_lines] at inside ⊢
    simp
    omega

/-- A body made of some lines finds the last line with a label, at the total width of the lines
    before it; the line that follows is the one at the next position, and there is none exactly if
    the label is unknown or its position is the last. Lines at different positions start at
    different offsets. -/
theorem following_ofLines (lines : Array Line) :
    (∀ (label : Label) (i : Nat),
      (ofLines lines).position? label = some i ↔ IsLastAt lines.toList label i) ∧
    (∀ label : Label,
      (ofLines lines).position? label = none ↔ label ∉ lines.toList.map Line.label) ∧
    (∀ label : Label, (ofLines lines).offset? label =
      ((ofLines lines).position? label).map fun i => totalWidth (lines.toList.take i)) ∧
    (∀ label : Label, (ofLines lines).following? label =
      ((ofLines lines).position? label).bind fun i => lines[i + 1]?.map Line.label) ∧
    (∀ label : Label, (ofLines lines).following? label = none ↔
      label ∉ lines.toList.map Line.label ∨
        ∃ i, (ofLines lines).position? label = some i ∧ i + 1 = lines.size) ∧
    (∀ (i j offset : Nat) (line other : Line),
      (ofLines lines).layout.at? i = some (offset, line) →
      (ofLines lines).layout.at? j = some (offset, other) → i = j) := by
  have placed : (ofLines lines).lines = lines.toList := lines_ofLines lines
  have size : (ofLines lines).length = lines.size := by
    rw [← length_lines, placed, Array.length_toList]
  refine ⟨fun label i => ?_, fun label => ?_, fun label => ?_, fun label => ?_, fun label => ?_,
    fun i j offset line other => Layout.position_inj⟩
  · rw [position?_eq_some_iff, placed]
  · rw [position?_eq_none_iff, placed]
  · simp only [offset?_eq, placed]
  · simp only [following?_eq, placed, Array.getElem?_toList]
  · rw [following?_eq_none_iff, position?_eq_none_iff, placed, size]

end Devirt.Body
