import Std.Data.HashMap
import Devirt.Instruction

/-!
# Branch Relaxation

Code may be generated with short branches throughout. Once all lines are known, the short branches
whose displacement does not fit in a signed byte are replaced by their long forms. A long form is
three bytes longer, which can push other branches out of reach, so this is repeated, each time with
the offsets of the code as it is then, until no short branch is out of reach.

Branches to labels that no line carries stay as they are: they are reported when the code is
encoded.

## Why it ends

Each round replaces every short branch that is out of reach, and long forms are never short again,
so the number of short branches drops by exactly the number of branches replaced
(`countP_isShort_relaxRound`).
-/

namespace Devirt

/-- The offset of every label among some lines; of equal labels the last one counts. -/
def labelOffsets (lines : Array Line) : Std.HashMap Label Nat :=
  (lines.foldl (fun (table, offset) line => (table.insert line.label offset, offset + width line))
    ((∅ : Std.HashMap Label Nat), 0)).1

namespace Line

/-- Is the line a branch with a displacement of one byte? -/
def isShort (line : Line) : Bool :=
  line.instruction.opcode.isShortBranch

/-- The displacement of a branch whose own label and target have known offsets. -/
def displacement? (offsets : Std.HashMap Label Nat) (line : Line) : Option Int :=
  match line.instruction.operand with
  | .target target => do
    let start ← offsets[line.label]?
    let target ← offsets[target]?
    return Layout.displacement (start + width line) target
  | _ => none

/-- Does the displacement fit in a signed byte? -/
def inShortReach (displacement : Int) : Bool :=
  decide (-128 ≤ displacement) && decide (displacement ≤ 127)

/-- The long form that the line needs, if it is a short branch that is out of reach. -/
def neededForm? (offsets : Std.HashMap Label Nat) (line : Line) : Option Opcode := do
  let long ← line.instruction.opcode.longForm?
  let displacement ← line.displacement? offsets
  if inShortReach displacement then none else some long

/-- The line with the long form that it needs. -/
def relaxed (offsets : Std.HashMap Label Nat) (line : Line) : Line :=
  match line.neededForm? offsets with
  | some long => { line with instruction.opcode := long }
  | none => line

/-- Is the line a short branch that is out of reach? -/
def isOutOfReach (offsets : Std.HashMap Label Nat) (line : Line) : Bool :=
  (line.neededForm? offsets).isSome

theorem relaxed_of_not_isOutOfReach {offsets : Std.HashMap Label Nat} {line : Line}
    (h : line.isOutOfReach offsets = false) : line.relaxed offsets = line := by
  unfold isOutOfReach at h
  simp only [Option.isSome_eq_false_iff, Option.isNone_iff_eq_none] at h
  simp [relaxed, h]

theorem longForm?_of_neededForm? {offsets : Std.HashMap Label Nat} {line : Line} {long : Opcode}
    (h : line.neededForm? offsets = some long) :
    line.instruction.opcode.longForm? = some long := by
  unfold neededForm? at h
  cases form : line.instruction.opcode.longForm? with
  | none => simp [form] at h
  | some known =>
    cases d : line.displacement? offsets with
    | none => simp [form, d] at h
    | some displacement => simp_all

theorem isShort_of_isOutOfReach {offsets : Std.HashMap Label Nat} {line : Line}
    (h : line.isOutOfReach offsets = true) :
    line.isShort = true ∧ (line.relaxed offsets).isShort = false := by
  obtain ⟨long, needed⟩ := Option.isSome_iff_exists.1 h
  have form := longForm?_of_neededForm? needed
  constructor
  · rw [isShort, ← Opcode.isSome_longForm?, form]
    rfl
  · simp [relaxed, needed, isShort, Opcode.isShortBranch, Opcode.operandKind_of_longForm? form]

end Line

/-- Number of short branches that are out of reach. -/
def countOutOfReach (offsets : Std.HashMap Label Nat) (lines : Array Line) : Nat :=
  lines.countP (·.isOutOfReach offsets)

/-- Replace every short branch that is out of reach by its long form. -/
def relaxRound (offsets : Std.HashMap Label Nat) (lines : Array Line) : Array Line :=
  lines.map (·.relaxed offsets)

/-- A round of relaxation removes as many short branches as were out of reach. -/
theorem countP_isShort_relaxRound (offsets : Std.HashMap Label Nat) (lines : Array Line) :
    (relaxRound offsets lines).countP Line.isShort + countOutOfReach offsets lines =
      lines.countP Line.isShort := by
  simp only [relaxRound, countOutOfReach, ← Array.countP_toList, Array.toList_map]
  induction lines.toList with
  | nil => rfl
  | cons line lines ih =>
    simp only [List.map_cons, List.countP_cons]
    cases h : line.isOutOfReach offsets with
    | false => simp [Line.relaxed_of_not_isOutOfReach h, ← ih]; omega
    | true => simp [Line.isShort_of_isOutOfReach h, ← ih]; omega

/-- Replace short branches by their long forms, round by round, until none is out of reach. Gives
    the code and the number of branches replaced. -/
def relax (lines : Array Line) : Array Line × Nat :=
  -- a whole round works with the offsets from before the round
  let offsets := labelOffsets lines
  let count := countOutOfReach offsets lines
  if count = 0 then (lines, 0)
  else
    let (code, later) := relax (relaxRound offsets lines)
    (code, count + later)
termination_by lines.countP Line.isShort
decreasing_by
  have removed := countP_isShort_relaxRound (labelOffsets lines) lines
  have some_removed : countOutOfReach (labelOffsets lines) lines ≠ 0 := ‹_›
  omega

end Devirt
