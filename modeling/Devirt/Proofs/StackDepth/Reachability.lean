import Devirt.Body.StackDepth
import Devirt.Proofs.Body.Resolution

/-!
# Reachable Places

What the analysis of the evaluation stack is about, said without the walk that computes it. A place
is a position together with a depth. Execution begins at the first line with an empty stack, or at a
handler or a filter with the values that it finds there; from a place it passes on to the targets of
the line and to the next line, with the depth that the line leaves.

Main definitions:
- `Instruction.depthBehind?`: the depth that an instruction leaves, if it finds enough values.
- `Body.IsEntry`, `Body.Passes`, `Body.Reaches`: where execution begins, how it passes on, and
  where it can get.
- `Body.SafeAt`: nothing goes wrong at a place.
- `Body.Attains`: a depth occurs before or behind a line that can be reached.
-/

namespace Devirt

/-- The depth behind an instruction that is reached with the given depth; nothing if the
    instruction takes more values than there are. -/
def Instruction.depthBehind? (i : Instruction) (returnsValue : Bool) (depth : Nat) : Option Nat :=
  ((i.stackUse returnsValue).takes.remaining? depth).map (· + (i.stackUse returnsValue).leaves)

namespace Body

/-! ## §1 Where execution can get -/

/-- Execution can begin at a place on behalf of a handler. -/
inductive Opens (b : Body) (h : Handler) : Place → Prop where
  /-- The handler itself, with the exception if its kind deals with one. -/
  | handler {position : Nat} : b.position? h.handler.start = some position →
      Opens b h ⟨position, h.kind.entryDepth⟩
  /-- The filter, with the exception. -/
  | filter {start : Label} {position : Nat} : h.filterStart = some start →
      b.position? start = some position → Opens b h ⟨position, 1⟩

/-- Execution of a body can begin at a place. -/
inductive IsEntry (b : Body) : Place → Prop where
  /-- The first line, with an empty stack. -/
  | first : 0 < b.length → IsEntry b ⟨0, 0⟩
  /-- What a handler opens. -/
  | handler {h : Handler} {place : Place} : h ∈ b.handlers → b.Opens h place → IsEntry b place

/-- Control can pass from one place to another. -/
inductive Passes (b : Body) (returnsValue : Bool) : Place → Place → Prop where
  /-- To a target of the line. -/
  | target {place : Place} {line : Line} {depth : Nat} {label : Label} {position : Nat} :
      b.lines[place.position]? = some line →
      line.instruction.depthBehind? returnsValue place.depth = some depth →
      label ∈ line.instruction.operand.targets → b.position? label = some position →
      Passes b returnsValue place ⟨position, depth⟩
  /-- To the next line. -/
  | next {place : Place} {line : Line} {depth : Nat} :
      b.lines[place.position]? = some line →
      line.instruction.depthBehind? returnsValue place.depth = some depth →
      line.instruction.opcode.fallsThrough = true → place.position + 1 < b.length →
      Passes b returnsValue place ⟨place.position + 1, depth⟩

/-- Execution can get to a place. -/
inductive Reaches (b : Body) (returnsValue : Bool) : Place → Prop where
  /-- It begins there. -/
  | entry {place : Place} : b.IsEntry place → Reaches b returnsValue place
  /-- It passes on to there. -/
  | step {place next : Place} : Reaches b returnsValue place → b.Passes returnsValue place next →
      Reaches b returnsValue next

/-! ## §2 What is asked of places -/

/-- The line at a place finds the values that it takes, leaves nothing if it is a return, and has
    no targets outside the body. -/
def SafeAt (b : Body) (returnsValue : Bool) (place : Place) : Prop :=
  ∃ line rest, b.lines[place.position]? = some line ∧
    (line.instruction.stackUse returnsValue).takes.remaining? place.depth = some rest ∧
    (line.instruction.isReturn = true → rest = 0) ∧
    ∀ label ∈ line.instruction.operand.targets, (b.position? label).isSome

/-- A depth is found before or behind a line that can be reached. -/
def Attains (b : Body) (returnsValue : Bool) (depth : Nat) : Prop :=
  ∃ place line, b.Reaches returnsValue place ∧ b.lines[place.position]? = some line ∧
    (depth = place.depth ∨ line.instruction.depthBehind? returnsValue place.depth = some depth)

/-! ## §3 Places are inside -/

variable {b : Body} {returnsValue : Bool}

theorem IsEntry.position_lt {place : Place} (h : b.IsEntry place) : place.position < b.length := by
  cases h with
  | first nonempty => exact nonempty
  | handler _ opens =>
    cases opens with
    | handler found => exact lt_length_of_position? found
    | filter _ found => exact lt_length_of_position? found

theorem Passes.position_lt {place next : Place} (h : b.Passes returnsValue place next) :
    next.position < b.length := by
  cases h with
  | target _ _ _ found => exact lt_length_of_position? found
  | next _ _ _ inside => exact inside

theorem Reaches.position_lt {place : Place} (h : b.Reaches returnsValue place) :
    place.position < b.length := by
  cases h with
  | entry begins => exact begins.position_lt
  | step _ passes => exact passes.position_lt

/-- The line at a position inside the body. -/
theorem getElem?_lines_lineAt {position : Nat} (inside : position < b.length) :
    b.lines[position]? = some (b.lineAt position inside) := by
  -- the lines are the second parts of the entries, in the same order
  have entry : b.layout.entries.toList[position]? = some b.layout.entries[position] := by
    rw [Array.getElem?_toList]
    exact Array.getElem?_eq_getElem inside
  rw [lines, Layout.elements, List.getElem?_map, entry]
  rfl

/-- A depth at which execution gets to a line is attained. -/
theorem Reaches.attains {place : Place} (h : b.Reaches returnsValue place) :
    b.Attains returnsValue place.depth :=
  ⟨place, _, h, getElem?_lines_lineAt h.position_lt, .inl rfl⟩

end Body

end Devirt
