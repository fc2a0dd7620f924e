import Std.Data.HashMap
import Devirt.Handler
import Devirt.Instruction

/-!
# Method Bodies

A method body is laid out code with the handlers that protect it. Code and handlers refer to lines
by label; the body resolves labels to positions and offsets. If several lines carry the same
label, the last one is meant.

The table of positions is a function of the lines: `positions_eq` keeps the two together.
-/

namespace Devirt

/-- The position of every label among some lines; of equal labels the last one counts. -/
def positionsOf (lines : List Line) : Std.HashMap Label Nat :=
  lines.zipIdx.foldl (fun table (line, position) => table.insert line.label position) ∅

/-- A method body. -/
structure Body where
  /-- The lines of code at their offsets. -/
  layout : Layout Line
  /-- The position of every label. -/
  positions : Std.HashMap Label Nat
  /-- The handlers, in the order in which they apply. -/
  handlers : Array Handler
  /-- Declared bound of the evaluation stack, zero until it is computed. -/
  maxStack : UInt16
  /-- The positions are those of the lines. -/
  positions_eq : positions = positionsOf layout.elements

namespace Body

/-- Lay out lines of code in order. There are no handlers yet. -/
def ofLines (lines : Array Line) : Body :=
  let layout := Layout.ofArray lines
  ⟨layout, positionsOf layout.elements, #[], 0, rfl⟩

instance : Inhabited Body := ⟨ofLines #[]⟩

/-- The lines of code, in order. -/
def lines (b : Body) : List Line := b.layout.elements

/-- Number of lines. -/
def length (b : Body) : Nat := b.layout.length

/-- Number of bytes of the encoded code. -/
def codeSize (b : Body) : Nat := b.layout.size

/-- The position of a line. -/
def position? (b : Body) (label : Label) : Option Nat := b.positions[label]?

/-- A line and its offset. -/
def line? (b : Body) (label : Label) : Option (Nat × Line) :=
  b.position? label >>= b.layout.at?

/-- The offset of a line. -/
def offset? (b : Body) (label : Label) : Option Nat :=
  (b.line? label).map Prod.fst

/-- The line that starts where the given one ends. There is none if the given line is unknown or
    is the last one. -/
def following? (b : Body) (label : Label) : Option Label := do
  let (offset, line) ← b.line? label
  let next ← (b.layout.find (offset + width line)).element?
  return next.label

/-- The text of a body. -/
def text (b : Body) : String :=
  "MethodBody \x7b max_stack: " ++ toString b.maxStack.toNat ++ ", instructions: " ++
    b.layout.text Line.text ++ ", exception_handlers: [" ++
    ", ".intercalate (b.handlers.toList.map Handler.text) ++ "] \x7d"

end Body

end Devirt
