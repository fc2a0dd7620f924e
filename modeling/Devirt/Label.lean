/-!
# Labels

Code refers to instructions by label, not by position: a label is chosen when an instruction is
emitted and stays valid while more code is generated and while offsets are assigned. Labels are
handed out in sequence by a supply.
-/

namespace Devirt

/-- The identity of an emitted instruction. -/
structure Label where
  /-- Position of the label in the sequence in which labels are handed out. -/
  index : Nat
  deriving DecidableEq, Hashable, Repr, Inhabited

namespace Label

/-- Labels are shown as `L0`, `L1`, and so on. -/
def text (l : Label) : String :=
  "L" ++ toString l.index

end Label

/-- A source of fresh labels: everything from `next` on is unused. -/
structure LabelSupply where
  /-- The label that is handed out next. -/
  next : Label
  deriving DecidableEq, Repr, Inhabited

namespace LabelSupply

/-- A supply that hands out every label from `L0` on. -/
def full : LabelSupply := ⟨⟨0⟩⟩

/-- The supply that hands out the labels from index `n` on. -/
def startingAt (n : Nat) : LabelSupply := ⟨⟨n⟩⟩

/-- Take one label: the label, and the supply of those after it. -/
def fresh (s : LabelSupply) : Label × LabelSupply :=
  (s.next, ⟨⟨s.next.index + 1⟩⟩)

/-- The next `count` labels, in order. Looking at them does not use them up. -/
def upcoming (s : LabelSupply) (count : Nat) : List Label :=
  (List.range count).map fun i => ⟨s.next.index + i⟩

end LabelSupply

end Devirt
