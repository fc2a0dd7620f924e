import Devirt.Lowering.Code

/-!
# Listings

A listing is the code of all nodes of a graph, laid out in the order of the nodes, along with the
stretch of lines that each node takes up. No node is left out, even if nothing leads to it.
-/

namespace Devirt

/-- Where the code of a node is in a listing. -/
structure Stretch where
  node : Nat
  /-- The first line: the anchor of the node. -/
  first : Label
  /-- The last line. -/
  last : Label
  /-- Position of the first line. -/
  start : Nat
  /-- Position behind the last line. -/
  stop : Nat
  deriving DecidableEq, Repr, Inhabited

/-- The text of a stretch. -/
def Stretch.text (s : Stretch) : String :=
  "NodeCode \x7b node: " ++ nodeText s.node ++ ", first: " ++ s.first.text ++ ", last: " ++
    s.last.text ++ ", range: " ++ toString s.start ++ ".." ++ toString s.stop ++ " \x7d"

/-- The code of the nodes of a graph. -/
structure Listing where
  lines : Array Line
  /-- The stretches of the nodes, in the order of the nodes. -/
  stretches : Array Stretch
  deriving Inhabited

namespace Listing

/-- The listing of no nodes. -/
def empty : Listing := ⟨#[], #[]⟩

/-- Append the code of the next node, which starts at its anchor. -/
def append (l : Listing) (anchor : Label) (code : Array Line) : Listing :=
  let start := l.lines.size
  let last := (code.back?.map (·.label)).getD anchor
  let lines := l.lines ++ code
  ⟨lines, l.stretches.push ⟨l.stretches.size, anchor, last, start, lines.size⟩⟩

end Listing

namespace LowerContext

variable {σ : Type}

/-- Lower a node, and append its code to a listing of the nodes before. -/
def appendNode (c : LowerContext σ) (l : Listing) (node : Node) : Emit σ Listing := do
  let anchor := Graph.anchorOf l.stretches.size
  let code ← c.block anchor node.block
  return l.append anchor code

/-- Lower the nodes of a graph. -/
def listing (c : LowerContext σ) (g : Graph) : Emit σ Listing :=
  g.nodes.foldlM c.appendNode .empty

end LowerContext

end Devirt
