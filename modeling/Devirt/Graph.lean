import Devirt.Expr
import Devirt.NodeSet

/-!
# Control-Flow Graphs

The recovered code of a method is a graph of nodes with a block of statements each. Nodes are
numbered in the order in which they are added, and their code is laid out in that order. Every
node has a label from the start, its anchor, so that statements of any node can branch to any other
one. Anchors are the first labels; labels for instructions continue behind them.

Exception regions are sets of nodes: those that are protected, those that handle, and for filters
those that decide.
-/

namespace Devirt

/-- A node is shown as `B0`, `B1`, and so on. -/
def nodeText (node : Nat) : String :=
  "B" ++ toString node

/-- A node of a control-flow graph. -/
structure Node where
  /-- Where the node was found in the code of the virtual machine. This orders nodes and means
      nothing else. -/
  offset : UInt64
  /-- What the node does. -/
  block : Block
  deriving Repr, Inhabited

/-- An exception region of a control-flow graph. -/
structure Region where
  /-- Number of the virtual machine for the kind of the region. -/
  tag : UInt8
  /-- The protected nodes. -/
  guarded : NodeSet
  /-- The nodes that handle exceptions. -/
  handler : NodeSet
  /-- The nodes that decide, for a filter. -/
  filter : NodeSet
  /-- The type of exceptions caught, for a typed handler. -/
  catchType : Option TypeRef

/-- Does the node belong to any part of the region? -/
def Region.contains (r : Region) (node : Nat) : Bool :=
  r.guarded.contains node || r.handler.contains node || r.filter.contains node

/-- A control-flow graph. -/
structure Graph where
  /-- The nodes in order. -/
  nodes : Array Node
  /-- The exception regions in order. -/
  regions : Array Region
  deriving Inhabited

namespace Graph

/-- The graph without nodes. -/
def empty : Graph := ⟨#[], #[]⟩

/-- Add a node that does nothing yet. Its number is the number of nodes before. -/
def addNode (g : Graph) (offset : UInt64) : Graph :=
  { g with nodes := g.nodes.push ⟨offset, []⟩ }

/-- Add an exception region. -/
def addRegion (g : Graph) (region : Region) : Graph :=
  { g with regions := g.regions.push region }

/-- Replace the block of a node. Without such a node the graph stays as it is. -/
def setBlock (g : Graph) (node : Nat) (block : Block) : Graph :=
  { g with nodes := g.nodes.modify node fun n => { n with block := block } }

/-- The label at which the code of a node starts. -/
def anchorOf (node : Nat) : Label := ⟨node⟩

/-- The label at which the code of a node starts, if the graph has the node. -/
def anchor? (g : Graph) (node : Nat) : Option Label :=
  if node < g.nodes.size then some (anchorOf node) else none

/-- The labels that are no anchors. -/
def supply (g : Graph) : LabelSupply :=
  .startingAt g.nodes.size

/-- The regions that a node belongs to, with their numbers. -/
def regionsOf (g : Graph) (node : Nat) : List (Nat × Region) :=
  g.regions.toList.zipIdx.filterMap fun (region, index) =>
    if region.contains node then some (index, region) else none

end Graph

end Devirt
