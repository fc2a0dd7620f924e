import Devirt.Body.Basic
import Devirt.Lowering.Config
import Devirt.Lowering.Listing

/-!
# Handlers of Regions

Exception regions are sets of nodes, while handlers need ranges of lines. A range starts at the
anchor of the first node and ends with the line that follows the last line of the last node. First
and last are meant in the order of the offsets that the nodes had in the code of the virtual
machine; unless told otherwise, a region is refused if that is not the order of the layout, or if
there are gaps between its nodes.
-/

namespace Devirt

/-- A node that is known by its offset. -/
structure Landmark where
  /-- Offset in the code of the virtual machine. -/
  offset : UInt64
  node : Nat
  deriving DecidableEq, Repr

namespace Landmark

/-- The one with the smaller offset; of equal offsets, the first. -/
def earlier (a b : Landmark) : Landmark :=
  if b.offset < a.offset then b else a

/-- The one with the larger offset; of equal offsets, the second. -/
def later (a b : Landmark) : Landmark :=
  if b.offset < a.offset then a else b

end Landmark

/-- What resolving the regions of a graph refers to. -/
structure RegionContext where
  graph : Graph
  /-- Where the code of each node is. -/
  stretches : Array Stretch
  body : Body
  config : Config

namespace RegionContext

/-- The nodes of a set with their offsets, in the order of their numbers. -/
def landmarks (c : RegionContext) (nodes : NodeSet) : Except LowerError (List Landmark) :=
  nodes.members.mapM fun node =>
    match c.graph.nodes[node]? with
    | some n => .ok ⟨n.offset, node⟩
    | none => .error (.unknownNode node)

/-- The distance from one node to a later one. -/
def distance? (first last : Nat) : Option Nat :=
  if first ≤ last then some (last - first) else none

/-- Are the nodes from the first to the last exactly those of the set? There is no answer if a
    distance is asked for that does not exist. -/
def isContiguous? (nodes : NodeSet) (first last : Nat) : Option Bool :=
  -- the distance is looked at only if the ends are right
  if nodes.members.head? == some first && nodes.members.getLast? == some last then
    (distance? first last).map fun distance => distance + 1 == nodes.size
  else
    some false

/-- The nodes of a set with the smallest and the largest offset. Equal offsets are told apart by
    the numbers of the nodes. -/
def boundaries (c : RegionContext) (region : Nat) (part : RegionPart) (nodes : NodeSet) :
    Except LowerError (Nat × Nat) := do
  match ← c.landmarks nodes with
  | [] => throw (.emptyRegion region part)
  | landmark :: landmarks =>
    let first := (landmarks.foldl Landmark.earlier landmark).node
    let last := (landmarks.foldl Landmark.later landmark).node
    -- the ends by offset have to be the ends by number as well
    if c.config.checkContiguity && isContiguous? nodes first last != some true then
      throw (.scatteredRegion region part)
    return (first, last)

/-- Where the code of a node is. -/
def stretch (c : RegionContext) (node : Nat) : Except LowerError Stretch :=
  match c.stretches[node]? with
  | some s => .ok s
  | none => .error (.unknownNode node)

/-- The lines of a set of nodes. -/
def span (c : RegionContext) (region : Nat) (part : RegionPart) (nodes : NodeSet) :
    Except LowerError Span := do
  let (first, last) ← c.boundaries region part nodes
  let start := (← c.stretch first).first
  match c.body.following? (← c.stretch last).last with
  | some stop => return ⟨start, stop⟩
  | none => throw (.openRegion region part last)

/-- The first line of the nodes that decide. -/
def filterStart (c : RegionContext) (region : Nat) (nodes : NodeSet) :
    Except LowerError Label := do
  if nodes.members.isEmpty then
    throw (.missingFilter region)
  let (first, _) ← c.boundaries region .filter nodes
  return (← c.stretch first).first

/-- The handler of a region. -/
def handler (c : RegionContext) (index : Nat) (r : Region) : Except LowerError Handler := do
  let some kind := c.config.machine.kindOf r.tag
    | throw (.unsupportedRegion index r.tag)
  let guarded ← c.span index .guarded r.guarded
  let handler ← c.span index .handler r.handler
  let filterStart ←
    if kind = .filter then some <$> c.filterStart index r.filter else pure none
  return {
    kind := kind
    guarded := guarded
    filterStart := filterStart
    handler := handler
    catchType := if kind = .typed then r.catchType else none }

/-- The handlers of all regions, in the order of the regions. -/
def handlers (c : RegionContext) : Except LowerError (Array Handler) :=
  c.graph.regions.foldlM (fun handlers r => return handlers.push (← c.handler handlers.size r)) #[]

end RegionContext

end Devirt
