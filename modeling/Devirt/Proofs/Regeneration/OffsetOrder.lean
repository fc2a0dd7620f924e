import Devirt.Proofs.Regeneration.Handlers

/-!
# Offsets are an Order

The offset that a node had in the code of the virtual machine has no meaning but to order the nodes.
Only the boundaries of regions are found by offset, and a boundary is a node: so any other offsets
in the same order, with the same ones equal, lead to the same outcome.

The order is asked for on the offsets that occur in the graph. There are only finitely many words,
so a function that kept the order of all of them would change none.

Main statements:
- `RegionContext.boundaries_mapOffsets`: the boundaries of a set stay the same.
- `Config.regenerate_mapOffsets`: so does the outcome of a regeneration.
-/

namespace Devirt

/-! ## §1 Other offsets -/

/-- The node found at another offset. -/
def Node.mapOffset (f : UInt64 → UInt64) (n : Node) : Node :=
  { n with offset := f n.offset }

/-- The graph with other offsets. -/
def Graph.mapOffsets (f : UInt64 → UInt64) (g : Graph) : Graph :=
  { g with nodes := g.nodes.map (Node.mapOffset f) }

/-- The routine with other offsets. -/
def Routine.mapOffsets (f : UInt64 → UInt64) (r : Routine) : Routine :=
  { r with graph := r.graph.mapOffsets f }

/-- The function increases strictly on the offsets that occur in the graph. -/
def Graph.OrdersOffsets (g : Graph) (f : UInt64 → UInt64) : Prop :=
  ∀ m ∈ g.nodes, ∀ n ∈ g.nodes, m.offset < n.offset → f m.offset < f n.offset

/-- The landmark with another offset. -/
def Landmark.mapOffset (f : UInt64 → UInt64) (l : Landmark) : Landmark :=
  { l with offset := f l.offset }

/-- The same context for a graph with other offsets. -/
def RegionContext.mapOffsets (f : UInt64 → UInt64) (c : RegionContext) : RegionContext :=
  { c with graph := c.graph.mapOffsets f }

variable {f : UInt64 → UInt64}

/-! ## §2 Landmarks -/

namespace Landmark

/-- The landmark has the offset of a node. -/
def OffsetIn (g : Graph) (l : Landmark) : Prop :=
  ∃ n ∈ g.nodes, n.offset = l.offset

variable {g : Graph} {a b : Landmark}

/-- Offsets of nodes compare as before. -/
theorem lt_mapOffset_iff (orders : g.OrdersOffsets f) (ha : a.OffsetIn g) (hb : b.OffsetIn g) :
    (a.mapOffset f).offset < (b.mapOffset f).offset ↔ a.offset < b.offset := by
  obtain ⟨m, inGraph, hm⟩ := ha
  obtain ⟨n, inGraph', hn⟩ := hb
  have forth := orders m inGraph n inGraph'
  have back := orders n inGraph' m inGraph
  rw [hm, hn] at forth back
  refine ⟨fun below => ?_, forth⟩
  -- offsets that are not in this order are equal or in the opposite one
  by_contra notBelow
  rcases UInt64.lt_or_eq_of_le (UInt64.not_lt.1 notBelow) with above | same
  · exact UInt64.lt_asymm below (back above)
  · rw [mapOffset, mapOffset, same] at below
    exact UInt64.lt_irrefl _ below

theorem earlier_mapOffset (orders : g.OrdersOffsets f) (ha : a.OffsetIn g) (hb : b.OffsetIn g) :
    (a.mapOffset f).earlier (b.mapOffset f) = (a.earlier b).mapOffset f := by
  -- which of two landmarks is the earlier one is decided by a comparison of offsets
  simp only [earlier, lt_mapOffset_iff orders hb ha]
  split <;> rfl

theorem later_mapOffset (orders : g.OrdersOffsets f) (ha : a.OffsetIn g) (hb : b.OffsetIn g) :
    (a.mapOffset f).later (b.mapOffset f) = (a.later b).mapOffset f := by
  simp only [later, lt_mapOffset_iff orders hb ha]
  split <;> rfl

theorem OffsetIn.earlier (ha : a.OffsetIn g) (hb : b.OffsetIn g) : (a.earlier b).OffsetIn g := by
  unfold Landmark.earlier
  split <;> assumption

theorem OffsetIn.later (ha : a.OffsetIn g) (hb : b.OffsetIn g) : (a.later b).OffsetIn g := by
  unfold Landmark.later
  split <;> assumption

/-- A selection among landmarks selects the same ones with other offsets, if it does so of any
    two. -/
theorem foldl_mapOffset {pick : Landmark → Landmark → Landmark} {P : Landmark → Prop}
    (closed : ∀ a b, P a → P b → P (pick a b))
    (commutes : ∀ a b, P a → P b → pick (a.mapOffset f) (b.mapOffset f) = (pick a b).mapOffset f)
    {landmark : Landmark} {landmarks : List Landmark} (first : P landmark)
    (others : ∀ l ∈ landmarks, P l) :
    (landmarks.map (mapOffset f)).foldl pick (landmark.mapOffset f) =
      (landmarks.foldl pick landmark).mapOffset f := by
  -- the landmark selected so far changes along the list
  induction landmarks generalizing landmark with
  | nil => rfl
  | cons next rest ih =>
    obtain ⟨here, others⟩ := List.forall_mem_cons.1 others
    rw [List.map_cons, List.foldl_cons, List.foldl_cons, commutes landmark next first here]
    exact ih (closed landmark next first here) others

end Landmark

/-! ## §3 Regions -/

namespace RegionContext

variable {c : RegionContext}

theorem landmarks_mapOffsets (nodes : NodeSet) :
    (c.mapOffsets f).landmarks nodes =
      (c.landmarks nodes).map (List.map (Landmark.mapOffset f)) := by
  unfold landmarks
  -- members are numbers of nodes, so the same nodes are looked up
  generalize nodes.members = members
  induction members with
  | nil => rfl
  | cons node members ih =>
    rw [List.mapM_cons, List.mapM_cons, ih]
    simp only [mapOffsets, Graph.mapOffsets, Array.getElem?_map]
    cases c.graph.nodes[node]? with
    | none => rfl
    | some n =>
      dsimp only [Option.map_some]
      generalize members.mapM (m := Except LowerError) _ = landmarks
      cases landmarks <;> rfl

/-- The boundaries of a set of nodes are the same ones, or fail to exist for the same reason. -/
theorem boundaries_mapOffsets (orders : c.graph.OrdersOffsets f) (region : Nat) (part : RegionPart)
    (nodes : NodeSet) :
    (c.mapOffsets f).boundaries region part nodes = c.boundaries region part nodes := by
  unfold boundaries
  rw [landmarks_mapOffsets]
  cases found : c.landmarks nodes with
  | error e => rfl
  | ok landmarks =>
    rcases landmarks with _ | ⟨landmark, rest⟩
    · rfl
    -- every landmark has the offset of a node, so the order is known on all of them
    · have known : ∀ l ∈ landmark :: rest, l.OffsetIn c.graph := by
        intro l mem
        obtain ⟨n, here, offset⟩ := (landmarks_eq_ok found).2 l mem
        exact ⟨n, Array.mem_of_getElem? here, offset⟩
      obtain ⟨first, others⟩ := List.forall_mem_cons.1 known
      have earliest := Landmark.foldl_mapOffset (fun _ _ => Landmark.OffsetIn.earlier)
        (fun _ _ => Landmark.earlier_mapOffset orders) first others
      have latest := Landmark.foldl_mapOffset (fun _ _ => Landmark.OffsetIn.later)
        (fun _ _ => Landmark.later_mapOffset orders) first others
      simp only [Except.map, List.map_cons, Fallible.ok_bind, earliest, latest]
      rfl

/-- The handlers of the regions are the same ones, or fail to exist for the same reason. -/
theorem handlers_mapOffsets (orders : c.graph.OrdersOffsets f) :
    (c.mapOffsets f).handlers = c.handlers := by
  -- nothing but the boundaries depends on offsets
  have bounds : (c.mapOffsets f).boundaries = c.boundaries := by
    funext region part nodes
    exact boundaries_mapOffsets orders region part nodes
  have spans : (c.mapOffsets f).span = c.span := by
    funext region part nodes
    simp only [span, bounds]
    rfl
  have filters : (c.mapOffsets f).filterStart = c.filterStart := by
    funext region nodes
    simp only [filterStart, bounds]
    rfl
  have each : (c.mapOffsets f).handler = c.handler := by
    funext index region
    simp only [handler, spans, filters]
    rfl
  rw [handlers, handlers, each]
  rfl

end RegionContext

/-! ## §4 Regeneration -/

variable {σ : Type}

/-- Lowering does not look at offsets. -/
theorem LowerContext.listing_mapOffsets (c : LowerContext σ) (g : Graph) :
    c.listing (g.mapOffsets f) = c.listing g := by
  unfold listing Graph.mapOffsets
  rw [← Array.foldlM_toList, ← Array.foldlM_toList, Array.toList_map, List.foldlM_map]
  rfl

namespace Config

theorem complete_mapOffsets (config : Config) {g : Graph} (orders : g.OrdersOffsets f)
    (returnsValue : Bool) (l : Listing) :
    config.complete returnsValue (g.mapOffsets f) l = config.complete returnsValue g l := by
  have handlers (b : Body) : RegionContext.handlers ⟨g.mapOffsets f, l.stretches, b, config⟩ =
      RegionContext.handlers ⟨g, l.stretches, b, config⟩ :=
    RegionContext.handlers_mapOffsets (c := ⟨g, l.stretches, b, config⟩) orders
  unfold complete
  simp only [handlers]

/-- Other offsets in the same order change nothing: a regeneration gives the same body with the same
    stretches and places or has the same fault, and leaves the same method and the same state of the
    functions that update flags. -/
theorem regenerate_mapOffsets (config : Config) (flags : FlagsLowering σ) (r : Routine) (m : Method)
    (state : σ) (orders : r.graph.OrdersOffsets f) :
    config.regenerate flags (r.mapOffsets f) m state = config.regenerate flags r m state := by
  have binds : (r.mapOffsets f).bind m = r.bind m := rfl
  have supply : (r.mapOffsets f).graph.supply = r.graph.supply := by
    simp [Routine.mapOffsets, Graph.mapOffsets, Graph.supply]
  unfold regenerate
  rw [binds, supply]
  simp only [Routine.mapOffsets, LowerContext.listing_mapOffsets, complete_mapOffsets _ orders]

/-- The routine with a filter can be regenerated with its offsets spread out too. -/
theorem regenerate_mapOffsets_filtered :
    Routine.filtered.graph.OrdersOffsets (fun offset => 16 * offset + 3) ∧
    ∃ g, (unbounded.regenerate (.ignoring : FlagsLowering Unit)
      (Routine.filtered.mapOffsets fun offset => 16 * offset + 3) default ()).result = .ok g := by
  have orders : Routine.filtered.graph.OrdersOffsets (fun offset => 16 * offset + 3) := by
    unfold Graph.OrdersOffsets
    decide
  rw [regenerate_mapOffsets unbounded .ignoring Routine.filtered default () orders]
  exact ⟨orders, Routine.regenerate_filtered⟩

end Config

end Devirt
