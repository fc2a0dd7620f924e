import Devirt.Proofs.Lowering.IgnoringFlags
import Devirt.Proofs.Regeneration.Success

/-!
# Nodes of Finished Bodies

The code of the nodes is the code of a finished body, cut into stretches. This needs nothing of the
functions that update flags: whatever code they give, a node starts with its anchor, relaxation
moves no line, and a listing holds nothing but the code of nodes. If moreover those functions take
labels from the supply, then a label names one line only, so branches to nodes lead there.

Main statements:
- `Config.partitioned_regenerate`: the stretches partition a finished body.
- `Config.identified_regenerate`: labels name lines, and anchors name nodes.
-/

namespace Devirt

/-! ## §1 Positions of nodes -/

theorem Graph.anchor?_eq_some_iff {graph : Graph} {node : Nat} {anchor : Label} :
    graph.anchor? node = some anchor ↔ node < graph.nodes.size ∧ anchorOf node = anchor := by
  simp [anchor?]

/-- Every position of a tiled listing is in the code of exactly one node. -/
theorem Listing.Tiled.existsUnique_edge {l : Listing} (h : l.Tiled) {p : Nat}
    (inside : p < l.lines.size) :
    ∃! node, node < l.stretches.size ∧ l.edge node ≤ p ∧ p < l.edge (node + 1) := by
  have ends : l.edge 0 ≤ p ∧ p < l.edge l.stretches.size := ⟨Nat.zero_le p, by rwa [h.total]⟩
  obtain ⟨node, _, known, start, stop⟩ :=
    (h.exists_edge_le (Nat.zero_le _) (Nat.le_refl _)).1 ends
  refine ⟨node, ⟨known, start, stop⟩, ?_⟩
  rintro other ⟨known', start', stop'⟩
  -- of two nodes, the earlier one stops before the later one starts
  rcases Nat.lt_trichotomy other node with earlier | same | later
  · have between := h.edge_le (i := other + 1) earlier (Nat.le_of_lt known)
    omega
  · exact same
  · have between := h.edge_le (i := node + 1) later (Nat.le_of_lt known')
    omega

/-! ## §2 The code of the nodes -/

/-- The stretches are those of the nodes of the graph, in order and without gaps, and together they
    are the whole code. -/
structure Regenerated.Partitioned (g : Regenerated) (graph : Graph) : Prop where
  size_eq : g.stretches.size = graph.nodes.size
  node_eq : ∀ (i : Nat) (s : Stretch), g.stretches[i]? = some s → s.node = i
  start_zero : ∀ s, g.stretches[0]? = some s → s.start = 0
  start_succ : ∀ (i : Nat) (s s' : Stretch), g.stretches[i]? = some s →
    g.stretches[i + 1]? = some s' → s'.start = s.stop
  stop_back : ∀ s, g.stretches.back? = some s → s.stop = g.body.length
  start_lt : ∀ s ∈ g.stretches, s.start < s.stop
  /-- Code starts with a placeholder that carries the anchor of its node. -/
  first : ∀ (i : Nat) (s : Stretch), g.stretches[i]? = some s →
    graph.anchor? i = some s.first ∧ g.body.lines[s.start]? = some ⟨s.first, .plain .nop⟩
  last : ∀ s ∈ g.stretches, g.body.lines[s.stop - 1]?.map Line.label = some s.last
  /-- Every line belongs to one node. -/
  unique : ∀ p < g.body.length, ∃! i : Nat, ∃ s, g.stretches[i]? = some s ∧
    s.start ≤ p ∧ p < s.stop

variable {σ : Type} {config : Config} {flags : FlagsLowering σ} {r : Routine} {m : Method}
  {state : σ} {g : Regenerated}

/-- The code of the nodes partitions a finished body, whatever the functions that update flags
    do. -/
theorem Config.partitioned_regenerate (h : (config.regenerate flags r m state).result = .ok g) :
    g.Partitioned r.graph := by
  obtain ⟨tiled, size⟩ := tiled_regenerate h
  have length : g.listing.lines.size = g.body.length := by
    rw [← g.body.length_lines]
    exact List.size_toArray
  have line : ∀ i : Nat, g.listing.lines[i]? = g.body.lines[i]? := fun i => List.getElem?_toArray
  have places : ∀ (i : Nat) (s : Stretch), g.stretches[i]? = some s → g.listing.Places i s :=
    tiled.places
  -- all of it is said by the tiling, of nodes and edges instead of stretches
  constructor
  case size_eq => exact size
  case node_eq => exact fun i s here => (places i s here).node_eq
  case start_zero => exact fun s here => (places 0 s here).start_eq
  case start_succ =>
    intro i s s' here next
    rw [(places (i + 1) s' next).start_eq, Listing.edge_succ here]
  case stop_back =>
    intro s here
    rw [Array.back?_eq_getElem?] at here
    have known := (Array.getElem?_eq_some_iff.1 here).1
    have total : g.listing.edge g.stretches.size = g.listing.lines.size := tiled.total
    rw [← length, ← total, ← Nat.sub_add_cancel (Nat.zero_lt_of_lt known), Listing.edge_succ here]
  case start_lt =>
    intro s mem
    obtain ⟨i, here⟩ := Array.mem_iff_getElem?.1 mem
    exact (places i s here).start_lt
  case first =>
    intro i s here
    have known : i < r.graph.nodes.size := size ▸ (Array.getElem?_eq_some_iff.1 here).1
    refine ⟨Graph.anchor?_eq_some_iff.2 ⟨known, (places i s here).first_eq.symm⟩, ?_⟩
    rw [← line]
    exact (places i s here).anchor
  case last =>
    intro s mem
    obtain ⟨i, here⟩ := Array.mem_iff_getElem?.1 mem
    rw [← line]
    exact (places i s here).last
  case unique =>
    intro p inside
    rw [← length] at inside
    refine (existsUnique_congr fun i => ?_).1 (tiled.existsUnique_edge inside)
    constructor
    · rintro ⟨known, above, below⟩
      have here : g.stretches[i]? = some g.stretches[i] := Array.getElem?_eq_getElem known
      rw [← (places i _ here).start_eq] at above
      rw [Listing.edge_succ here] at below
      exact ⟨_, here, above, below⟩
    · rintro ⟨s, here, above, below⟩
      rw [Listing.edge_succ here, ← (places i s here).start_eq]
      exact ⟨(Array.getElem?_eq_some_iff.1 here).1, above, below⟩

/-- A routine with two nodes, of which the second one leads back to the first one. The first one
    computes a value and flags, and drops the value. -/
def Routine.looping : Routine where
  vars := #[]
  parameters := #[]
  graph := ⟨#[
    ⟨0, [.eval (.apply ⟨[.plain .not], some ⟨⟨0⟩, false⟩, some default⟩
      [.apply ⟨[.plain .ldcI41], none, some default⟩ []])]⟩,
    ⟨0, [.eval (.apply ⟨[⟨.br, .target ⟨0⟩⟩], none, none⟩ [])]⟩], #[]⟩

/-- Functions that update flags and forget everything else, the arguments included. -/
def FlagsLowering.forgetting : FlagsLowering Unit where
  unary _ _ _ := return #[]
  binary _ _ _ _ := return #[]

/-- The routine has a finished body even if the value is forgotten: then only its removal is left of
    the first node. -/
theorem Config.partitioned_regenerate_looping : ∃ g,
    (unbounded.regenerate .forgetting .looping default ()).result = .ok g ∧
      g.stretches = #[⟨0, ⟨0⟩, ⟨3⟩, 0, 2⟩, ⟨1, ⟨1⟩, ⟨4⟩, 2, 4⟩] ∧
      g.Partitioned Routine.looping.graph := by
  have lowers : (⟨unbounded, ⟨#[], #[]⟩, false, .forgetting⟩ : LowerContext Unit).listing
      Routine.looping.graph ⟨Routine.looping.graph.supply, ()⟩ =
        .ok ⟨#[⟨⟨0⟩, .anchor⟩, ⟨⟨3⟩, .plain .pop⟩, ⟨⟨1⟩, .anchor⟩, ⟨⟨4⟩, ⟨.br, .target ⟨0⟩⟩⟩],
          #[⟨0, ⟨0⟩, ⟨3⟩, 0, 2⟩, ⟨1, ⟨1⟩, ⟨4⟩, 2, 4⟩]⟩ ⟨⟨⟨5⟩⟩, ()⟩ := rfl
  have binds : Routine.looping.bind default = _ := Routine.bind_of_no_declarations rfl rfl default
  have finished := regenerate_unbounded binds lowers (by decide) (by decide) rfl
  exact ⟨_, finished, rfl, partitioned_regenerate finished⟩

/-! ## §3 The labels of the nodes -/

/-- Labels name lines, and the anchor of a node names the placeholder that its code starts with. -/
structure Regenerated.Identified (g : Regenerated) (graph : Graph) : Prop where
  distinct : DistinctLabels g.body.lines
  position?_label : ∀ (i : Nat) (line : Line), g.body.lines[i]? = some line →
    g.body.position? line.label = some i
  /-- The anchor of a node is the label of one line, where the code of the node starts. -/
  anchor_once : ∀ (node : Nat) (anchor : Label), graph.anchor? node = some anchor →
    ∃ s, g.stretches[node]? = some s ∧
      ∀ i : Nat, g.body.lines[i]?.map Line.label = some anchor ↔ i = s.start
  /-- A target that is an anchor is found with the offset at which the code of the node starts. -/
  line?_anchor : ∀ (node : Nat) (anchor : Label) (s : Stretch),
    graph.anchor? node = some anchor → g.stretches[node]? = some s →
    g.body.line? anchor = some (totalWidth (g.body.lines.take s.start), ⟨anchor, .plain .nop⟩)

/-- If the functions that update flags take labels from the supply, then labels name the lines of a
    finished body, and branches to nodes lead to where their code starts. -/
theorem Config.identified_regenerate (draws : flags.DrawsLabels)
    (h : (config.regenerate flags r m state).result = .ok g) : g.Identified r.graph := by
  obtain ⟨tiled, size⟩ := tiled_regenerate h
  have distinct := distinctLabels_regenerate draws h
  -- the code of a node starts with the placeholder that carries its anchor
  have start : ∀ (node : Nat) (anchor : Label) (s : Stretch), r.graph.anchor? node = some anchor →
      g.stretches[node]? = some s → g.body.lines[s.start]? = some ⟨anchor, .plain .nop⟩ := by
    intro node anchor s known here
    obtain ⟨_, rfl⟩ := Graph.anchor?_eq_some_iff.1 known
    have placed := tiled.places node s here
    have first : g.body.lines[s.start]? = some ⟨s.first, .anchor⟩ :=
      List.getElem?_toArray.symm.trans placed.anchor
    rw [first, placed.first_eq]
    rfl
  constructor
  case distinct => exact distinct
  case position?_label =>
    intro i line here
    rw [Body.position?_eq_some_iff_of_distinct distinct, here, Option.map_some]
  case anchor_once =>
    intro node anchor known
    have inside : node < g.stretches.size := size ▸ (Graph.anchor?_eq_some_iff.1 known).1
    have here := Array.getElem?_eq_getElem inside
    refine ⟨_, here, fun i => ?_⟩
    have first : g.body.lines[g.stretches[node].start]?.map Line.label = some anchor := by
      rw [start node anchor _ known here, Option.map_some]
    constructor
    -- a label that resolves resolves to one position
    · intro other
      rw [← Body.position?_eq_some_iff_of_distinct distinct] at first other
      exact Option.some.inj (other.symm.trans first)
    · rintro rfl
      exact first
  case line?_anchor =>
    intro node anchor s known here
    have first := start node anchor s known here
    have found : g.body.position? anchor = some s.start := by
      rw [Body.position?_eq_some_iff_of_distinct distinct, first, Option.map_some]
    rw [Body.line?_eq, found, Option.bind_some, first]
    rfl

/-- The branch of the second node leads to the start of the first one, whose code is complete if the
    functions that update flags ignore flags only. -/
theorem Config.identified_regenerate_looping : ∃ g,
    (unbounded.regenerate (.ignoring : FlagsLowering Unit) .looping default ()).result = .ok g ∧
      g.body.lines[5]? = some ⟨⟨5⟩, ⟨.br, .target ⟨0⟩⟩⟩ ∧
      g.body.line? ⟨0⟩ = some (0, ⟨⟨0⟩, .plain .nop⟩) ∧ g.Identified Routine.looping.graph := by
  have lowers : (⟨unbounded, ⟨#[], #[]⟩, false, .ignoring⟩ : LowerContext Unit).listing
      Routine.looping.graph ⟨Routine.looping.graph.supply, ()⟩ =
        .ok ⟨#[⟨⟨0⟩, .anchor⟩, ⟨⟨2⟩, .plain .ldcI41⟩, ⟨⟨3⟩, .plain .not⟩, ⟨⟨4⟩, .plain .pop⟩,
            ⟨⟨1⟩, .anchor⟩, ⟨⟨5⟩, ⟨.br, .target ⟨0⟩⟩⟩],
          #[⟨0, ⟨0⟩, ⟨4⟩, 0, 4⟩, ⟨1, ⟨1⟩, ⟨5⟩, 4, 6⟩]⟩ ⟨⟨⟨6⟩⟩, ()⟩ := rfl
  have binds : Routine.looping.bind default = _ := Routine.bind_of_no_declarations rfl rfl default
  have finished := regenerate_unbounded binds lowers (by decide) (by decide) rfl
  have identified := identified_regenerate FlagsLowering.ignoring_drawsLabels finished
  exact ⟨_, finished, rfl, identified.line?_anchor 0 ⟨0⟩ _ rfl rfl, identified⟩

end Devirt
