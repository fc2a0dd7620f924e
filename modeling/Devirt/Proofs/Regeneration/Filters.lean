import Devirt.Proofs.Regeneration.Handlers
import Mathlib.Order.Bounds.Basic

/-!
# Filters of Finished Bodies

A clause says where a filter starts but not where it ends: what runs as the filter is all that lies
between its start and the start of the handler. The check for gaps looks at each part of a region on
its own. So the nodes that decide are laid out together, from the start of the filter on, but they
need not be followed by those that handle. The range that is encoded is theirs exactly if they are.

Main statements:
- `Config.filter_regenerate`: where the code of a filter is, and when it is delimited.
- `Config.exists_undelimited_filter`: a filter behind its handler is not.
-/

namespace Devirt

/-! ## §1 Sets of nodes in a row -/

/-- The first of the second nodes comes right behind the last of the first ones. -/
def NodeSet.Precedes (before after : NodeSet) : Prop :=
  ∃ last, IsGreatest {node | node ∈ before.members} last ∧
    IsLeast {node | node ∈ after.members} (last + 1)

theorem NodeSet.precedes_iff {before after : NodeSet} {first last first' last' : Nat}
    (ordered : first ≤ last) (interval : ∀ node, node ∈ before.members ↔ first ≤ node ∧ node ≤ last)
    (ordered' : first' ≤ last')
    (interval' : ∀ node, node ∈ after.members ↔ first' ≤ node ∧ node ≤ last') :
    before.Precedes after ↔ first' = last + 1 := by
  have greatest : IsGreatest {node | node ∈ before.members} last :=
    ⟨(interval last).2 ⟨ordered, Nat.le_refl _⟩, fun node mem => ((interval node).1 mem).2⟩
  have least : IsLeast {node | node ∈ after.members} first' :=
    ⟨(interval' first').2 ⟨Nat.le_refl _, ordered'⟩, fun node mem => ((interval' node).1 mem).1⟩
  constructor
  · rintro ⟨other, greatest', least'⟩
    rw [greatest.unique greatest', least.unique least']
  · rintro rfl
    exact ⟨last, greatest, least⟩

/-- Two ranges from the same start, one of which has members, have the same members exactly if they
    have the same end. -/
theorem forall_mem_range_iff {start stop stop' : Nat} (nonempty : start < stop) :
    (∀ p, start ≤ p ∧ p < stop' ↔ start ≤ p ∧ p < stop) ↔ stop' = stop := by
  constructor
  · intro same
    -- the last member of the one is in the other, and what lies behind it is not
    have inside := (same (stop - 1)).2 (by omega)
    have outside := (same stop).not.2 (by omega)
    omega
  · rintro rfl p
    exact Iff.rfl

/-! ## §2 The code of a filter -/

/-- The position is in the code of one of the nodes. -/
def Regenerated.InCode (g : Regenerated) (nodes : NodeSet) (p : Nat) : Prop :=
  ∃ node ∈ nodes.members, ∃ s, g.stretches[node]? = some s ∧ s.start ≤ p ∧ p < s.stop

variable {σ : Type} {config : Config} {flags : FlagsLowering σ} {r : Routine} {m : Method}
  {state : σ} {g : Regenerated}

namespace Config

/-- A filter starts at the anchor of the first of its nodes, which are an interval. -/
theorem interval_of_filterStart (checks : config.checkContiguity = true)
    (regenerated : (config.regenerate flags r m state).result = .ok g) {region : Nat}
    {nodes : NodeSet} {label : Label}
    (found : (g.context config r.graph).filterStart region nodes = .ok label) :
    ∃ first last, label = Graph.anchorOf first ∧ first ≤ last ∧ last < g.stretches.size ∧
      ∀ node, node ∈ nodes.members ↔ first ≤ node ∧ node ≤ last := by
  obtain ⟨tiled, size⟩ := tiled_regenerate regenerated
  obtain ⟨first, last, bounded, starts⟩ := RegionContext.filterStart_eq_ok tiled rfl found
  obtain ⟨ordered, interval, _, _, _, known⟩ := RegionContext.boundaries_eq_ok checks bounded
  -- every member of the set is a node of the graph, and so has a stretch
  obtain ⟨_, n, here, _⟩ := known last ((interval last).2 ⟨ordered, Nat.le_refl _⟩)
  exact ⟨first, last, starts, ordered, size ▸ (Array.getElem?_eq_some_iff.1 here).1, interval⟩

/-- The code of the nodes that decide begins where the filter starts and has no gaps. The range from
    there to the start of the handler is that code exactly if the nodes that handle come right
    behind the nodes that decide. -/
theorem filter_regenerate (checks : config.checkContiguity = true) (draws : flags.DrawsLabels)
    (regenerated : (config.regenerate flags r m state).result = .ok g) {k : Nat} {region : Region}
    {h : Handler} (here : r.graph.regions[k]? = some region) (there : g.body.handlers[k]? = some h)
    (decides : h.kind = .filter) :
    ∃ label start stop, h.filterStart = some label ∧ g.body.position? label = some start ∧
      g.body.position? h.handler.start = some stop ∧
      (∃ length, 0 < length ∧
        ∀ p, start ≤ p ∧ p < start + length ↔ g.InCode region.filter p) ∧
      ((∀ p, start ≤ p ∧ p < stop ↔ g.InCode region.filter p) ↔
        region.filter.Precedes region.handler) := by
  obtain ⟨h', there', resolved⟩ :=
    (RegionContext.handlers_eq_ok (handlers_regenerate regenerated)).2 k region here
  obtain rfl := Option.some.inj (there'.symm.trans there)
  obtain ⟨_, _, handled, filter, _⟩ := RegionContext.handler_eq_ok resolved
  rw [if_pos decides] at filter
  obtain ⟨label, found, starts⟩ := filter
  have tiled := (tiled_regenerate regenerated).1
  have distinct := distinctLabels_regenerate draws regenerated
  -- the code of the nodes that decide lies between two edges
  obtain ⟨first, last, rfl, ordered, inside, interval⟩ :=
    interval_of_filterStart checks regenerated found
  have code (p : Nat) : g.InCode region.filter p ↔
      g.listing.edge first ≤ p ∧ p < g.listing.edge (last + 1) :=
    (tiled.mem_edges_iff ordered inside interval).symm
  have nonempty : g.listing.edge first < g.listing.edge (last + 1) :=
    tiled.edge_lt_of_lt (Nat.lt_succ_of_le ordered) inside
  -- the handler starts at an edge as well
  obtain ⟨first', last', bounded, inside', start, _⟩ := edges_of_span draws regenerated handled
  obtain ⟨ordered', interval', _⟩ := RegionContext.boundaries_eq_ok checks bounded
  refine ⟨_, _, _, starts, tiled.position?_anchor rfl distinct (Nat.lt_of_le_of_lt ordered inside),
    start, ⟨_, Nat.sub_pos_of_lt nonempty, fun p => ?_⟩, ?_⟩
  · rw [Nat.add_sub_cancel' (Nat.le_of_lt nonempty), code]
  · simp only [code]
    rw [forall_mem_range_iff nonempty, NodeSet.precedes_iff ordered interval ordered' interval']
    -- different nodes start at different edges
    constructor
    · exact tiled.edge_inj (Nat.le_of_lt (Nat.lt_of_le_of_lt ordered' inside')) inside
    · rintro rfl
      rfl

/-- The routine with a filter has its nodes in order, so its filter is delimited. -/
theorem filter_regenerate_filtered :
    ∃ g h, (unbounded.regenerate (.ignoring : FlagsLowering Unit) .filtered default ()).result =
        .ok g ∧ g.body.handlers[0]? = some h ∧ h.kind = .filter ∧
      ∃ label start stop, h.filterStart = some label ∧ g.body.position? label = some start ∧
        g.body.position? h.handler.start = some stop ∧
        ∀ p, start ≤ p ∧ p < stop ↔ g.InCode (.ofList [1]) p := by
  obtain ⟨g, finished⟩ := Routine.regenerate_filtered
  have region : Routine.filtered.graph.regions[0]? =
    some ⟨1, .ofList [0], .ofList [2], .ofList [1], none⟩ := rfl
  obtain ⟨h, there, handles⟩ :=
    handles_of_region rfl FlagsLowering.ignoring_drawsLabels finished region
  have decides : h.kind = .filter := (Option.some.inj handles.kind).symm
  obtain ⟨label, start, stop, starts, found, found', _, delimited⟩ :=
    filter_regenerate rfl FlagsLowering.ignoring_drawsLabels finished region there decides
  have precedes : NodeSet.Precedes (.ofList [1]) (.ofList [2]) :=
    ⟨1, by simp [NodeSet.mem_members_ofList], by simp [NodeSet.mem_members_ofList]⟩
  exact ⟨g, h, finished, there, decides, label, start, stop, starts, found, found',
    delimited.2 precedes⟩

end Config

/-! ## §3 A filter behind its handler -/

/-- A routine with a filter behind its handler: of its four empty nodes, the first is protected, the
    second handles and the third decides. -/
def Routine.detached : Routine where
  vars := #[]
  parameters := #[]
  graph := ⟨filtered.graph.nodes, #[⟨1, .ofList [0], .ofList [1], .ofList [2], none⟩]⟩

/-- What the region of the routine is resolved in. -/
def Routine.detachedContext : RegionContext :=
  { filteredContext with graph := detached.graph }

theorem Routine.handlers_detachedContext : detachedContext.handlers =
    .ok #[⟨.filter, ⟨⟨0⟩, ⟨1⟩⟩, some ⟨2⟩, ⟨⟨1⟩, ⟨2⟩⟩, none⟩] := by
  have spans := @span_filteredContext detachedContext rfl rfl rfl rfl
  have handles : detachedContext.handler 0 ⟨1, .ofList [0], .ofList [1], .ofList [2], none⟩ =
      .ok ⟨.filter, ⟨⟨0⟩, ⟨1⟩⟩, some ⟨2⟩, ⟨⟨1⟩, ⟨2⟩⟩, none⟩ :=
    Fallible.bind_eq_ok.2 ⟨_, spans 0 .guarded (by decide),
      Fallible.bind_eq_ok.2 ⟨_, spans 0 .handler (by decide), rfl⟩⟩
  exact Fallible.bind_eq_ok.2 ⟨_, Fallible.bind_eq_ok.2 ⟨_, handles, rfl⟩, rfl⟩

/-- A body is finished for this routine although its filter is not delimited: the check for gaps is
    passed, but the filter starts behind the handler, so the range between the two is empty and the
    line of the node that decides is not in it. -/
theorem Config.exists_undelimited_filter :
    unbounded.checkContiguity = true ∧ (.ignoring : FlagsLowering Unit).DrawsLabels ∧
    ∃ g h, (unbounded.regenerate (.ignoring : FlagsLowering Unit) .detached default ()).result =
        .ok g ∧ g.body.handlers[0]? = some h ∧ h.kind = .filter ∧
      ∃ label start stop, h.filterStart = some label ∧ g.body.position? label = some start ∧
        g.body.position? h.handler.start = some stop ∧
        ¬∀ p, start ≤ p ∧ p < stop ↔ g.InCode (.ofList [2]) p := by
  have lowers : (⟨.unbounded, ⟨#[], #[]⟩, false, .ignoring⟩ : LowerContext Unit).listing
      Routine.detached.graph ⟨Routine.detached.graph.supply, ()⟩ =
        .ok ⟨Routine.filteredLines, Routine.filteredContext.stretches⟩ ⟨⟨⟨4⟩⟩, ()⟩ := rfl
  have binds : Routine.detached.bind default = _ := Routine.bind_of_no_declarations rfl rfl default
  have finished := regenerate_unbounded binds lowers (by decide) (by decide)
    Routine.handlers_detachedContext
  refine ⟨rfl, FlagsLowering.ignoring_drawsLabels, _, _, finished, rfl, rfl, ⟨2⟩, 2, 1, rfl,
    Routine.position?_filteredLines (by decide), Routine.position?_filteredLines (by decide),
    fun delimited => ?_⟩
  -- the position of the third node is behind the end of the range
  have inside := (delimited 2).2 ⟨2, by simp [NodeSet.mem_members_ofList], _, rfl, by decide⟩
  omega

end Devirt
