import Devirt.Proofs.Body.SectionFaults
import Devirt.Proofs.Lowering.IgnoringFlags
import Devirt.Proofs.Regeneration.Success
import Devirt.Proofs.Regions.Handlers

/-!
# Handlers of Finished Bodies

With gaps checked for, the handlers of a finished body are those of the regions: each range of a
handler is the code of the nodes that it stands for, no more and no less. Nothing has to be known
of the code itself, except that its labels are different. A section with such handlers has no faults
but those of size.

Main statement: `Config.handles_regenerate`.
-/

namespace Devirt

variable {σ : Type} {config : Config} {flags : FlagsLowering σ} {r : Routine} {m : Method}
  {state : σ} {g : Regenerated}

/-! ## §1 Handlers and regions -/

/-- The handler is that of the region: it has the kind that belongs to the tag, its ranges are the
    code of the parts of the region, a filter starts at its lowest node, and only typed handlers
    have a type. -/
structure Regenerated.Handles (g : Regenerated) (config : Config) (graph : Graph) (region : Region)
    (h : Handler) : Prop where
  /-- The kind belongs to the tag. -/
  kind : config.machine.kindOf region.tag = some h.kind
  /-- The protected code is that of the protected nodes. -/
  guarded : g.body.Covers g.stretches h.guarded region.guarded
  /-- The code of the handler is that of the nodes that handle exceptions. -/
  handler : g.body.Covers g.stretches h.handler region.handler
  /-- A filter starts at the lowest of the nodes that decide, and nothing else has a filter. -/
  filter : if h.kind = .filter then
      ∃ node, RegionContext.IsLowest graph region.filter node ∧
        h.filterStart = some (Graph.anchorOf node)
    else h.filterStart = none
  /-- Only typed handlers have a type. -/
  catchType : h.catchType.isSome = true → h.kind = .typed

theorem Body.Covers.delimits {b : Body} {stretches : Array Stretch} {span : Span} {nodes : NodeSet}
    (h : b.Covers stretches span nodes) : b.Delimits span := by
  obtain ⟨start, stop, first, last, lt, _⟩ := h
  exact ⟨start, stop, first, last, lt⟩

namespace Config

/-- The labels of a range resolve to the edges of its nodes in the finished body too. -/
theorem edges_of_span (draws : flags.DrawsLabels)
    (regenerated : (config.regenerate flags r m state).result = .ok g) {region : Nat}
    {part : RegionPart} {nodes : NodeSet} {span : Span}
    (found : (g.context config r.graph).span region part nodes = .ok span) :
    ∃ first last, (g.context config r.graph).boundaries region part nodes = .ok (first, last) ∧
      last < g.stretches.size ∧ g.body.position? span.start = some (g.listing.edge first) ∧
      g.body.position? span.stop = some (g.listing.edge (last + 1)) := by
  -- regions were resolved before the stack was bounded, in a body with the same lines
  have same : (g.context config r.graph).body.lines = g.body.lines := by simp [Regenerated.context]
  have distinct : DistinctLabels (g.context config r.graph).body.lines := by
    rw [same]
    exact distinctLabels_regenerate draws regenerated
  have edges := RegionContext.edges_of_span (tiled_regenerate regenerated).1 rfl
    (by rw [same]; rfl) distinct found
  rwa [Body.position?_congr same] at edges

/-- The range of a part of a region covers its nodes. -/
theorem covers_of_span (checks : config.checkContiguity = true) (draws : flags.DrawsLabels)
    (regenerated : (config.regenerate flags r m state).result = .ok g) {region : Nat}
    {part : RegionPart} {nodes : NodeSet} {span : Span}
    (found : (g.context config r.graph).span region part nodes = .ok span) :
    g.body.Covers g.stretches span nodes := by
  have tiled := (tiled_regenerate regenerated).1
  obtain ⟨first, last, bounded, inside, start, stop⟩ := edges_of_span draws regenerated found
  -- without gaps the nodes are an interval, whose code lies between two edges
  obtain ⟨ordered, interval, _⟩ := RegionContext.boundaries_eq_ok checks bounded
  exact ⟨_, _, start, stop, tiled.edge_lt_of_lt (Nat.lt_succ_of_le ordered) inside,
    fun p => tiled.mem_edges_iff ordered inside interval⟩

/-- The handler at a position is that of the region at the position. -/
theorem handles_of_region (checks : config.checkContiguity = true) (draws : flags.DrawsLabels)
    (regenerated : (config.regenerate flags r m state).result = .ok g) {k : Nat} {region : Region}
    (here : r.graph.regions[k]? = some region) :
    ∃ h, g.body.handlers[k]? = some h ∧ g.Handles config r.graph region h := by
  obtain ⟨h, there, resolved⟩ :=
    (RegionContext.handlers_eq_ok (handlers_regenerate regenerated)).2 k region here
  obtain ⟨kind, guarded, handler, filter, catchType⟩ := RegionContext.handler_eq_ok resolved
  have tiled := (tiled_regenerate regenerated).1
  -- the kind, the two ranges, the filter and the type, as the region gives them
  refine ⟨h, there, kind, covers_of_span checks draws regenerated guarded,
    covers_of_span checks draws regenerated handler, ?_, fun typed => ?_⟩
  · by_cases decides : h.kind = .filter
    · rw [if_pos decides] at filter ⊢
      obtain ⟨start, found, starts⟩ := filter
      obtain ⟨first, last, bounded, rfl⟩ := RegionContext.filterStart_eq_ok tiled rfl found
      exact ⟨first, (RegionContext.boundaries_eq_ok checks bounded).2.2, starts⟩
    · rw [if_neg decides] at filter ⊢
      exact filter
  · by_contra other
    rw [catchType, if_neg other] at typed
    cases typed

/-- The handlers of regions resolve. -/
theorem resolves_of_handles {region : Region} {h : Handler}
    (handles : g.Handles config r.graph region h)
    (regenerated : (config.regenerate flags r m state).result = .ok g) : g.body.Resolves h := by
  refine ⟨handles.guarded.delimits, handles.handler.delimits, fun start starts => ?_⟩
  have filter := handles.filter
  split at filter
  next =>
    -- a filter starts at the anchor of a node, which is a line
    obtain ⟨node, ⟨_, n, known, _⟩, starts'⟩ := filter
    obtain rfl := Option.some.inj (starts'.symm.trans starts)
    exact exists_anchor_regenerate regenerated (Array.getElem?_eq_some_iff.1 known).1
  next =>
    rw [filter] at starts
    cases starts

/-- If gaps are checked for, then a finished body has one handler for each region, in order, with
    the code of the nodes of the region. Such handlers can be encoded, unless the code is too long
    or there are too many of them, and no length is zero. -/
theorem handles_regenerate (checks : config.checkContiguity = true) (draws : flags.DrawsLabels)
    (regenerated : (config.regenerate flags r m state).result = .ok g) :
    g.body.handlers.size = r.graph.regions.size ∧
    (∀ (k : Nat) (region : Region), r.graph.regions[k]? = some region →
      ∃ h, g.body.handlers[k]? = some h ∧ g.Handles config r.graph region h) ∧
    (∀ e, g.body.encodeHandlers = .error e →
      (∃ size, e = .codeTooLong size) ∨ e = .tooManyHandlers g.body.handlers.size) ∧
    (∀ h ∈ g.body.handlers, ∀ n, g.body.lengthField h.guarded = .ok n ∨
      g.body.lengthField h.handler = .ok n → 0 < n ∧ n < 0x100000000) := by
  have size := (RegionContext.handlers_eq_ok (handlers_regenerate regenerated)).1
  -- every handler belongs to a region, and the ranges of regions resolve
  have resolves : ∀ h ∈ g.body.handlers, g.body.Resolves h := by
    intro h mem
    obtain ⟨k, inside, here⟩ := Array.mem_iff_getElem.1 mem
    obtain ⟨h', there, handles⟩ := handles_of_region checks draws regenerated
      (Array.getElem?_eq_getElem (size ▸ inside))
    rw [Array.getElem?_eq_getElem inside, here] at there
    obtain rfl := Option.some.inj there
    exact resolves_of_handles handles regenerated
  refine ⟨size, fun k region => handles_of_region checks draws regenerated, ?_, ?_⟩
  · exact fun e => Body.encodeHandlers_eq_error resolves
  · rintro h mem n (length | length)
    · exact Body.lengthField_eq_ok (resolves h mem).guarded length
    · exact Body.lengthField_eq_ok (resolves h mem).handler length

end Config

/-- A routine with a filter: of its four empty nodes, the first is protected, the second decides and
    the third handles. -/
def Routine.filtered : Routine where
  vars := #[]
  parameters := #[]
  graph := {
    nodes := #[⟨0, []⟩, ⟨1, []⟩, ⟨2, []⟩, ⟨3, []⟩]
    regions := #[⟨1, .ofList [0], .ofList [2], .ofList [1], none⟩] }

/-- The lines that the routine is lowered to. -/
def Routine.filteredLines : Array Line :=
  #[⟨⟨0⟩, .anchor⟩, ⟨⟨1⟩, .anchor⟩, ⟨⟨2⟩, .anchor⟩, ⟨⟨3⟩, .anchor⟩]

/-- What the region of the routine is resolved in. -/
def Routine.filteredContext : RegionContext :=
  ⟨filtered.graph,
    #[⟨0, ⟨0⟩, ⟨0⟩, 0, 1⟩, ⟨1, ⟨1⟩, ⟨1⟩, 1, 2⟩, ⟨2, ⟨2⟩, ⟨2⟩, 2, 3⟩, ⟨3, ⟨3⟩, ⟨3⟩, 3, 4⟩],
    .ofLines filteredLines, .unbounded⟩

theorem Routine.label_filteredLines :
    ∀ i < 4, filteredLines.toList[i]?.map Line.label = some ⟨i⟩ := by
  decide

theorem Routine.position?_filteredLines {i : Nat} (small : i < 4) :
    (Body.ofLines filteredLines).position? ⟨i⟩ = some i := by
  rw [Body.position?_eq_some_iff_of_distinct (by rw [Body.lines_ofLines]; decide),
    Body.lines_ofLines]
  exact label_filteredLines i small

/-- Every node of the routine but the last one is a range of its own, whatever the regions are. -/
theorem Routine.span_filteredContext {c : RegionContext}
    (nodes : c.graph.nodes = filtered.graph.nodes)
    (stretches : c.stretches = filteredContext.stretches)
    (body : c.body = .ofLines filteredLines) (config : c.config = .unbounded) (region : Nat)
    (part : RegionPart) {i : Nat} (small : i < 3) :
    c.span region part (.ofList [i]) = .ok ⟨⟨i⟩, ⟨i + 1⟩⟩ := by
  obtain ⟨⟨_, regions⟩, _, _, _⟩ := c
  subst nodes stretches body config
  have following : (Body.ofLines filteredLines).following? ⟨i⟩ = some ⟨i + 1⟩ := by
    rw [Body.following?_eq, position?_filteredLines (by omega), Option.bind_some,
      Body.lines_ofLines]
    exact label_filteredLines (i + 1) (by omega)
  have stretch : ∀ i < 3, filteredContext.stretches[i]? = some ⟨i, ⟨i⟩, ⟨i⟩, i, i + 1⟩ := by decide
  refine RegionContext.span_eq_ok.2
    ⟨i, i, _, _, ?_, stretch i small, stretch i small, rfl, following⟩
  -- the boundaries of a set with one node are computed
  obtain rfl | rfl | rfl : i = 0 ∨ i = 1 ∨ i = 2 := by omega
  all_goals rfl

theorem Routine.handlers_filteredContext : filteredContext.handlers =
    .ok #[⟨.filter, ⟨⟨0⟩, ⟨1⟩⟩, some ⟨1⟩, ⟨⟨2⟩, ⟨3⟩⟩, none⟩] := by
  have spans := @span_filteredContext filteredContext rfl rfl rfl rfl
  have handles : filteredContext.handler 0 ⟨1, .ofList [0], .ofList [2], .ofList [1], none⟩ =
      .ok ⟨.filter, ⟨⟨0⟩, ⟨1⟩⟩, some ⟨1⟩, ⟨⟨2⟩, ⟨3⟩⟩, none⟩ :=
    Fallible.bind_eq_ok.2 ⟨_, spans 0 .guarded (by decide),
      Fallible.bind_eq_ok.2 ⟨_, spans 0 .handler (by decide), rfl⟩⟩
  exact Fallible.bind_eq_ok.2 ⟨_, Fallible.bind_eq_ok.2 ⟨_, handles, rfl⟩, rfl⟩

theorem Routine.regenerate_filtered : ∃ g, (Config.unbounded.regenerate
    (.ignoring : FlagsLowering Unit) .filtered default ()).result = .ok g := by
  have lowers : (⟨.unbounded, ⟨#[], #[]⟩, false, .ignoring⟩ : LowerContext Unit).listing
      filtered.graph ⟨filtered.graph.supply, ()⟩ =
        .ok ⟨filteredLines, filteredContext.stretches⟩ ⟨⟨⟨4⟩⟩, ()⟩ := rfl
  have binds : Routine.filtered.bind default = _ := bind_of_no_declarations rfl rfl default
  exact ⟨_, Config.regenerate_unbounded binds lowers (by decide) (by decide)
    handlers_filteredContext⟩

/-- The region of the routine has its handler, which covers the nodes of the region. -/
theorem Config.handles_regenerate_filtered :
    ∃ g, (unbounded.regenerate (.ignoring : FlagsLowering Unit) .filtered default ()).result =
        .ok g ∧ g.body.handlers.size = 1 ∧
      ∃ h, g.body.handlers[0]? = some h ∧
        g.Handles unbounded Routine.filtered.graph
          ⟨1, .ofList [0], .ofList [2], .ofList [1], none⟩ h := by
  obtain ⟨g, finished⟩ := Routine.regenerate_filtered
  obtain ⟨size, each, _⟩ := handles_regenerate rfl FlagsLowering.ignoring_drawsLabels finished
  exact ⟨g, finished, size, each 0 _ rfl⟩

end Devirt
