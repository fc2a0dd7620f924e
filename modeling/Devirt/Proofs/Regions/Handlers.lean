import Devirt.Proofs.Body.Resolution
import Devirt.Proofs.Lowering.Stretches
import Devirt.Proofs.Regions.Contiguity

/-!
# Handlers of Regions

A range of a handler starts at the anchor of its first node and ends with the line behind its last
one. If no two lines carry the same label, then these labels resolve to the edges of the stretches
of the two nodes, and the lines between the edges are exactly those of the nodes between the two.
Relaxation does not matter here: it changes offsets, and the line behind another one is found by
offset, but it is still the line at the next position.

Main statements:
- `Body.Covers`: a range of lines is that of a set of nodes.
- `RegionContext.edges_of_span`: the labels of a range resolve to the edges of its nodes.
- `RegionContext.handlers_eq_ok`: there is one handler for each region.
-/

namespace Devirt

/-! ## §1 Positions of stretches -/

namespace Listing.Tiled

variable {l : Listing} {b : Body} {node : Nat} {s : Stretch}

/-- The label that a stretch starts with resolves to its first position. -/
theorem position?_first (tiled : l.Tiled) (lines : b.lines = l.lines.toList)
    (distinct : DistinctLabels b.lines) (here : l.stretches[node]? = some s) :
    b.position? s.first = some s.start := by
  rw [Body.position?_eq_some_iff_of_distinct distinct, lines, Array.getElem?_toList,
    (tiled.places node s here).anchor]
  rfl

/-- Without repeated labels, the anchor of a node resolves to the position where its code starts. -/
theorem position?_anchor (tiled : l.Tiled) (lines : b.lines = l.lines.toList)
    (distinct : DistinctLabels b.lines) (inside : node < l.stretches.size) :
    b.position? (Graph.anchorOf node) = some (l.edge node) := by
  have here := Array.getElem?_eq_getElem inside
  have placed := tiled.places node _ here
  rw [← placed.first_eq, ← placed.start_eq]
  exact tiled.position?_first lines distinct here

/-- The anchors of the nodes are lines. -/
theorem exists_position?_anchor (tiled : l.Tiled) (lines : b.lines = l.lines.toList)
    (inside : node < l.stretches.size) : ∃ i, b.position? (Graph.anchorOf node) = some i := by
  have here := Array.getElem?_eq_getElem inside
  have placed := tiled.places node _ here
  have anchor := placed.anchor
  rw [placed.first_eq, ← Array.getElem?_toList, ← lines] at anchor
  -- labels may repeat here, so all that is known is that the label is not absent
  rw [← Option.isSome_iff_exists, Option.isSome_iff_ne_none, ne_eq, Body.position?_eq_none_iff,
    Decidable.not_not]
  exact List.mem_map.2 ⟨_, List.mem_of_getElem? anchor, rfl⟩

/-- The label that a stretch ends with resolves to its last position. -/
theorem position?_last (tiled : l.Tiled) (lines : b.lines = l.lines.toList)
    (distinct : DistinctLabels b.lines) (here : l.stretches[node]? = some s) :
    b.position? s.last = some (s.stop - 1) := by
  rw [Body.position?_eq_some_iff_of_distinct distinct, lines, Array.getElem?_toList]
  exact (tiled.places node s here).last

/-- The line behind the last one of a stretch is the one at the position where the stretch stops. -/
theorem following?_last (tiled : l.Tiled) (lines : b.lines = l.lines.toList)
    (distinct : DistinctLabels b.lines) (here : l.stretches[node]? = some s) {label : Label}
    (next : b.following? s.last = some label) : b.position? label = some s.stop := by
  have nonempty := (tiled.places node s here).start_lt
  -- the position behind the last one of a stretch is where the stretch stops
  rw [Body.following?_eq, tiled.position?_last lines distinct here, Option.bind_some,
    Nat.sub_add_cancel (Nat.lt_of_le_of_lt (Nat.zero_le _) nonempty)] at next
  exact (Body.position?_eq_some_iff_of_distinct distinct).2 next

end Listing.Tiled

/-! ## §2 Ranges of nodes -/

/-- The labels of the range resolve to positions, and the lines from the first to the second are
    exactly those in the stretches of the nodes. There is at least one. -/
def Body.Covers (b : Body) (stretches : Array Stretch) (span : Span) (nodes : NodeSet) : Prop :=
  ∃ start stop, b.position? span.start = some start ∧ b.position? span.stop = some stop ∧
    start < stop ∧ ∀ p, start ≤ p ∧ p < stop ↔
      ∃ node ∈ nodes.members, ∃ s, stretches[node]? = some s ∧ s.start ≤ p ∧ p < s.stop

namespace RegionContext

variable {c : RegionContext}

theorem stretch_eq_ok {node : Nat} {s : Stretch} :
    c.stretch node = .ok s ↔ c.stretches[node]? = some s := by
  unfold stretch
  cases c.stretches[node]? <;> simp

/-- A range starts where the first node starts, and stops behind the last line of the last one. -/
theorem span_eq_ok {region : Nat} {part : RegionPart} {nodes : NodeSet} {span : Span} :
    c.span region part nodes = .ok span ↔ ∃ first last s s',
      c.boundaries region part nodes = .ok (first, last) ∧ c.stretches[first]? = some s ∧
      c.stretches[last]? = some s' ∧ span.start = s.first ∧
      c.body.following? s'.last = some span.stop := by
  -- boundaries, two stretches and a following line, in the order in which they are asked for
  constructor
  · intro h
    obtain ⟨⟨first, last⟩, bounded, h⟩ := Fallible.bind_eq_ok.1 h
    obtain ⟨s, here, h⟩ := Fallible.bind_eq_ok.1 h
    obtain ⟨s', there, h⟩ := Fallible.bind_eq_ok.1 h
    split at h
    next stop next =>
      obtain rfl := Fallible.pure_eq_ok.1 h
      exact ⟨first, last, s, s', bounded, stretch_eq_ok.1 here, stretch_eq_ok.1 there, rfl, next⟩
    next => cases h
  · rintro ⟨first, last, s, s', bounded, here, there, start, next⟩
    refine Fallible.bind_eq_ok.2 ⟨(first, last), bounded, ?_⟩
    refine Fallible.bind_eq_ok.2 ⟨s, stretch_eq_ok.2 here, ?_⟩
    refine Fallible.bind_eq_ok.2 ⟨s', stretch_eq_ok.2 there, ?_⟩
    simp only [next, ← start]
    rfl

/-- The labels of a range resolve to the edges of the first and the last node. -/
theorem edges_of_span {l : Listing} (tiled : l.Tiled) (stretches : c.stretches = l.stretches)
    (lines : c.body.lines = l.lines.toList) (distinct : DistinctLabels c.body.lines) {region : Nat}
    {part : RegionPart} {nodes : NodeSet} {span : Span} (h : c.span region part nodes = .ok span) :
    ∃ first last, c.boundaries region part nodes = .ok (first, last) ∧ last < l.stretches.size ∧
      c.body.position? span.start = some (l.edge first) ∧
      c.body.position? span.stop = some (l.edge (last + 1)) := by
  obtain ⟨first, last, s, s', bounded, here, there, start, next⟩ := span_eq_ok.1 h
  rw [stretches] at here there
  refine ⟨first, last, bounded, (Array.getElem?_eq_some_iff.1 there).1, ?_, ?_⟩
  · rw [start, ← (tiled.places first s here).start_eq]
    exact tiled.position?_first lines distinct here
  · rw [Listing.edge_succ there]
    exact tiled.following?_last lines distinct there next

/-! ## §3 Handlers -/

/-- A filter starts at the anchor of its first node. -/
theorem filterStart_eq_ok {l : Listing} (tiled : l.Tiled) (stretches : c.stretches = l.stretches)
    {region : Nat} {nodes : NodeSet} {label : Label} (h : c.filterStart region nodes = .ok label) :
    ∃ first last, c.boundaries region .filter nodes = .ok (first, last) ∧
      label = Graph.anchorOf first := by
  unfold filterStart at h
  split at h
  next => cases h
  next =>
    obtain ⟨⟨first, last⟩, bounded, h⟩ := Fallible.bind_eq_ok.1 h
    obtain ⟨s, here, h⟩ := Fallible.bind_eq_ok.1 h
    obtain rfl := Fallible.pure_eq_ok.1 h
    rw [stretch_eq_ok, stretches] at here
    exact ⟨first, last, bounded, (tiled.places first s here).first_eq⟩

/-- The parts of a handler, each of which succeeded. -/
theorem handler_eq_ok {index : Nat} {r : Region} {h : Handler} (ok : c.handler index r = .ok h) :
    c.config.machine.kindOf r.tag = some h.kind ∧ c.span index .guarded r.guarded = .ok h.guarded ∧
      c.span index .handler r.handler = .ok h.handler ∧
      (if h.kind = .filter then
        ∃ start, c.filterStart index r.filter = .ok start ∧ h.filterStart = some start
      else h.filterStart = none) ∧
      h.catchType = if h.kind = .typed then r.catchType else none := by
  unfold handler at ok
  split at ok
  next kind known =>
    obtain ⟨guarded, guards, ok⟩ := Fallible.bind_eq_ok.1 ok
    obtain ⟨handles, handled, ok⟩ := Fallible.bind_eq_ok.1 ok
    -- only handlers of the filtering kind have the start of a filter resolved
    dsimp only at ok
    split at ok
    next filter =>
      obtain ⟨_, mapped, ok⟩ := Fallible.bind_eq_ok.1 ok
      obtain ⟨start, filters, rfl⟩ := Fallible.map_eq_ok.1 mapped
      obtain rfl := Fallible.pure_eq_ok.1 ok
      exact ⟨known, guards, handled, by rw [if_pos filter]; exact ⟨start, filters, rfl⟩, rfl⟩
    next noFilter =>
      obtain rfl := Fallible.pure_eq_ok.1 ok
      exact ⟨known, guards, handled, by rw [if_neg noFilter], rfl⟩
  next => cases ok

/-- There is one handler for each region, in the order of the regions. -/
theorem handlers_eq_ok {handlers : Array Handler} (ok : c.handlers = .ok handlers) :
    handlers.size = c.graph.regions.size ∧
      ∀ (k : Nat) (r : Region), c.graph.regions[k]? = some r →
        ∃ h, handlers[k]? = some h ∧ c.handler k r = .ok h := by
  unfold RegionContext.handlers at ok
  rw [← Array.foldlM_toList] at ok
  have all := Fallible.foldlM_induction (P := fun done handlers => handlers.size = done.length ∧
    ∀ (k : Nat) (r : Region), done[k]? = some r →
      ∃ h, handlers[k]? = some h ∧ c.handler k r = .ok h) ok (by simp) ?_
  · simpa using all
  rintro done r handlers _ ⟨size, each⟩ step
  obtain ⟨h, resolved, pushed⟩ := Fallible.bind_eq_ok.1 step
  obtain rfl := Fallible.pure_eq_ok.1 pushed
  refine ⟨by simp [size], fun k r' here => ?_⟩
  -- the handler at the end is that of the region at the end
  by_cases new : k = handlers.size
  · subst new
    rw [size, List.getElem?_concat_length] at here
    obtain rfl := Option.some.inj here
    exact ⟨h, Array.getElem?_push_size, resolved⟩
  · have inside := (List.getElem?_eq_some_iff.1 here).1
    rw [List.length_append, List.length_singleton] at inside
    rw [List.getElem?_append_left (by omega)] at here
    rw [Array.getElem?_push, if_neg new]
    exact each k r' here

end RegionContext

end Devirt
