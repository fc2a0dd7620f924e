import Devirt.Proofs.Lowering.Emission

/-!
# Stretches of a Listing

A listing grows by the code of one node at a time, and the code of a node is never empty, since it
starts with an anchor. So the stretches of the nodes tile the lines: each one starts where the one
before it stops. This does not depend on what statements are lowered to.

Main statements:
- `LowerContext.listing_induction`: induction on the nodes of a listing.
- `Listing.Tiled`, `LowerContext.tiled_listing`: the stretches of a listing tile its lines.
- `Listing.Tiled.mem_edges_iff`: the lines of successive nodes.
-/

namespace Devirt

open Stateful

/-! ## §1 Tilings -/

namespace Listing

/-- Position at which the code of a node starts, or would start. -/
def edge (l : Listing) : Nat → Nat
  | 0 => 0
  | node + 1 => (l.stretches[node]?.map Stretch.stop).getD l.lines.size

/-- The stretch is that of the given node: it starts where the one before it stops, with the anchor
    of the node, and ends with the line that it names. -/
structure Places (l : Listing) (node : Nat) (s : Stretch) : Prop where
  node_eq : s.node = node
  first_eq : s.first = Graph.anchorOf node
  /-- Nothing is between two stretches. -/
  start_eq : s.start = l.edge node
  start_lt : s.start < s.stop
  anchor : l.lines[s.start]? = some ⟨s.first, .anchor⟩
  last : l.lines[s.stop - 1]?.map Line.label = some s.last

/-- The stretches are those of the nodes in order, and together they are all lines. -/
structure Tiled (l : Listing) : Prop where
  /-- The stretches are in the order of the nodes. -/
  places : ∀ (node : Nat) (s : Stretch), l.stretches[node]? = some s → l.Places node s
  /-- The last stretch ends with the lines. -/
  total : l.edge l.stretches.size = l.lines.size

theorem tiled_empty : empty.Tiled := by
  constructor <;> simp [empty, edge]

variable {l : Listing}

theorem edge_succ {node : Nat} {s : Stretch} (here : l.stretches[node]? = some s) :
    l.edge (node + 1) = s.stop := by
  simp [edge, here]

/-- The first stretches start where they started before. -/
theorem edge_append {anchor : Label} {code : Array Line} {node : Nat}
    (le : node ≤ l.stretches.size) : (l.append anchor code).edge node = l.edge node := by
  -- an edge is where a stretch stops, and the earlier stretches are still there
  cases node with
  | zero => rfl
  | succ node =>
    have inside : node < l.stretches.size := le
    simp [edge, append, Array.getElem?_push_lt, inside]

theorem Places.append {node : Nat} {s : Stretch} (h : l.Places node s)
    (inside : node < l.stretches.size) (anchor : Label) (code : Array Line) :
    (l.append anchor code).Places node s where
  node_eq := h.node_eq
  first_eq := h.first_eq
  start_eq := by rw [edge_append (Nat.le_of_lt inside), h.start_eq]
  start_lt := h.start_lt
  anchor := by
    have within := (Array.getElem?_eq_some_iff.1 h.anchor).1
    rw [Listing.append, Array.getElem?_append_left within, h.anchor]
  last := by
    obtain ⟨line, there, _⟩ := Option.map_eq_some_iff.1 h.last
    have within := (Array.getElem?_eq_some_iff.1 there).1
    rw [Listing.append, Array.getElem?_append_left within, h.last]

/-- The listing with the code of one more node, of which the part behind the anchor is given. -/
def grow (l : Listing) (rest : Array Line) : Listing :=
  l.append (Graph.anchorOf l.stretches.size)
    (#[⟨Graph.anchorOf l.stretches.size, .anchor⟩] ++ rest)

theorem lines_grow (l : Listing) (rest : Array Line) : (l.grow rest).lines =
    l.lines ++ (#[⟨Graph.anchorOf l.stretches.size, .anchor⟩] ++ rest) := rfl

theorem size_stretches_grow (l : Listing) (rest : Array Line) :
    (l.grow rest).stretches.size = l.stretches.size + 1 :=
  Array.size_push _

/-- The new stretch takes up the new lines. -/
theorem getElem?_stretches_grow (l : Listing) (rest : Array Line) :
    ∃ s, (l.grow rest).stretches[l.stretches.size]? = some s ∧ s.node = l.stretches.size ∧
      s.first = Graph.anchorOf l.stretches.size ∧ s.start = l.lines.size ∧
      s.stop = l.lines.size + 1 + rest.size ∧
      (l.grow rest).lines[s.stop - 1]?.map Line.label = some s.last := by
  -- the code of a node is not empty, so its last line is the last one of the listing
  refine ⟨_, Array.getElem?_push_size, rfl, rfl, rfl, by simp [Nat.add_assoc], ?_⟩
  have behind : l.lines.size ≤ l.lines.size + (1 + rest.size) - 1 := by omega
  have last : l.lines.size + (1 + rest.size) - 1 - l.lines.size = 1 + rest.size - 1 := by omega
  rw [lines_grow, Array.size_append, Array.size_append, Array.size_singleton,
    Array.getElem?_append_right behind, last, Array.back?_eq_getElem?, Array.size_append,
    Array.size_singleton]
  obtain ⟨line, there⟩ : ∃ line, (#[⟨Graph.anchorOf l.stretches.size, .anchor⟩] ++
      rest)[1 + rest.size - 1]? = some line := ⟨_, Array.getElem?_eq_getElem (by simp)⟩
  rw [there]
  rfl

theorem places_grow (total : l.edge l.stretches.size = l.lines.size) (rest : Array Line)
    {s : Stretch} (here : (l.grow rest).stretches[l.stretches.size]? = some s) :
    (l.grow rest).Places l.stretches.size s := by
  obtain ⟨s', here', node, first, start, stop, last⟩ := l.getElem?_stretches_grow rest
  obtain rfl := Option.some.inj (here'.symm.trans here)
  -- the stretch starts at the old end of the lines, which is the edge of the next node
  refine ⟨node, first, ?_, by omega, ?_, last⟩
  · rw [grow, edge_append (Nat.le_refl _), start, total]
  · rw [lines_grow, start, first, Array.getElem?_append_right (Nat.le_refl _), Nat.sub_self,
      Array.getElem?_append_left (by simp)]
    rfl

/-- The code of one more node keeps the tiling. -/
theorem Tiled.grow (h : l.Tiled) (rest : Array Line) : (l.grow rest).Tiled := by
  refine ⟨fun node s here => ?_, ?_⟩
  -- earlier stretches stay, since lines are added at the end only
  · by_cases new : node = l.stretches.size
    · subst new
      exact places_grow h.total rest here
    · rw [Listing.grow, Listing.append, Array.getElem?_push, if_neg new] at here
      have inside := (Array.getElem?_eq_some_iff.1 here).1
      exact (h.places node s here).append inside _ _
  · obtain ⟨s, here, _, _, _, stop, _⟩ := l.getElem?_stretches_grow rest
    rw [size_stretches_grow, edge_succ here, stop, lines_grow]
    simp [Nat.add_assoc]

/-! ## §2 Lines of successive nodes -/

namespace Tiled

variable (h : l.Tiled)
include h

theorem edge_lt {node : Nat} (inside : node < l.stretches.size) :
    l.edge node < l.edge (node + 1) := by
  have here := Array.getElem?_eq_getElem inside
  have placed := h.places node _ here
  rw [edge_succ here, ← placed.start_eq]
  exact placed.start_lt

theorem edge_le {i j : Nat} (le : i ≤ j) (inside : j ≤ l.stretches.size) :
    l.edge i ≤ l.edge j := by
  induction le with
  | refl => exact Nat.le_refl _
  | step le ih => exact Nat.le_trans (ih (by omega)) (Nat.le_of_lt (h.edge_lt inside))

/-- Of two nodes, the later one starts at the later position. -/
theorem edge_lt_of_lt {i j : Nat} (lt : i < j) (inside : j ≤ l.stretches.size) :
    l.edge i < l.edge j :=
  Nat.lt_of_lt_of_le (h.edge_lt (Nat.lt_of_lt_of_le lt inside)) (h.edge_le lt inside)

/-- A position before the end of some node is in one of the nodes up to it. -/
theorem exists_edge_le {i j p : Nat} (le : i ≤ j) (inside : j ≤ l.stretches.size) :
    (l.edge i ≤ p ∧ p < l.edge j) ↔ ∃ k, i ≤ k ∧ k < j ∧ l.edge k ≤ p ∧ p < l.edge (k + 1) := by
  constructor
  · rintro ⟨above, below⟩
    -- on the number of nodes: the position is in the last one, or before it
    induction le with
    | refl => omega
    | @step j le ih =>
      by_cases earlier : p < l.edge j
      · obtain ⟨k, least, greatest, here⟩ := ih (by omega) earlier
        exact ⟨k, least, by omega, here⟩
      · exact ⟨j, le, Nat.lt_succ_self j, by omega, below⟩
  · rintro ⟨k, least, greatest, above, below⟩
    have first := h.edge_le least (by omega)
    have last := h.edge_le (i := k + 1) greatest inside
    exact ⟨by omega, by omega⟩

/-- The positions between the edges of an interval of nodes are those in the stretches of these
    nodes. -/
theorem mem_edges_iff {nodes : NodeSet} {first last p : Nat} (ordered : first ≤ last)
    (inside : last < l.stretches.size)
    (interval : ∀ node, node ∈ nodes.members ↔ first ≤ node ∧ node ≤ last) :
    (l.edge first ≤ p ∧ p < l.edge (last + 1)) ↔
      ∃ node ∈ nodes.members, ∃ s, l.stretches[node]? = some s ∧ s.start ≤ p ∧ p < s.stop := by
  rw [h.exists_edge_le (Nat.le_succ_of_le ordered) inside]
  constructor
  · rintro ⟨node, above, below, within⟩
    have known := Array.getElem?_eq_getElem (Nat.lt_of_lt_of_le below inside)
    rw [← (h.places node _ known).start_eq, edge_succ known] at within
    exact ⟨node, (interval node).2 ⟨above, Nat.le_of_lt_succ below⟩, _, known, within⟩
  · rintro ⟨node, mem, s, known, within⟩
    obtain ⟨above, below⟩ := (interval node).1 mem
    rw [(h.places node s known).start_eq, ← edge_succ known] at within
    exact ⟨node, above, Nat.lt_succ_of_le below, within⟩

/-- Different nodes start at different positions. -/
theorem edge_inj {i j : Nat} (insideI : i ≤ l.stretches.size) (insideJ : j ≤ l.stretches.size)
    (same : l.edge i = l.edge j) : i = j := by
  rcases Nat.lt_trichotomy i j with earlier | eq | later
  · exact absurd same (Nat.ne_of_lt (h.edge_lt_of_lt earlier insideJ))
  · exact eq
  · exact absurd same.symm (Nat.ne_of_lt (h.edge_lt_of_lt later insideI))

end Tiled

end Listing

/-! ## §3 Listings of graphs -/

namespace LowerContext

variable {σ : Type} {c : LowerContext σ} {g : Graph} {l : Listing} {s s' : Emission σ}

/-- What holds of the listing of no nodes, and is preserved by the code of each node, holds of the
    listing of a graph. There is a stretch for each node. -/
theorem listing_induction {P : Listing → Emission σ → Prop} (h : c.listing g s = .ok l s')
    (start : P .empty s)
    (step : ∀ l s node code s', node ∈ g.nodes → l.stretches.size < g.nodes.size → P l s →
      c.block (Graph.anchorOf l.stretches.size) node.block s = .ok code s' →
      P (l.append (Graph.anchorOf l.stretches.size) code) s') :
    P l s' ∧ l.stretches.size = g.nodes.size := by
  rw [listing, ← Array.foldlM_toList] at h
  -- the number of nodes done is the number of stretches, which numbers the next node
  have whole := foldlM_induction (P := fun done l s => P l s ∧ l.stretches.size = done.length) h
    ⟨start, rfl⟩ fun done node l s l' s' part before next => by
      obtain ⟨code, s₁, lowered, appended⟩ := bind_eq_ok.1 next
      obtain ⟨rfl, rfl⟩ := pure_eq_ok.1 appended
      have short := part.length_le
      rw [List.length_append, List.length_singleton, Array.length_toList] at short
      refine ⟨step l s node code s₁ ?_ (before.2 ▸ short) before.1 lowered, ?_⟩
      · exact Array.mem_toList_iff.1 (part.subset (by simp))
      · simp [Listing.append, before.2]
  exact whole

/-- The code of a block starts with the anchor. -/
theorem block_eq_ok {anchor : Label} {statements : Block} {code : Array Line}
    (h : c.block anchor statements s = .ok code s') :
    ∃ rest, code = #[⟨anchor, .anchor⟩] ++ rest := by
  -- what statements are lowered to does not matter here, so nothing is asked of it
  have ⟨rest, same, _⟩ := block_of_statements (R := fun _ _ _ => True) (fun _ => trivial)
    (fun _ _ _ _ _ _ _ => trivial) (fun _ _ _ _ _ _ => trivial) h
  exact ⟨rest, same⟩

/-- The stretches of a listing tile its lines, and there is one for each node. -/
theorem tiled_listing (h : c.listing g s = .ok l s') :
    l.Tiled ∧ l.stretches.size = g.nodes.size := by
  refine listing_induction (P := fun l _ => l.Tiled) h Listing.tiled_empty ?_
  intro l s node code s' _ _ tiled lowered
  obtain ⟨rest, rfl⟩ := block_eq_ok lowered
  exact tiled.grow rest

end LowerContext

end Devirt
