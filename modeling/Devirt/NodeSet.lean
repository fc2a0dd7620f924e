/-!
# Sets of Nodes

A set of nodes of a control-flow graph, kept as the increasing list of their numbers. The order is
an invariant of the type, so the first member is the least one and the last the greatest.
-/

namespace Devirt

/-- Put a number into an increasing list, unless it is there. -/
def insertIncreasing (n : Nat) : List Nat → List Nat
  | [] => [n]
  | m :: rest =>
    if n < m then n :: m :: rest
    else if n = m then m :: rest
    else m :: insertIncreasing n rest

theorem mem_insertIncreasing {n k : Nat} {ns : List Nat} :
    k ∈ insertIncreasing n ns ↔ k = n ∨ k ∈ ns := by
  induction ns with
  | nil => simp [insertIncreasing]
  | cons m rest ih =>
    unfold insertIncreasing
    split
    · simp
    · split
      next h => simp [h]
      next => simp only [List.mem_cons, ih]; exact or_left_comm

theorem insertIncreasing_pairwise {n : Nat} {ns : List Nat} (h : ns.Pairwise (· < ·)) :
    (insertIncreasing n ns).Pairwise (· < ·) := by
  induction ns with
  | nil => simp [insertIncreasing]
  | cons m rest ih =>
    obtain ⟨least, increasing⟩ := List.pairwise_cons.1 h
    unfold insertIncreasing
    split
    next below =>
      refine List.pairwise_cons.2 ⟨fun k mem => ?_, h⟩
      rcases List.mem_cons.1 mem with rfl | mem
      · exact below
      · exact Nat.lt_trans below (least k mem)
    next notBelow =>
      split
      next => exact h
      next different =>
        refine List.pairwise_cons.2 ⟨fun k mem => ?_, ih increasing⟩
        rcases mem_insertIncreasing.1 mem with rfl | mem
        · omega
        · exact least k mem

/-- A set of nodes. -/
structure NodeSet where
  /-- The numbers of the nodes. -/
  members : List Nat
  /-- The numbers are in increasing order, without repetition. -/
  increasing : members.Pairwise (· < ·)

namespace NodeSet

/-- The set of no nodes. -/
def empty : NodeSet := ⟨[], .nil⟩

instance : Inhabited NodeSet := ⟨empty⟩

/-- The set with one more node. -/
def insert (s : NodeSet) (n : Nat) : NodeSet :=
  ⟨insertIncreasing n s.members, insertIncreasing_pairwise s.increasing⟩

/-- The set of the nodes in a list. -/
def ofList (ns : List Nat) : NodeSet :=
  ns.foldl insert empty

/-- Is the node in the set? -/
def contains (s : NodeSet) (n : Nat) : Bool :=
  s.members.contains n

/-- Number of nodes in the set. -/
def size (s : NodeSet) : Nat :=
  s.members.length

theorem mem_members_insert {s : NodeSet} {n k : Nat} :
    k ∈ (s.insert n).members ↔ k = n ∨ k ∈ s.members :=
  mem_insertIncreasing

/-- A set made from a list has the members of the list. -/
theorem mem_members_ofList {ns : List Nat} {k : Nat} : k ∈ (ofList ns).members ↔ k ∈ ns := by
  -- inserting into any set, since the set grows along the list
  have step : ∀ (ns : List Nat) (s : NodeSet),
      k ∈ (ns.foldl insert s).members ↔ k ∈ ns ∨ k ∈ s.members := by
    intro ns
    induction ns with
    | nil => simp
    | cons n ns ih =>
      intro s
      simp only [List.foldl_cons, ih, mem_members_insert, List.mem_cons]
      constructor
      · rintro (h | h | h) <;> simp [h]
      · rintro ((h | h) | h) <;> simp [h]
  simp [ofList, step, empty]

end NodeSet

end Devirt
