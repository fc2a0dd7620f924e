import Devirt.Proofs.Regions.Boundaries

/-!
# Contiguous Regions

Two orders meet in a set of nodes: that of the offsets in the code of the virtual machine, and that
of the numbers, which is the order of the layout. A set is contiguous if it is an interval of
numbers whose ends are ends by offset as well; in between, the offsets may be in any order. With the
check switched on, boundaries are found exactly for contiguous sets. Without it, they are the first
and the last node by offset, where the numbers decide between equal offsets.

Main statements:
- `RegionContext.landmarks_eq_error_iff`: a node that the graph does not have is found out first.
- `RegionContext.boundaries_eq`: what happens with a set of nodes of the graph.
- `RegionContext.boundaries_eq_ok`: what is known about boundaries that have passed the check.
- `RegionContext.boundaries_exact`: the outcome for every set, with and without the check.
-/

namespace Devirt

namespace Graph

variable {g : Graph} {nodes : NodeSet}

/-! ## §1 Nodes by offset -/

/-- The node is the least one of the set that the graph does not have. -/
structure IsFirstUnknown (g : Graph) (nodes : NodeSet) (node : Nat) : Prop where
  mem : node ∈ nodes.members
  unknown : g.nodes.size ≤ node
  least : ∀ other ∈ nodes.members, g.nodes.size ≤ other → node ≤ other

/-- The graph has all nodes of the set. -/
def Knows (g : Graph) (nodes : NodeSet) : Prop :=
  ∀ node ∈ nodes.members, node < g.nodes.size

/-- No node of the set has a smaller offset than the given node of the graph. -/
def HasLeastOffset (g : Graph) (nodes : NodeSet) (node : Nat) : Prop :=
  ∃ n, g.nodes[node]? = some n ∧
    ∀ other ∈ nodes.members, ∀ n', g.nodes[other]? = some n' → n.offset ≤ n'.offset

/-- No node of the set has a larger offset than the given node of the graph. -/
def HasGreatestOffset (g : Graph) (nodes : NodeSet) (node : Nat) : Prop :=
  ∃ n, g.nodes[node]? = some n ∧
    ∀ other ∈ nodes.members, ∀ n', g.nodes[other]? = some n' → n'.offset ≤ n.offset

/-- The node is the least one among the nodes of the set with the smallest offset. -/
structure IsEarliest (g : Graph) (nodes : NodeSet) (node : Nat) : Prop where
  mem : node ∈ nodes.members
  offset : g.HasLeastOffset nodes node
  least : ∀ other ∈ nodes.members, g.HasLeastOffset nodes other → node ≤ other

/-- The node is the greatest one among the nodes of the set with the largest offset. -/
structure IsLatest (g : Graph) (nodes : NodeSet) (node : Nat) : Prop where
  mem : node ∈ nodes.members
  offset : g.HasGreatestOffset nodes node
  greatest : ∀ other ∈ nodes.members, g.HasGreatestOffset nodes other → other ≤ node

/-- The set is all numbers between two nodes, which are its ends by offset as well. -/
structure IsContiguous (g : Graph) (nodes : NodeSet) (lowest highest : Nat) : Prop where
  ordered : lowest ≤ highest
  mem_iff : ∀ node, node ∈ nodes.members ↔ lowest ≤ node ∧ node ≤ highest
  first : g.HasLeastOffset nodes lowest
  last : g.HasGreatestOffset nodes highest

/-- A contiguous set starts with its earliest node and ends with its latest one. -/
theorem IsContiguous.eq {lowest highest first last : Nat}
    (h : g.IsContiguous nodes lowest highest) (earliest : g.IsEarliest nodes first)
    (latest : g.IsLatest nodes last) : lowest = first ∧ highest = last := by
  -- both ends of the interval are in the set, and both extreme nodes are in the interval
  have low := (h.mem_iff lowest).2 ⟨Nat.le_refl _, h.ordered⟩
  have high := (h.mem_iff highest).2 ⟨h.ordered, Nat.le_refl _⟩
  have above := ((h.mem_iff first).1 earliest.mem).1
  have below := ((h.mem_iff last).1 latest.mem).2
  exact ⟨Nat.le_antisymm above (earliest.least lowest low h.first),
    Nat.le_antisymm (latest.greatest highest high h.last) below⟩

end Graph

namespace RegionContext

variable {c : RegionContext} {nodes : NodeSet} {landmark : Landmark} {landmarks : List Landmark}

/-! ## §2 Landmarks of a set -/

/-- The landmarks of a set are those of its members. -/
theorem mem_landmarks_iff (found : c.landmarks nodes = .ok landmarks) {l : Landmark} :
    l ∈ landmarks ↔
      l.node ∈ nodes.members ∧ ∃ n, c.graph.nodes[l.node]? = some n ∧ n.offset = l.offset := by
  obtain ⟨numbers, known⟩ := landmarks_eq_ok found
  rw [← numbers, List.mem_map]
  constructor
  · intro mem
    exact ⟨⟨l, mem, rfl⟩, known l mem⟩
  · rintro ⟨⟨l', mem, same⟩, n, here, offset⟩
    -- a node has one offset only
    obtain ⟨n', here', offset'⟩ := known l' mem
    rw [same, here] at here'
    obtain rfl := Option.some.inj here'
    obtain rfl : l' = l := by
      cases l
      cases l'
      simp_all
    exact mem

/-- The earliest landmark is that of the earliest node. -/
theorem isEarliest_foldl_earlier (found : c.landmarks nodes = .ok (landmark :: landmarks)) :
    c.graph.IsEarliest nodes (landmarks.foldl Landmark.earlier landmark).node := by
  obtain ⟨mem, precedes⟩ := Landmark.foldl_earlier_spec (landmarks_pairwise found)
  obtain ⟨inside, n, here, offset⟩ := (mem_landmarks_iff found).1 mem
  -- no node of the set comes before the landmark in the order of the search
  have leads : ∀ other ∈ nodes.members, ∀ n', c.graph.nodes[other]? = some n' →
      (landmarks.foldl Landmark.earlier landmark).Precedes ⟨n'.offset, other⟩ :=
    fun other inside n' there =>
      precedes _ ((mem_landmarks_iff found).2 ⟨inside, n', there, rfl⟩)
  refine ⟨inside, ⟨n, here, fun other inside n' there => ?_⟩, ?_⟩
  · rw [offset]
    exact (leads other inside n' there).offset_le
  -- another node with the smallest offset comes behind by its number
  · rintro other inside' ⟨n', there, least⟩
    refine (leads other inside' n' there).node_le ?_
    rw [← offset]
    exact least _ inside n here

/-- The latest landmark is that of the latest node. -/
theorem isLatest_foldl_later (found : c.landmarks nodes = .ok (landmark :: landmarks)) :
    c.graph.IsLatest nodes (landmarks.foldl Landmark.later landmark).node := by
  obtain ⟨mem, precedes⟩ := Landmark.foldl_later_spec (landmarks_pairwise found)
  obtain ⟨inside, n, here, offset⟩ := (mem_landmarks_iff found).1 mem
  have trails : ∀ other ∈ nodes.members, ∀ n', c.graph.nodes[other]? = some n' →
      Landmark.Precedes ⟨n'.offset, other⟩ (landmarks.foldl Landmark.later landmark) :=
    fun other inside n' there =>
      precedes _ ((mem_landmarks_iff found).2 ⟨inside, n', there, rfl⟩)
  refine ⟨inside, ⟨n, here, fun other inside n' there => ?_⟩, ?_⟩
  · rw [offset]
    exact (trails other inside n' there).offset_le
  -- another node with the largest offset comes before by its number
  · rintro other inside' ⟨n', there, greatest⟩
    refine (trails other inside' n' there).node_le ?_
    rw [← offset]
    exact greatest _ inside n here

/-- Looking for landmarks fails at the first node that the graph does not have. -/
theorem fault?_landmarks (c : RegionContext) (nodes : NodeSet) :
    Fallible.fault? (c.landmarks nodes) = nodes.members.findSome? fun node =>
      if c.graph.nodes.size ≤ node then some (.unknownNode node) else none := by
  rw [landmarks, Fallible.fault?_mapM]
  congr 1
  funext node
  -- a node is told exactly if the graph does not have it
  by_cases unknown : c.graph.nodes.size ≤ node
  · simp [unknown, Fallible.fault?]
  · simp [unknown, Fallible.fault?, Nat.not_le.1 unknown]

/-- The landmarks of a set are not found exactly if the graph does not have a node of the set. The
    least one of these is told. -/
theorem landmarks_eq_error_iff {e : LowerError} : c.landmarks nodes = .error e ↔
    ∃ node, c.graph.IsFirstUnknown nodes node ∧ e = .unknownNode node := by
  rw [← Fallible.fault?_eq_some_iff, fault?_landmarks, List.findSome?_eq_some_iff]
  have increasing := nodes.increasing
  constructor
  · rintro ⟨before, node, behind, members, failed, known⟩
    -- the graph has the members before the node, and those behind it are greater
    rw [members] at increasing
    split at failed
    next unknown =>
      obtain rfl := Option.some.inj failed
      refine ⟨node, ⟨by simp [members], unknown, fun other mem unknown' => ?_⟩, rfl⟩
      rw [members, List.mem_append, List.mem_cons] at mem
      rcases mem with mem | rfl | mem
      · simpa [unknown'] using known other mem
      · exact Nat.le_refl _
      · exact Nat.le_of_lt ((List.pairwise_cons.1 (List.pairwise_append.1 increasing).2.1).1 _ mem)
    next => cases failed
  · rintro ⟨node, ⟨mem, unknown, least⟩, rfl⟩
    -- members are in increasing order, so those before the least unknown node are known
    obtain ⟨before, behind, members⟩ := List.append_of_mem mem
    rw [members] at increasing
    refine ⟨before, node, behind, members, if_pos unknown, fun other inside => if_neg fun h => ?_⟩
    have below := (List.pairwise_append.1 increasing).2.2 other inside node List.mem_cons_self
    exact absurd (least other (by simp [members, inside]) h) (Nat.not_le.2 below)

/-- The landmarks of a set are found if the graph has all nodes of the set. -/
theorem exists_landmarks (known : c.graph.Knows nodes) :
    ∃ landmarks, c.landmarks nodes = .ok landmarks := by
  cases outcome : c.landmarks nodes with
  | ok landmarks => exact ⟨landmarks, rfl⟩
  | error e =>
    obtain ⟨node, ⟨mem, unknown, _⟩, _⟩ := landmarks_eq_error_iff.1 outcome
    exact absurd (known node mem) (Nat.not_lt.2 unknown)

/-! ## §3 Outcomes -/

variable {region : Nat} {part : RegionPart}

/-- A node that the graph does not have is found out whatever else is the matter. -/
theorem boundaries_eq_unknownNode_iff {node : Nat} :
    c.boundaries region part nodes = .error (.unknownNode node) ↔
      c.graph.IsFirstUnknown nodes node := by
  unfold boundaries
  rw [Fallible.bind_eq_error, landmarks_eq_error_iff]
  constructor
  · rintro (⟨node', first, same⟩ | ⟨landmarks, found, failed⟩)
    · rw [LowerError.unknownNode.inj same]
      exact first
    · split at failed
      next => cases failed
      next =>
        -- once the landmarks are found, only gaps are complained about
        dsimp only at failed
        split at failed <;> cases failed
  · intro first
    exact .inl ⟨node, first, rfl⟩

theorem boundaries_of_empty (empty : nodes.members = []) :
    c.boundaries region part nodes = .error (.emptyRegion region part) := by
  unfold boundaries landmarks
  rw [empty]
  rfl

/-- The boundaries of a set of nodes of the graph are its earliest and its latest node, unless they
    are refused for gaps. -/
theorem boundaries_eq (region : Nat) (part : RegionPart) (known : c.graph.Knows nodes)
    (nonempty : nodes.members ≠ []) :
    ∃ first last, c.graph.IsEarliest nodes first ∧ c.graph.IsLatest nodes last ∧
      c.boundaries region part nodes =
        if c.config.checkContiguity && isContiguous? nodes first last != some true then
          .error (.scatteredRegion region part)
        else .ok (first, last) := by
  obtain ⟨landmarks, found⟩ := exists_landmarks known
  -- a set that is not empty has a first landmark, from which the search starts
  cases landmarks with
  | nil => exact absurd (landmarks_eq_ok found).1.symm nonempty
  | cons landmark rest =>
    refine ⟨_, _, isEarliest_foldl_earlier found, isLatest_foldl_later found, ?_⟩
    unfold boundaries
    rw [found, Fallible.ok_bind]
    dsimp only
    split <;> rfl

/-- The check accepts the earliest and the latest node of a set exactly if the set is contiguous. -/
theorem isContiguous?_iff_of_isEarliest {first last : Nat}
    (earliest : c.graph.IsEarliest nodes first) (latest : c.graph.IsLatest nodes last) :
    isContiguous? nodes first last = some true ↔ c.graph.IsContiguous nodes first last := by
  rw [NodeSet.isContiguous?_eq_true_iff]
  constructor
  · rintro ⟨ordered, interval⟩
    exact ⟨ordered, interval, earliest.offset, latest.offset⟩
  · intro h
    exact ⟨h.ordered, h.mem_iff⟩

/-- With the check, boundaries of a set of nodes of the graph are found exactly if it is contiguous,
    and then they are its ends. -/
theorem boundaries_of_checks (checks : c.config.checkContiguity = true)
    (known : c.graph.Knows nodes) (nonempty : nodes.members ≠ []) :
    (c.boundaries region part nodes = .error (.scatteredRegion region part) ↔
      ¬∃ lowest highest, c.graph.IsContiguous nodes lowest highest) ∧
    ∀ lowest highest, c.boundaries region part nodes = .ok (lowest, highest) ↔
      c.graph.IsContiguous nodes lowest highest := by
  obtain ⟨first, last, earliest, latest, outcome⟩ := boundaries_eq region part known nonempty
  have accepted := isContiguous?_iff_of_isEarliest earliest latest
  simp only [checks, Bool.true_and, bne_iff_ne] at outcome
  -- a contiguous set has no other ends than its earliest and its latest node
  have ends {lowest highest : Nat} (h : c.graph.IsContiguous nodes lowest highest) :=
    h.eq earliest latest
  by_cases contiguous : c.graph.IsContiguous nodes first last
  · rw [if_neg (not_not.2 (accepted.2 contiguous))] at outcome
    rw [outcome]
    refine ⟨⟨nofun, fun none => absurd ⟨first, last, contiguous⟩ none⟩, fun lowest highest => ?_⟩
    constructor
    · rintro ⟨⟩
      exact contiguous
    · intro h
      obtain ⟨rfl, rfl⟩ := ends h
      rfl
  · have none : ¬∃ lowest highest, c.graph.IsContiguous nodes lowest highest := by
      rintro ⟨lowest, highest, h⟩
      obtain ⟨rfl, rfl⟩ := ends h
      exact contiguous h
    rw [if_pos (mt accepted.1 contiguous)] at outcome
    rw [outcome]
    exact ⟨⟨fun _ => none, fun _ => rfl⟩, fun lowest highest =>
      ⟨nofun, fun h => absurd ⟨lowest, highest, h⟩ none⟩⟩

/-- Without the check, the boundaries of a set of nodes of the graph are its earliest and its latest
    node. -/
theorem boundaries_of_not_checks (unchecked : c.config.checkContiguity = false)
    (known : c.graph.Knows nodes) (nonempty : nodes.members ≠ []) :
    ∃ first last, c.boundaries region part nodes = .ok (first, last) ∧
      c.graph.IsEarliest nodes first ∧ c.graph.IsLatest nodes last := by
  obtain ⟨first, last, earliest, latest, outcome⟩ := boundaries_eq region part known nonempty
  rw [unchecked, Bool.false_and, if_neg Bool.false_ne_true] at outcome
  exact ⟨first, last, outcome, earliest, latest⟩

/-- Boundaries are found only for sets of nodes of the graph that are not empty. -/
theorem knows_of_boundaries {first last : Nat}
    (h : c.boundaries region part nodes = .ok (first, last)) :
    c.graph.Knows nodes ∧ nodes.members ≠ [] := by
  constructor
  · obtain ⟨landmarks, found, _⟩ := Fallible.bind_eq_ok.1 h
    intro node mem
    rw [← (landmarks_eq_ok found).1] at mem
    obtain ⟨l, inside, rfl⟩ := List.mem_map.1 mem
    -- every node has its landmark, so the graph has it
    obtain ⟨_, n, here, _⟩ := (mem_landmarks_iff found).1 inside
    exact (Array.getElem?_eq_some_iff.1 here).1
  · intro empty
    rw [boundaries_of_empty empty] at h
    cases h

/-- The node is the one of the set with the smallest number and with the smallest offset. -/
def IsLowest (graph : Graph) (nodes : NodeSet) (node : Nat) : Prop :=
  node ∈ nodes.members ∧ ∃ n, graph.nodes[node]? = some n ∧
    ∀ other ∈ nodes.members, node ≤ other ∧
      ∃ n', graph.nodes[other]? = some n' ∧ n.offset ≤ n'.offset

/-- If gaps are checked for, the set is the interval between its boundaries, and the first one is
    lowest in both orders. -/
theorem boundaries_eq_ok {first last : Nat} (checks : c.config.checkContiguity = true)
    (h : c.boundaries region part nodes = .ok (first, last)) :
    first ≤ last ∧ (∀ node, node ∈ nodes.members ↔ first ≤ node ∧ node ≤ last) ∧
      IsLowest c.graph nodes first := by
  obtain ⟨known, nonempty⟩ := knows_of_boundaries h
  have contiguous := ((boundaries_of_checks checks known nonempty).2 first last).1 h
  obtain ⟨n, here, least⟩ := contiguous.first
  have mem := (contiguous.mem_iff first).2 ⟨Nat.le_refl _, contiguous.ordered⟩
  refine ⟨contiguous.ordered, contiguous.mem_iff, mem, n, here, fun other inside => ?_⟩
  have there := Array.getElem?_eq_getElem (known other inside)
  exact ⟨((contiguous.mem_iff other).1 inside).1, _, there, least other inside _ there⟩

/-- Boundaries of a set are found exactly for sets of nodes of the graph that are not empty and, if
    that is checked, contiguous. The least unknown node is told first, then that the set is empty,
    then that it is not contiguous. The boundaries are the ends of a contiguous set, and the
    earliest and the latest node if nothing is checked. The check never asks for a distance that
    does not exist: where it subtracts the first node from the last one, the difference is not
    negative. -/
theorem boundaries_exact (c : RegionContext) (region : Nat) (part : RegionPart)
    (nodes : NodeSet) :
    (∀ node, c.boundaries region part nodes = .error (.unknownNode node) ↔
      c.graph.IsFirstUnknown nodes node) ∧
    (c.graph.Knows nodes →
      (c.boundaries region part nodes = .error (.emptyRegion region part) ↔ nodes.members = []) ∧
      (nodes.members ≠ [] → c.config.checkContiguity = true →
        (c.boundaries region part nodes = .error (.scatteredRegion region part) ↔
          ¬∃ lowest highest, c.graph.IsContiguous nodes lowest highest) ∧
        ∀ lowest highest, c.boundaries region part nodes = .ok (lowest, highest) ↔
          c.graph.IsContiguous nodes lowest highest) ∧
      (nodes.members ≠ [] → c.config.checkContiguity = false →
        ∃ first last, c.boundaries region part nodes = .ok (first, last) ∧
          c.graph.IsEarliest nodes first ∧ c.graph.IsLatest nodes last)) ∧
    ∀ first last, (∃ answer, isContiguous? nodes first last = some answer) ∧
      ((nodes.members.head? == some first && nodes.members.getLast? == some last) = true →
        first ≤ last) := by
  refine ⟨fun node => boundaries_eq_unknownNode_iff, fun known => ⟨⟨?_, boundaries_of_empty⟩,
    fun nonempty checks => boundaries_of_checks checks known nonempty,
    fun nonempty unchecked => boundaries_of_not_checks unchecked known nonempty⟩, ?_⟩
  · intro failed
    by_contra nonempty
    obtain ⟨first, last, _, _, outcome⟩ := boundaries_eq region part known nonempty
    rw [outcome] at failed
    split at failed <;> cases failed
  · intro first last
    refine ⟨Option.isSome_iff_exists.1 (nodes.isSome_isContiguous? first last), fun ends => ?_⟩
    simp only [Bool.and_eq_true, beq_iff_eq] at ends
    exact nodes.le_of_head? ends.1 (List.mem_of_getLast? ends.2)

end RegionContext

end Devirt
