import Devirt.Lowering.Regions
import Devirt.Proofs.Runs
import Mathlib.Order.Interval.Finset.Nat

/-!
# Boundaries of Regions

The boundaries of a set of nodes are the nodes with the smallest and the largest offset in the code
of the virtual machine. The check for gaps compares them with the least and the greatest number, and
counts: a set with as many members as there are numbers between its boundaries is all of these
numbers. So a set that passes is an interval. The boundaries are selected one node after the other,
in the order of numbers, and so the number decides between equal offsets.

Main statements:
- `NodeSet.isSome_isContiguous?`, `NodeSet.isContiguous?_eq_true_iff`: the check always has an
  answer, and accepts exactly the intervals.
- `Landmark.foldl_earlier_spec`, `Landmark.foldl_later_spec`: the ends of a set by offset.
-/

namespace Devirt

/-! ## §1 Intervals of nodes -/

namespace NodeSet

variable {nodes : NodeSet} {first last : Nat}

/-- The first member of a set is the least one. -/
theorem le_of_head? (h : nodes.members.head? = some first) {node : Nat}
    (mem : node ∈ nodes.members) : first ≤ node := by
  obtain ⟨rest, members⟩ := List.head?_eq_some_iff.1 h
  have increasing := nodes.increasing
  rw [members] at increasing mem
  rcases List.mem_cons.1 mem with rfl | mem
  · exact Nat.le_refl _
  · exact Nat.le_of_lt ((List.pairwise_cons.1 increasing).1 node mem)

/-- The last member of a set is the greatest one. -/
theorem le_of_getLast? (h : nodes.members.getLast? = some last) {node : Nat}
    (mem : node ∈ nodes.members) : node ≤ last := by
  obtain ⟨before, members⟩ := List.getLast?_eq_some_iff.1 h
  have increasing := nodes.increasing
  rw [members] at increasing mem
  rcases List.mem_append.1 mem with mem | mem
  · exact Nat.le_of_lt ((List.pairwise_append.1 increasing).2.2 node mem last (by simp))
  · exact Nat.le_of_eq (List.mem_singleton.1 mem)

theorem nodup_members (nodes : NodeSet) : nodes.members.Nodup :=
  nodes.increasing.imp Nat.ne_of_lt

/-- The first member of a set that is an interval is where the interval begins. -/
theorem head?_of_mem_iff (ordered : first ≤ last)
    (interval : ∀ node, node ∈ nodes.members ↔ first ≤ node ∧ node ≤ last) :
    nodes.members.head? = some first := by
  have mem := (interval first).2 ⟨Nat.le_refl _, ordered⟩
  -- the least member and the end of the interval are members both, and each is below the other
  cases head : nodes.members.head? with
  | none =>
    rw [List.head?_eq_none_iff.1 head] at mem
    cases mem
  | some least =>
    have inside := (interval least).1 (List.mem_of_head? head)
    rw [Nat.le_antisymm (nodes.le_of_head? head mem) inside.1]

/-- The last member of a set that is an interval is where the interval ends. -/
theorem getLast?_of_mem_iff (ordered : first ≤ last)
    (interval : ∀ node, node ∈ nodes.members ↔ first ≤ node ∧ node ≤ last) :
    nodes.members.getLast? = some last := by
  have mem := (interval last).2 ⟨ordered, Nat.le_refl _⟩
  cases getLast : nodes.members.getLast? with
  | none =>
    rw [List.getLast?_eq_none_iff.1 getLast] at mem
    cases mem
  | some greatest =>
    have inside := (interval greatest).1 (List.mem_of_getLast? getLast)
    rw [Nat.le_antisymm inside.2 (nodes.le_of_getLast? getLast mem)]

/-- The check compares the ends first, so it asks for no distance that does not exist. -/
theorem isSome_isContiguous? (nodes : NodeSet) (first last : Nat) :
    (RegionContext.isContiguous? nodes first last).isSome := by
  unfold RegionContext.isContiguous?
  split
  next ends =>
    simp only [Bool.and_eq_true, beq_iff_eq] at ends
    have ordered : first ≤ last := nodes.le_of_head? ends.1 (List.mem_of_getLast? ends.2)
    simp [RegionContext.distance?, ordered]
  next => rfl

/-- The check accepts a set exactly if it is the interval between the given ends. -/
theorem isContiguous?_eq_true_iff : RegionContext.isContiguous? nodes first last = some true ↔
    first ≤ last ∧ ∀ node, node ∈ nodes.members ↔ first ≤ node ∧ node ≤ last := by
  have checks : RegionContext.isContiguous? nodes first last = some true ↔
      (nodes.members.head? = some first ∧ nodes.members.getLast? = some last) ∧
        first ≤ last ∧ last - first + 1 = nodes.size := by
    unfold RegionContext.isContiguous? RegionContext.distance?
    split
    next ends => simpa using fun _ _ => by simpa using ends
    next ends => simpa using fun head getLast => absurd (by simp [head, getLast]) ends
  rw [checks]
  -- by counting: the members lie in the interval, and there are as many of them
  constructor
  · rintro ⟨⟨head, getLast⟩, ordered, size⟩
    have inside : nodes.members.toFinset ⊆ Finset.Icc first last := by
      intro node mem
      rw [List.mem_toFinset] at mem
      exact Finset.mem_Icc.2 ⟨le_of_head? head mem, le_of_getLast? getLast mem⟩
    have count : (Finset.Icc first last).card ≤ nodes.members.toFinset.card := by
      rw [List.toFinset_card_of_nodup nodes.nodup_members, Nat.card_Icc]
      unfold NodeSet.size at size
      omega
    -- a part of an interval with as many members is the whole interval
    have whole := Finset.eq_of_subset_of_card_le inside count
    refine ⟨ordered, fun node => ?_⟩
    rw [← List.mem_toFinset, whole, Finset.mem_Icc]
  · rintro ⟨ordered, interval⟩
    have whole : nodes.members.toFinset = Finset.Icc first last := by
      ext node
      rw [List.mem_toFinset, interval, Finset.mem_Icc]
    have count : nodes.size = last + 1 - first := by
      rw [← Nat.card_Icc, ← whole, List.toFinset_card_of_nodup nodes.nodup_members, size]
    refine ⟨⟨head?_of_mem_iff ordered interval, getLast?_of_mem_iff ordered interval⟩, ordered, ?_⟩
    omega

end NodeSet

/-! ## §2 Landmarks -/

namespace RegionContext

variable {c : RegionContext} {nodes : NodeSet} {landmarks : List Landmark}

/-- The landmarks of a set are its members with their offsets. -/
theorem landmarks_eq_ok (h : c.landmarks nodes = .ok landmarks) :
    landmarks.map Landmark.node = nodes.members ∧
      ∀ l ∈ landmarks, ∃ n, c.graph.nodes[l.node]? = some n ∧ n.offset = l.offset := by
  have each := Fallible.mapM_eq_ok.1 h
  -- the order of the members plays no part, so the induction is on what was looked up
  generalize nodes.members = members at each ⊢
  clear h
  induction each with
  | nil => simp
  | cons here _ ih =>
    obtain ⟨numbers, known⟩ := ih
    split at here
    next n found =>
      obtain rfl := Except.ok.inj here
      exact ⟨by simp [numbers], List.forall_mem_cons.2 ⟨⟨n, found, rfl⟩, known⟩⟩
    next => cases here

/-- The landmarks of a set are in the order of their numbers. -/
theorem landmarks_pairwise (h : c.landmarks nodes = .ok landmarks) :
    landmarks.Pairwise fun a b => a.node < b.node := by
  have increasing := nodes.increasing
  rwa [← (landmarks_eq_ok h).1, List.pairwise_map] at increasing

end RegionContext

namespace Landmark

/-- A landmark precedes another one if it has the smaller offset, or of equal offsets the smaller
    number. -/
def Precedes (a b : Landmark) : Prop :=
  a.offset < b.offset ∨ a.offset = b.offset ∧ a.node ≤ b.node

namespace Precedes

variable {a b d : Landmark}

theorem refl (a : Landmark) : a.Precedes a :=
  .inr ⟨rfl, Nat.le_refl _⟩

theorem trans (first : a.Precedes b) (second : b.Precedes d) : a.Precedes d := by
  -- offsets are words, whose order is that of the numbers they stand for
  unfold Precedes at first second ⊢
  rw [UInt64.lt_iff_toNat_lt, ← UInt64.toNat_inj] at first second ⊢
  omega

theorem offset_le (h : a.Precedes b) : a.offset ≤ b.offset := by
  rcases h with smaller | ⟨same, _⟩
  · exact UInt64.le_of_lt smaller
  · exact UInt64.le_of_eq same

theorem node_le (h : a.Precedes b) (offset : b.offset ≤ a.offset) : a.node ≤ b.node := by
  rcases h with smaller | ⟨_, below⟩
  · exact absurd smaller (UInt64.not_lt.2 offset)
  · exact below

end Precedes

/-- The earlier of two landmarks in the order of their numbers is one of them, and precedes both. -/
theorem earlier_spec {a b : Landmark} (ordered : a.node < b.node) :
    (a.earlier b = a ∨ a.earlier b = b) ∧ (a.earlier b).Precedes a ∧ (a.earlier b).Precedes b := by
  unfold earlier
  split
  next smaller => exact ⟨.inr rfl, .inl smaller, .refl b⟩
  next notSmaller =>
    -- between equal offsets the first landmark wins, and it has the smaller number
    refine ⟨.inl rfl, .refl a, ?_⟩
    unfold Precedes
    rw [UInt64.lt_iff_toNat_lt, ← UInt64.toNat_inj] at *
    omega

/-- The later of two landmarks in the order of their numbers is one of them, and both precede it. -/
theorem later_spec {a b : Landmark} (ordered : a.node < b.node) :
    (a.later b = a ∨ a.later b = b) ∧ a.Precedes (a.later b) ∧ b.Precedes (a.later b) := by
  unfold later
  split
  next smaller => exact ⟨.inl rfl, .refl a, .inl smaller⟩
  next notSmaller =>
    refine ⟨.inr rfl, ?_, .refl b⟩
    unfold Precedes
    rw [UInt64.lt_iff_toNat_lt, ← UInt64.toNat_inj] at *
    omega

/-- A selection that is right for two elements in order is right for a list in order. -/
theorem foldl_selects {R : Landmark → Landmark → Prop} {f : Landmark → Landmark → Landmark}
    (refl : ∀ a, R a a) (trans : ∀ a b d, R a b → R b d → R a d)
    (selects : ∀ a b : Landmark, a.node < b.node →
      (f a b = a ∨ f a b = b) ∧ R (f a b) a ∧ R (f a b) b)
    {landmark : Landmark} {landmarks : List Landmark}
    (ordered : (landmark :: landmarks).Pairwise fun a b => a.node < b.node) :
    landmarks.foldl f landmark ∈ landmark :: landmarks ∧
      ∀ l ∈ landmark :: landmarks, R (landmarks.foldl f landmark) l := by
  -- the landmark selected so far changes along the list
  induction landmarks generalizing landmark with
  | nil => simp [refl]
  | cons next rest ih =>
    obtain ⟨before, ordered⟩ := List.pairwise_cons.1 ordered
    obtain ⟨either, one, other⟩ := selects landmark next (before next List.mem_cons_self)
    have ordered' : (f landmark next :: rest).Pairwise fun a b => a.node < b.node := by
      rcases either with same | same
      · rw [same]
        exact List.pairwise_cons.2
          ⟨fun l mem => before l (List.mem_cons_of_mem _ mem), ordered.tail⟩
      · rw [same]
        exact ordered
    obtain ⟨mem, best⟩ := ih ordered'
    have best' := best _ List.mem_cons_self
    rw [List.foldl_cons]
    constructor
    · rcases List.mem_cons.1 mem with same | mem
      · rw [same]
        rcases either with first | second
        · simp [first]
        · simp [second]
      · exact List.mem_cons_of_mem _ (List.mem_cons_of_mem _ mem)
    · intro l inside
      rcases List.mem_cons.1 inside with rfl | inside
      · exact trans _ _ _ best' one
      · rcases List.mem_cons.1 inside with rfl | inside
        · exact trans _ _ _ best' other
        · exact best l (List.mem_cons_of_mem _ inside)

variable {landmark : Landmark} {landmarks : List Landmark}

/-- The earliest of some landmarks is one of them, and precedes all of them. -/
theorem foldl_earlier_spec
    (ordered : (landmark :: landmarks).Pairwise fun a b => a.node < b.node) :
    landmarks.foldl earlier landmark ∈ landmark :: landmarks ∧
      ∀ l ∈ landmark :: landmarks, (landmarks.foldl earlier landmark).Precedes l :=
  foldl_selects Precedes.refl (fun _ _ _ => Precedes.trans) (fun _ _ => earlier_spec) ordered

/-- The latest of some landmarks is one of them, and all of them precede it. -/
theorem foldl_later_spec
    (ordered : (landmark :: landmarks).Pairwise fun a b => a.node < b.node) :
    landmarks.foldl later landmark ∈ landmark :: landmarks ∧
      ∀ l ∈ landmark :: landmarks, l.Precedes (landmarks.foldl later landmark) :=
  foldl_selects (R := fun a b => b.Precedes a) Precedes.refl
    (fun _ _ _ first second => second.trans first) (fun _ _ => later_spec) ordered

end Landmark

end Devirt
