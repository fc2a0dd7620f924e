import Devirt.Proofs.Body.Resolution
import Devirt.Proofs.Lowering.Stretches

/-!
# Labels of Lowered Code

Lowering takes its labels from the supply, one after the other, so no label is used twice. Anchors
are the labels below the number of nodes, and the supply starts behind them. The functions that
update flags are not part of the library: all that is asked of them is to take labels from the code
of the arguments or from the supply, and no label twice.

Main statements:
- `FlagsLowering.DrawsLabels`: what is asked of the functions that update flags.
- `LowerContext.labelled_listing`: the labels of a listing are different.
-/

namespace Devirt

open Stateful

variable {σ : Type}

/-! ## §1 Labels from the supply -/

/-- Index of the label that is handed out next. Labels below have been handed out. -/
def Emission.level (s : Emission σ) : Nat :=
  s.supply.next.index

/-- The labels of the code are different, and were handed out between two emissions. -/
structure Drawn (s : Emission σ) (code : Array Line) (s' : Emission σ) : Prop where
  /-- Labels are not taken back. -/
  forward : s.level ≤ s'.level
  distinct : DistinctLabels code.toList
  /-- All labels were handed out. -/
  fresh : ∀ line ∈ code, s.level ≤ line.label.index ∧ line.label.index < s'.level

/-- The functions that update flags, given code with different labels, give code with different
    labels, each of which is in the given code or handed out by the supply meanwhile. -/
def FlagsLowering.DrawsLabels (flags : FlagsLowering σ) : Prop :=
  ∀ given is s code s', flags.Gives given is s code s' →
    DistinctLabels given.toList → (∀ line ∈ given, line.label.index < s.level) →
    s.level ≤ s'.level ∧ DistinctLabels code.toList ∧
      ∀ line ∈ code, line.label ∈ given.map Line.label ∨
        s.level ≤ line.label.index ∧ line.label.index < s'.level

/-- Code with different labels behind other such code, if no label is in both. -/
theorem distinctLabels_append {a b : Array Line} (h : DistinctLabels a.toList)
    (h' : DistinctLabels b.toList)
    (apart : ∀ line ∈ a, ∀ line' ∈ b, line.label ≠ line'.label) :
    DistinctLabels (a ++ b).toList := by
  rw [DistinctLabels, Array.toList_append, List.map_append]
  -- what is shown of lines carries over to their labels
  refine List.nodup_append.2 ⟨h, h', ?_⟩
  simp only [List.mem_map, Array.mem_toList_iff]
  rintro _ ⟨line, mem, rfl⟩ _ ⟨line', mem', rfl⟩
  exact apart line mem line' mem'

theorem Drawn.sequential : Sequential (fun _ => True) (Drawn (σ := σ)) where
  nothing s := ⟨Nat.le_refl _, .nil, by simp⟩
  line s i _ := by
    refine ⟨Nat.le_succ _, by simp [DistinctLabels], ?_⟩
    intro line mem
    obtain rfl := Array.mem_singleton.1 mem
    exact ⟨Nat.le_refl _, Nat.lt_succ_self _⟩
  append s a s₁ b s' first second := by
    -- labels of the second piece are handed out after all labels of the first one
    refine ⟨Nat.le_trans first.forward second.forward, ?_, fun line mem => ?_⟩
    · refine distinctLabels_append first.distinct second.distinct fun line mem line' mem' same => ?_
      have before := (first.fresh line mem).2
      have after := (second.fresh line' mem').1
      rw [same] at before
      omega
    · rcases Array.mem_append.1 mem with mem | mem
      · exact ⟨(first.fresh line mem).1, Nat.lt_of_lt_of_le (first.fresh line mem).2 second.forward⟩
      · exact ⟨Nat.le_trans first.forward (second.fresh line mem).1, (second.fresh line mem).2⟩

/-- Labels of lowered code are drawn from the supply. -/
theorem FlagsLowering.DrawsLabels.compositional {flags : FlagsLowering σ}
    (draws : flags.DrawsLabels) : Compositional flags (fun _ => True) Drawn where
  toSequential := Drawn.sequential
  update s given s₁ is code s' before _ called := by
    obtain ⟨forward, distinct, drawn⟩ :=
      draws given is s₁ code s' called before.distinct fun line mem => (before.fresh line mem).2
    refine ⟨Nat.le_trans before.forward forward, distinct, fun line mem => ?_⟩
    -- a label of the arguments was handed out while they were lowered
    rcases drawn line mem with old | ⟨above, below⟩
    · obtain ⟨line', mem', same⟩ := Array.mem_map.1 old
      rw [← same]
      have here := before.fresh line' mem'
      exact ⟨here.1, Nat.lt_of_lt_of_le here.2 forward⟩
    · exact ⟨Nat.le_trans before.forward above, below⟩

/-! ## §2 Labels of listings -/

/-- The labels of the lines are different. Those below the number of nodes of the graph are the
    anchors of the nodes that are done, and all others were handed out. -/
structure Labelled (g : Graph) (l : Listing) (s : Emission σ) : Prop where
  /-- The supply starts behind the anchors. -/
  behind : g.nodes.size ≤ s.level
  distinct : DistinctLabels l.lines.toList
  /-- A label is an anchor or was handed out. -/
  known : ∀ line ∈ l.lines, line.label.index < l.stretches.size ∨
    g.nodes.size ≤ line.label.index ∧ line.label.index < s.level

/-- The code of the next node keeps labels different. -/
theorem Labelled.grow {g : Graph} {l : Listing} {s s' : Emission σ} {rest : Array Line}
    (h : Labelled g l s) (inside : l.stretches.size < g.nodes.size) (drawn : Drawn s rest s') :
    Labelled g (l.grow rest) s' := by
  have new : ∀ line ∈ #[⟨Graph.anchorOf l.stretches.size, .anchor⟩] ++ rest,
      line.label.index = l.stretches.size ∨ s.level ≤ line.label.index ∧
        line.label.index < s'.level := by
    intro line mem
    rcases Array.mem_append.1 mem with mem | mem
    · obtain rfl := Array.mem_singleton.1 mem
      exact .inl rfl
    · exact .inr (drawn.fresh line mem)
  have behind := h.behind
  have forward := drawn.forward
  refine ⟨Nat.le_trans behind forward, ?_, fun line mem => ?_⟩
  -- the anchor lies between the anchors that are done and the labels of the supply
  · refine distinctLabels_append h.distinct (distinctLabels_append (by simp [DistinctLabels])
      drawn.distinct fun line mem line' mem' same => ?_) fun line mem line' mem' same => ?_
    · obtain rfl := Array.mem_singleton.1 mem
      have index : l.stretches.size = line'.label.index := congrArg Label.index same
      have above := (drawn.fresh line' mem').1
      omega
    · have index := congrArg Label.index same
      have old := h.known line mem
      have new := new line' mem'
      omega
  · rw [Listing.size_stretches_grow]
    rcases Array.mem_append.1 mem with mem | mem
    · have old := h.known line mem
      omega
    · have new := new line mem
      omega

/-- If the functions that update flags take labels from the supply, then no two lines of a listing
    carry the same label. -/
theorem LowerContext.labelled_listing {c : LowerContext σ} (draws : c.flags.DrawsLabels) {g : Graph}
    {l : Listing} {state : σ} {s' : Emission σ} (h : c.listing g ⟨g.supply, state⟩ = .ok l s') :
    Labelled g l s' := by
  have start : Labelled g .empty (⟨g.supply, state⟩ : Emission σ) :=
    ⟨Nat.le_refl _, .nil, by simp [Listing.empty]⟩
  -- the supply starts behind the anchors, and is passed on from node to node
  refine (listing_induction h start fun l s node code s' _ inside labelled lowered => ?_).1
  obtain ⟨rest, rfl, drawn⟩ :=
    draws.compositional.block (fun _ _ => trivial) (fun _ _ _ _ _ => trivial) lowered
  exact labelled.grow inside drawn

end Devirt
