import Devirt.Proofs.Relaxation.Widening
import Mathlib.Data.List.FinRange
import Mathlib.Logic.Relation

/-!
# Relaxation is the Least Widening in Reach

Relaxation works round by round on offsets that are out of date as soon as a branch has grown. It
still lengthens no branch in vain. Whatever is out of reach in the code of a round is out of reach
in every widening of that code that leaves it short, so a widening in which everything is in reach
has lengthened it too: each round stays below every such widening. The last round finds nothing out
of reach, so the result is itself such a widening, hence the least one.

Main statement: `relax_least`.
-/

namespace Devirt

variable {lines : Array Line}

/-! ## §1 One round -/

theorem getElem?_relaxRound (offsets : Std.HashMap Label Nat) (i : Nat) :
    (relaxRound offsets lines).toList[i]? = lines.toList[i]?.map (·.relaxed offsets) := by
  simp [relaxRound]

/-- A round replaces branches by their long forms only. -/
theorem Line.widensTo_relaxed (offsets : Std.HashMap Label Nat) (line : Line) :
    line.WidensTo (line.relaxed offsets) := by
  unfold relaxed
  split
  next form needed => exact .long (longForm?_of_neededForm? needed)
  next => exact .same

theorem widening_relaxRound (offsets : Std.HashMap Label Nat) (lines : Array Line) :
    Widening lines.toList (relaxRound offsets lines).toList := by
  rw [relaxRound, Array.toList_map, Widening, List.forall₂_map_right_iff]
  exact List.forall₂_same.2 fun line _ => line.widensTo_relaxed offsets

/-- A round without branches out of reach means that there are none. -/
theorem countOutOfReach_eq_zero_iff (distinct : DistinctLabels lines.toList) :
    countOutOfReach (labelOffsets lines) lines = 0 ↔ InReach lines.toList := by
  -- both sides say of every position that no branch there is out of reach
  rw [countOutOfReach, ← Array.countP_toList, List.countP_eq_zero, inReach_iff]
  constructor
  · rintro absent i ⟨j, line, target, here, far⟩
    exact absent line (List.mem_of_getElem? here)
      ((Line.isOutOfReach_iff distinct here).2 ⟨j, line, target, here, far⟩)
  · intro sound line member far
    obtain ⟨i, here⟩ := List.getElem?_of_mem member
    exact sound i ((Line.isOutOfReach_iff distinct here).1 far)

/-- A widening in which everything is in reach has lengthened every branch that is out of reach. -/
theorem Widening.long_of_outOfReachAt {lines code : List Line} (h : Widening lines code)
    (sound : InReach code) {i : Nat} {line : Line} {form : Opcode}
    (here : lines[i]? = some line) (far : OutOfReachAt lines i)
    (long : line.instruction.opcode.longForm? = some form) :
    code[i]? = some { line with instruction.opcode := form } := by
  obtain ⟨wide, there, wider⟩ := h.getElem? here
  -- if the branch were still short, it would be out of reach in the wider code too
  cases wider with
  | same => exact absurd (far.of_widening h (there.trans here.symm)) (inReach_iff.1 sound i)
  | long form' => rw [there, Option.some.inj (long.symm.trans form')]

/-- A round stays below every widening in which everything is in reach. -/
theorem Widening.of_relaxRound {code : List Line} (distinct : DistinctLabels lines.toList)
    (h : Widening lines.toList code) (sound : InReach code) :
    Widening (relaxRound (labelOffsets lines) lines).toList code := by
  refine iff_getElem?.2 ⟨by rw [← h.length_eq]; simp [relaxRound], fun i next wide here there => ?_⟩
  rw [getElem?_relaxRound, Option.map_eq_some_iff] at here
  obtain ⟨line, here, rfl⟩ := here
  -- branches that the round leaves short are no obstacle, whatever the wider code does
  cases far : line.isOutOfReach (labelOffsets lines) with
  | false =>
    rw [Line.relaxed_of_not_isOutOfReach far]
    exact (iff_getElem?.1 h).2 i line wide here there
  | true =>
    obtain ⟨form, needed⟩ := Option.isSome_iff_exists.1 far
    have lengthened := h.long_of_outOfReachAt sound here
      ((Line.isOutOfReach_iff distinct here).1 far) (Line.longForm?_of_neededForm? needed)
    obtain rfl := Option.some.inj (lengthened.symm.trans there)
    simp only [Line.relaxed, needed]
    exact .same

/-! ## §2 All rounds -/

/-- Relaxation replaces branches by their long forms only. -/
theorem widening_relax (lines : Array Line) : Widening lines.toList (relax lines).1.toList := by
  fun_induction relax lines with
  | case1 lines => exact .refl _
  | case2 lines _ _ _ code later result ih =>
    rw [result] at ih
    exact (widening_relaxRound _ lines).trans ih

/-- After relaxation everything is in reach. -/
theorem inReach_relax (distinct : DistinctLabels lines.toList) :
    InReach (relax lines).1.toList := by
  -- the last round finds nothing out of reach, and labels stay different up to there
  fun_induction relax lines with
  | case1 lines offsets count absent => exact (countOutOfReach_eq_zero_iff distinct).1 absent
  | case2 lines _ _ _ code later result ih =>
    rw [result] at ih
    exact ih ((widening_relaxRound _ lines).distinctLabels distinct)

/-- Without short branches everything is in reach. -/
theorem InReach.of_not_isShort {code : List Line} (long : ∀ line ∈ code, line.isShort = false) :
    InReach code := by
  intro i j line target here short
  rw [long line (List.mem_of_getElem? here)] at short
  cases short

/-- In code of at most 127 bytes everything is in reach. -/
theorem InReach.of_totalWidth_le {code : List Line} (small : totalWidth code ≤ 127) :
    InReach code := by
  intro i j line target _ _ _ _
  -- both ends of the displacement lie in the code
  have source := totalWidth_take_le code (i + 1)
  have destination := totalWidth_take_le code j
  unfold gap Layout.displacement
  omega

/-- Code in which everything is in reach is left as it is. -/
theorem relax_of_inReach (distinct : DistinctLabels lines.toList) (inReach : InReach lines.toList) :
    (relax lines).1 = lines := by
  rw [relax]
  simp only [(countOutOfReach_eq_zero_iff distinct).2 inReach, if_true]

/-- Relaxation stays below every widening in which everything is in reach. -/
theorem Widening.of_relax {code : List Line} (distinct : DistinctLabels lines.toList)
    (h : Widening lines.toList code) (sound : InReach code) :
    Widening (relax lines).1.toList code := by
  -- round by round, as each round stays below the wider code
  fun_induction relax lines with
  | case1 lines => exact h
  | case2 lines _ _ _ relaxed later result ih =>
    rw [result] at ih
    exact ih ((widening_relaxRound _ lines).distinctLabels distinct)
      (h.of_relaxRound distinct sound)

/-! ## §3 Branches in any order -/

/-- One branch that is out of reach gets its long form. -/
inductive LengthensOne : List Line → List Line → Prop where
  | at {code : List Line} {i : Nat} {line : Line} {form : Opcode} : code[i]? = some line →
      OutOfReachAt code i → line.instruction.opcode.longForm? = some form →
      LengthensOne code (code.set i { line with instruction.opcode := form })

/-- Lengthening one branch is a widening. -/
theorem LengthensOne.widening {code code' : List Line} (h : LengthensOne code code') :
    Widening code code' := by
  obtain ⟨here, _, long⟩ := h
  refine Widening.iff_getElem?.2 ⟨by simp, fun j line wide there there' => ?_⟩
  rw [List.getElem?_set] at there'
  split at there'
  next same =>
    subst same
    obtain rfl := Option.some.inj (here.symm.trans there)
    split at there'
    · cases there'
      exact .long long
    · cases there'
  next =>
    obtain rfl := Option.some.inj (there.symm.trans there')
    exact .same

/-- Lengthening one branch stays below every widening in which everything is in reach. -/
theorem LengthensOne.widening_of_inReach {code code' sound : List Line}
    (h : LengthensOne code code') (below : Widening code sound) (inReach : InReach sound) : Widening code' sound := by
  obtain ⟨here, far, long⟩ := h
  have lengthened := below.long_of_outOfReachAt inReach here far long
  refine Widening.iff_getElem?.2
    ⟨by simpa using below.length_eq, fun j line wide there there' => ?_⟩
  rw [List.getElem?_set] at there
  split at there
  next same =>
    subst same
    split at there
    · cases there
      obtain rfl := Option.some.inj (lengthened.symm.trans there')
      exact .same
    · cases there
  next => exact (Widening.iff_getElem?.1 below).2 j line wide there there'

/-! ## §4 The result -/

/-- Relaxation of code with distinct labels gives the least widening in which everything is in
    reach: a branch that it lengthens is long in every such widening, so lengthening branches that
    are out of reach one at a time, in any order, comes to the same end. -/
theorem relax_least (distinct : DistinctLabels lines.toList) :
    Widening lines.toList (relax lines).1.toList ∧
    InReach (relax lines).1.toList ∧
    (∀ code, Widening lines.toList code → InReach code →
      ∀ i : Nat, (relax lines).1.toList[i]? ≠ lines.toList[i]? →
        code[i]? = (relax lines).1.toList[i]?) ∧
    (∀ code, Relation.ReflTransGen LengthensOne lines.toList code → InReach code →
      code = (relax lines).1.toList) := by
  have widening := widening_relax lines
  have inReach := inReach_relax distinct
  refine ⟨widening, inReach, fun code wider sound i changed => ?_, fun code steps sound => ?_⟩
  · have above := Widening.of_relax distinct wider sound
    cases here : lines.toList[i]? with
    | none =>
      have outside := List.getElem?_eq_none_iff.1 here
      rw [List.getElem?_eq_none (wider.length_eq ▸ outside),
        List.getElem?_eq_none (widening.length_eq ▸ outside)]
    | some line =>
      obtain ⟨long, there, lengthened⟩ := widening.getElem? here
      obtain ⟨wide, there', wider'⟩ := above.getElem? there
      cases lengthened with
      | same => exact absurd (there.trans here.symm) changed
      | long form =>
        -- a long form cannot grow any more
        have final : wide = { line with instruction.opcode := _ } :=
          wider'.eq_of_not_isShort (by
            rw [Line.isShort, ← Opcode.isSome_longForm?, Opcode.longForm?_of_longForm? form]
            rfl)
        rw [there', there, final]
  -- each step lengthens a branch that is out of reach, and those are long in the result
  · have between : Widening lines.toList code ∧ Widening code (relax lines).1.toList := by
      clear sound
      induction steps with
      | refl => exact ⟨.refl _, widening⟩
      | tail _ step ih =>
        exact ⟨ih.1.trans step.widening, step.widening_of_inReach ih.2 inReach⟩
    exact (Widening.of_relax distinct between.1 sound).antisymm between.2

/-- Two branches of which only the second is out of reach at first; its long form moves the target
    of the first one out of reach too. -/
def cascade : Array Line :=
  Array.ofFn fun i : Fin 328 =>
    ⟨⟨i⟩, match i.val with
      | 0 => ⟨.brS, .target ⟨126⟩⟩
      | 1 => ⟨.brfalseS, .target ⟨327⟩⟩
      | _ => .anchor⟩

/-- Both branches of the cascade end up in reach, and neither is long in vain. -/
theorem relax_least_cascade :
    DistinctLabels cascade.toList ∧ InReach (relax cascade).1.toList ∧
      ∀ code, Widening cascade.toList code → InReach code →
        ∀ i : Nat, (relax cascade).1.toList[i]? ≠ cascade.toList[i]? →
          code[i]? = (relax cascade).1.toList[i]? := by
  have distinct : DistinctLabels cascade.toList := by
    -- labels number the lines
    have labels : cascade.toList.map Line.label = List.ofFn fun i : Fin 328 => ⟨i⟩ := by
      rw [cascade, Array.toList_ofFn, List.map_ofFn]
      rfl
    rw [DistinctLabels, labels, List.nodup_ofFn]
    exact fun i j same => Fin.ext (Label.mk.inj same)
  exact ⟨distinct, (relax_least distinct).2.1, (relax_least distinct).2.2.1⟩

end Devirt
