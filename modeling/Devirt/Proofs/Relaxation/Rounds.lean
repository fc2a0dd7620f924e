import Devirt.Proofs.Relaxation.Least

/-!
# Rounds of Relaxation

Relaxation repeats rounds until one of them has nothing to replace. Every other round takes short
branches away, and no round adds any, so there are at most as many of these as the code has short
branches at first, and one more. This needs no assumption on the code: labels may repeat, branches
may lead nowhere or to themselves, and a short branch may carry an operand that is no label.

Whatever the labels are, a round rewrites nothing but opcodes: it gives long forms to short branches
to lines of the code. As a branch never gets shorter again, every replacement shows in the result,
so the number of replacements is the number of positions at which the result differs.

Main statement: `relax_rounds`.
-/

namespace Devirt

variable {lines : Array Line}

/-! ## §1 Single rounds -/

/-- Number of branches that a round replaces, given the code at its beginning. -/
def countReplaced (lines : Array Line) : Nat :=
  countOutOfReach (labelOffsets lines) lines

/-- The code at the end of a round, given the code at its beginning. -/
def nextRound (lines : Array Line) : Array Line :=
  relaxRound (labelOffsets lines) lines

/-- The rounds of a relaxation are counted from zero; the last one is the first that replaces
    nothing. -/
def IsLastRound (lines : Array Line) (last : Nat) : Prop :=
  countReplaced (nextRound^[last] lines) = 0 ∧
    ∀ earlier < last, countReplaced (nextRound^[earlier] lines) ≠ 0

/-- Code that a round leaves as it is needs no relaxation. -/
theorem relax_of_countReplaced_eq_zero (settled : countReplaced lines = 0) :
    relax lines = (lines, 0) := by
  unfold countReplaced at settled
  rw [relax]
  simp [settled]

/-- Before its last round, relaxation goes on with the code of the next one. -/
theorem relax_of_countReplaced_ne_zero (unsettled : countReplaced lines ≠ 0) :
    relax lines =
      ((relax (nextRound lines)).1, countReplaced lines + (relax (nextRound lines)).2) := by
  unfold countReplaced at unsettled ⊢
  rw [relax]
  simp [unsettled, nextRound]

/-- What holds of code without branches to replace, and passes from the code of a round to the code
    before it, holds of all code. -/
theorem relax_induction {motive : Array Line → Prop}
    (settled : ∀ lines, countReplaced lines = 0 → motive lines)
    (unsettled : ∀ lines, countReplaced lines ≠ 0 → motive (nextRound lines) → motive lines)
    (lines : Array Line) : motive lines := by
  fun_induction relax lines with
  | case1 lines _ _ absent => exact settled lines absent
  | case2 lines _ _ present _ _ _ ih => exact unsettled lines present ih

theorem countP_isShort_nextRound (lines : Array Line) :
    (nextRound lines).countP Line.isShort + countReplaced lines = lines.countP Line.isShort :=
  countP_isShort_relaxRound _ lines

theorem widening_nextRound (lines : Array Line) : Widening lines.toList (nextRound lines).toList :=
  widening_relaxRound _ lines

/-! ## §2 The number of rounds -/

theorem IsLastRound.zero (settled : countReplaced lines = 0) : IsLastRound lines 0 := by
  refine ⟨settled, fun earlier before => ?_⟩
  exact absurd before (Nat.not_lt_zero earlier)

/-- A round in front of the others makes one round more. -/
theorem IsLastRound.succ {last : Nat} (unsettled : countReplaced lines ≠ 0)
    (h : IsLastRound (nextRound lines) last) : IsLastRound lines (last + 1) := by
  refine ⟨h.1, fun earlier before => ?_⟩
  -- the first round is unsettled by assumption, the later ones by what holds of the rest
  cases earlier with
  | zero => exact unsettled
  | succ earlier => exact h.2 earlier (Nat.lt_of_succ_lt_succ before)

/-- There is a last round, and relaxation gives the code of that round. Every round before it takes
    at least one of the short branches. -/
theorem exists_isLastRound (lines : Array Line) :
    ∃ last ≤ lines.countP Line.isShort, IsLastRound lines last ∧
      (relax lines).1 = nextRound^[last] lines := by
  -- each unsettled round pays for itself with one of the short branches
  induction lines using relax_induction with
  | settled lines settled =>
    refine ⟨0, Nat.zero_le _, .zero settled, ?_⟩
    simp [relax_of_countReplaced_eq_zero settled]
  | unsettled lines unsettled ih =>
    obtain ⟨last, bound, isLast, result⟩ := ih
    have taken := countP_isShort_nextRound lines
    refine ⟨last + 1, by omega, isLast.succ unsettled, ?_⟩
    simp [relax_of_countReplaced_ne_zero unsettled, result]

/-- The result of a relaxation has nothing to replace. -/
theorem countReplaced_relax (lines : Array Line) : countReplaced (relax lines).1 = 0 := by
  obtain ⟨last, _, isLast, result⟩ := exists_isLastRound lines
  rw [result]
  exact isLast.1

/-! ## §3 The positions that change -/

/-- A branch to one of the lines. -/
def LeadsInto (lines : List Line) (line : Line) : Prop :=
  ∃ target, line.instruction.operand = .target target ∧ target ∈ lines.map Line.label

/-- A branch has a displacement only if one of the lines is its target. -/
theorem Line.leadsInto_of_displacement? {line : Line} {displacement : Int}
    (h : line.displacement? (labelOffsets lines) = some displacement) :
    LeadsInto lines.toList line := by
  unfold displacement? at h
  split at h
  next target operand =>
    refine ⟨target, operand, ?_⟩
    -- offsets are known for labels of lines only
    by_contra unknown
    have absent := labelOffsets_eq lines target
    rw [positionsOf_eq_none_iff.2 unknown] at absent
    simp [absent] at h
  next => simp at h

/-- A round changes short branches to lines of the code only. -/
theorem Line.leadsInto_of_relaxed_ne {line : Line}
    (changed : line.relaxed (labelOffsets lines) ≠ line) : LeadsInto lines.toList line := by
  have far : line.isOutOfReach (labelOffsets lines) = true := by
    by_contra near
    exact changed (relaxed_of_not_isOutOfReach (by simpa using near))
  obtain ⟨_, displacement, known, _⟩ := isOutOfReach_eq_true_iff.1 far
  exact leadsInto_of_displacement? known

/-- Relaxation changes short branches to lines of the code only. -/
theorem leadsInto_of_relax_ne {i : Nat} {line : Line} (here : lines.toList[i]? = some line)
    (changed : (relax lines).1.toList[i]? ≠ some line) : LeadsInto lines.toList line := by
  induction lines using relax_induction with
  | settled lines settled => simp [relax_of_countReplaced_eq_zero settled, here] at changed
  | unsettled lines unsettled ih =>
    have there : (nextRound lines).toList[i]? = some (line.relaxed (labelOffsets lines)) := by
      rw [nextRound, getElem?_relaxRound, here, Option.map_some]
    by_cases same : line.relaxed (labelOffsets lines) = line
    · -- the change is in a later round, when the lines carry the same labels
      rw [same] at there
      rw [relax_of_countReplaced_ne_zero unsettled] at changed
      have known := ih there changed
      unfold LeadsInto at known ⊢
      rwa [(widening_nextRound lines).map_label] at known
    · exact Line.leadsInto_of_relaxed_ne same

/-! ## §4 The number of changes -/

/-- Number of positions at which the second list differs from the first. -/
def countChanged (lines code : List Line) : Nat :=
  (List.range lines.length).countP fun i => decide (code[i]? ≠ lines[i]?)

theorem countChanged_cons (line wide : Line) (lines code : List Line) :
    countChanged (line :: lines) (wide :: code) =
      countChanged lines code + if wide = line then 0 else 1 := by
  -- the positions of the tail are those of the list, moved by one
  simp only [countChanged, List.length_cons, List.range_succ_eq_map, List.countP_cons,
    List.countP_map, Function.comp_def, List.getElem?_cons_succ, List.getElem?_cons_zero]
  by_cases same : wide = line <;> simp [same]

/-- Every change in a widening is a short branch less. -/
theorem Widening.countP_isShort_add_countChanged {lines code : List Line}
    (h : Widening lines code) :
    code.countP Line.isShort + countChanged lines code = lines.countP Line.isShort := by
  induction h with
  | nil => rfl
  | cons head _ ih =>
    rw [countChanged_cons, List.countP_cons, List.countP_cons]
    -- a line that stays counts on both sides, and a long form on the right side only
    cases head with
    | same =>
      simp only [if_true]
      omega
    | long form =>
      simp [Line.isShort_of_longForm? form, Line.isShort_long form, Line.long_ne form]
      omega

/-- Relaxation removes as many short branches as it says. -/
theorem countP_isShort_relax (lines : Array Line) :
    (relax lines).1.countP Line.isShort + (relax lines).2 = lines.countP Line.isShort := by
  induction lines using relax_induction with
  | settled lines settled => simp [relax_of_countReplaced_eq_zero settled]
  | unsettled lines unsettled ih =>
    have taken := countP_isShort_nextRound lines
    rw [relax_of_countReplaced_ne_zero unsettled]
    show (relax (nextRound lines)).1.countP Line.isShort +
      (countReplaced lines + (relax (nextRound lines)).2) = _
    omega

/-! ## §5 The result -/

/-- Relaxation of any code ends after at most one round more than the code has short branches. The
    result has the same labels and operands line by line, and the same opcodes but for short
    branches to lines of the code, some of which have their long forms. The number that comes with
    it is that of the positions that changed, and another relaxation changes nothing. -/
theorem relax_rounds (lines : Array Line) :
    (∃ rounds ≤ lines.countP Line.isShort + 1, ∃ last, rounds = last + 1 ∧
      IsLastRound lines last ∧ (relax lines).1 = nextRound^[last] lines) ∧
    (relax lines).1.size = lines.size ∧
    (∀ (i : Nat) (line result : Line), lines[i]? = some line → (relax lines).1[i]? = some result →
      result.label = line.label ∧ result.instruction.operand = line.instruction.operand ∧
      (result.instruction.opcode = line.instruction.opcode ∨
        line.isShort = true ∧
          line.instruction.opcode.longForm? = some result.instruction.opcode ∧
          LeadsInto lines.toList line)) ∧
    (relax lines).2 = countChanged lines.toList (relax lines).1.toList ∧
    relax (relax lines).1 = ((relax lines).1, 0) := by
  have widening := widening_relax lines
  refine ⟨?_, ?_, fun i line result here there => ?_, ?_, ?_⟩
  · obtain ⟨last, bound, isLast, result⟩ := exists_isLastRound lines
    exact ⟨last + 1, Nat.succ_le_succ bound, last, rfl, isLast, result⟩
  · simpa using widening.length_eq.symm
  · rw [← Array.getElem?_toList] at here there
    have lengthened := (Widening.iff_getElem?.1 widening).2 i line result here there
    refine ⟨lengthened.label_eq, lengthened.operand_eq, ?_⟩
    by_cases same : result = line
    · exact .inl (by rw [same])
    · have known := leadsInto_of_relax_ne here (by simpa [there] using same)
      cases lengthened with
      | same => exact absurd rfl same
      | long form => exact .inr ⟨Line.isShort_of_longForm? form, form, known⟩
  -- both numbers are what is missing of the short branches
  · have counted := countP_isShort_relax lines
    have changed := widening.countP_isShort_add_countChanged
    rw [Array.countP_toList, Array.countP_toList] at changed
    omega
  · exact relax_of_countReplaced_eq_zero (countReplaced_relax lines)

end Devirt
