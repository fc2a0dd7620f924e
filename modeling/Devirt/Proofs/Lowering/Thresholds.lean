import Devirt.Proofs.Lowering.ValuesBelow
import Mathlib.Algebra.Ring.Int.Defs
import Mathlib.Order.Bounds.Basic

/-!
# How Many Arguments a Template Needs

The check of a template runs its instructions on a stack that holds one value for each argument. If
no instruction empties the stack, all that the number of arguments does is to raise the depth at
every instruction by the same amount. So there is a least number of arguments with which every
instruction finds its values, and beyond that the result grows by one with each argument. An
instruction that empties the stack cuts the template in two: the part behind it starts from nothing.

What an instruction finds is said here by sums over the instructions before it, without a run.

Main statements:
- `Suffices`: a depth with which every instruction finds its values.
- `needed_le_iff`: the least such depth.
- `runDepth_eq_ok_iff`, `runDepth_eq_error`: what a run comes to.
- `Template.checkBalance_threshold`: what the check of a template comes to.
-/

namespace Devirt

variable {returnsValue : Bool} {i : Instruction} {is : List Instruction} {depth : Nat}

/-! ## §1 Sums over instructions -/

/-- The number of values that instructions leave, less the number of those that they take. -/
def netEffect (returnsValue : Bool) (is : List Instruction) : Int :=
  (is.map fun i => ((i.stackUse returnsValue).leaves : Int) - i.taken returnsValue).sum

@[simp] theorem netEffect_nil (returnsValue : Bool) : netEffect returnsValue [] = 0 :=
  rfl

theorem netEffect_cons (returnsValue : Bool) (i : Instruction) (is : List Instruction) :
    netEffect returnsValue (i :: is) =
      (i.stackUse returnsValue).leaves - i.taken returnsValue + netEffect returnsValue is := by
  simp [netEffect]

/-- Each instruction finds the values that it takes, if the stack has the given depth to begin
    with. -/
def Suffices (returnsValue : Bool) (is : List Instruction) (depth : Nat) : Prop :=
  ∀ before i after, is = before ++ i :: after →
    (i.taken returnsValue : Int) ≤ depth + netEffect returnsValue before

theorem suffices_nil : Suffices returnsValue [] depth := by
  intro before i after same
  simp at same

theorem suffices_cons : Suffices returnsValue (i :: is) depth ↔
    i.taken returnsValue ≤ depth ∧
      Suffices returnsValue is
        (depth - i.taken returnsValue + (i.stackUse returnsValue).leaves) := by
  -- what stands before an instruction is nothing, or starts with the first instruction
  constructor
  · intro enough
    have first := enough [] i is rfl
    rw [netEffect_nil] at first
    refine ⟨by omega, ?_⟩
    intro before j after same
    have later := enough (i :: before) j after (by rw [same, List.cons_append])
    rw [netEffect_cons] at later
    omega
  · rintro ⟨first, rest⟩ before j after same
    cases before with
    | nil =>
      obtain ⟨rfl, rfl⟩ := List.cons.inj same
      rw [netEffect_nil]
      omega
    | cons k before =>
      obtain ⟨rfl, rfl⟩ := List.cons.inj same
      have later := rest before j after rfl
      rw [netEffect_cons]
      omega

/-- The least depth to begin with at which each instruction finds the values that it takes. What an
    instruction leaves beyond the need of the rest is no help to the instruction itself. -/
def needed (returnsValue : Bool) : List Instruction → Nat
  | [] => 0
  | i :: is =>
    i.taken returnsValue + (needed returnsValue is - (i.stackUse returnsValue).leaves)

theorem needed_le_iff : needed returnsValue is ≤ depth ↔ Suffices returnsValue is depth := by
  induction is generalizing depth with
  | nil => simp [needed, suffices_nil]
  | cons i is ih =>
    -- what the first instruction leaves counts for the rest, but the rest may need less than that
    rw [suffices_cons, ← ih, needed]
    omega

theorem isLeast_needed (returnsValue : Bool) (is : List Instruction) :
    IsLeast {depth | Suffices returnsValue is depth} (needed returnsValue is) := by
  constructor
  · exact needed_le_iff.1 (Nat.le_refl _)
  · intro depth enough
    exact needed_le_iff.2 enough

/-! ## §2 Runs from different depths -/

theorem runDepth_cons (keeps : i.KeepsBelow) :
    runDepth returnsValue (i :: is) depth =
      if i.taken returnsValue ≤ depth then
        runDepth returnsValue is
          (depth - i.taken returnsValue + (i.stackUse returnsValue).leaves)
      else .error (i, depth) := by
  rw [runDepth, keeps.takes_eq, Demand.remaining?]
  by_cases enough : i.taken returnsValue ≤ depth <;> simp [enough]

/-- A run succeeds if the depth suffices, and then adds what the instructions leave less what they
    take. -/
theorem runDepth_eq_ok_iff (keep : ∀ i ∈ is, i.KeepsBelow) {stop : Nat} :
    runDepth returnsValue is depth = .ok stop ↔
      Suffices returnsValue is depth ∧ (stop : Int) = depth + netEffect returnsValue is := by
  induction is generalizing depth with
  | nil =>
    simp only [runDepth, Except.ok.injEq, suffices_nil, true_and, netEffect_nil]
    omega
  | cons i is ih =>
    have keepRest : ∀ j ∈ is, j.KeepsBelow := fun j mem => keep j (List.mem_cons_of_mem i mem)
    rw [runDepth_cons (keep i List.mem_cons_self), suffices_cons, netEffect_cons]
    by_cases enough : i.taken returnsValue ≤ depth
    · rw [if_pos enough, ih keepRest]
      -- what is left below the taken values is a difference of natural numbers
      simp only [enough, true_and]
      refine and_congr_right fun _ => ?_
      omega
    · simp [enough]

/-- A run that fails does so at the first instruction that does not find its values. -/
theorem runDepth_eq_error (keep : ∀ i ∈ is, i.KeepsBelow) {found : Nat}
    (failed : runDepth returnsValue is depth = .error (i, found)) :
    ∃ before after, is = before ++ i :: after ∧ Suffices returnsValue before depth ∧
      (found : Int) = depth + netEffect returnsValue before ∧ found < i.taken returnsValue := by
  obtain ⟨before, after, rfl, reached, lacks⟩ := runDepth_eq_error_iff.1 failed
  -- the run up to this instruction is one that succeeds
  have keepBefore : ∀ j ∈ before, j.KeepsBelow := fun j mem =>
    keep j (List.mem_append_left _ mem)
  obtain ⟨enough, total⟩ := (runDepth_eq_ok_iff keepBefore).1 reached
  rw [(keep i (by simp)).takes_eq, Demand.remaining?] at lacks
  exact ⟨before, after, rfl, enough, total, by simpa using lacks⟩

theorem runDepth_of_needed_le (keep : ∀ i ∈ is, i.KeepsBelow)
    (enough : needed returnsValue is ≤ depth) :
    ∃ stop : Nat, (stop : Int) = depth + netEffect returnsValue is ∧
      runDepth returnsValue is depth = .ok stop := by
  cases run : runDepth returnsValue is depth with
  | ok stop => exact ⟨stop, ((runDepth_eq_ok_iff keep).1 run).2, rfl⟩
  | error fault =>
    obtain ⟨before, after, split, _, found, few⟩ := runDepth_eq_error keep run
    -- the instruction found its values, since the depth suffices
    have taken := needed_le_iff.1 enough before fault.1 after split
    omega

theorem runDepth_of_lt_needed (keep : ∀ i ∈ is, i.KeepsBelow)
    (few : depth < needed returnsValue is) :
    ∃ before i after, ∃ found : Nat, is = before ++ i :: after ∧
      Suffices returnsValue before depth ∧
      (found : Int) = depth + netEffect returnsValue before ∧ found < i.taken returnsValue ∧
      runDepth returnsValue is depth = .error (i, found) := by
  cases run : runDepth returnsValue is depth with
  | ok stop =>
    have enough := needed_le_iff.2 ((runDepth_eq_ok_iff keep).1 run).1
    omega
  | error fault =>
    obtain ⟨before, after, split, enough, found, lacks⟩ := runDepth_eq_error keep run
    exact ⟨before, fault.1, after, fault.2, split, enough, found, lacks, rfl⟩

/-- An instruction that empties the stack leaves nothing. -/
theorem Instruction.stackUse_of_empties (empties : ¬i.KeepsBelow) :
    i.stackUse returnsValue = ⟨.everything, 0⟩ := by
  -- the opcode table decides it: these opcodes push nothing
  have table : ∀ o ∈ [Opcode.leave, .leaveS, .endfinally], o.pushes = .exactly 0 := by decide
  have pops : i.opcode.pops = .everything := not_not.1 empties
  have pushes := table i.opcode (Opcode.pops_eq_everything_iff.1 pops)
  rw [stackUse, pops, pushes]

/-- Behind an instruction that empties the stack a run starts from nothing. -/
theorem runDepth_append_of_empties {before after : List Instruction} (empties : ¬i.KeepsBelow)
    {stop : Nat} :
    runDepth returnsValue (before ++ i :: after) depth = .ok stop ↔
      (∃ reached, runDepth returnsValue before depth = .ok reached) ∧
        runDepth returnsValue after 0 = .ok stop := by
  have behind (reached : Nat) :
      runDepth returnsValue (i :: after) reached = runDepth returnsValue after 0 := by
    rw [runDepth, Instruction.stackUse_of_empties empties]
    rfl
  simp only [runDepth_append_eq_ok, behind, exists_and_right]

/-! ## §3 The check of a template -/

namespace Template

variable {t : Template} {arguments : List Expr}

theorem checkBalance_eq_error (failed :
    runDepth returnsValue t.instructions arguments.length = .error (i, depth)) :
    t.checkBalance arguments returnsValue =
      .error (.imbalance (Expr.apply t arguments).text i.text depth) := by
  rw [checkBalance, failed]

/-- As long as no instruction empties the stack, there is a least number of arguments that a
    template needs. With that many or more, the check succeeds, and the depth is the number of
    arguments and the net effect of the instructions. With fewer, the check names the first
    instruction that does not find its values, along with the depth before it.

    An instruction that empties the stack, in particular the last one, makes the depth independent
    of the arguments: it is the one to which the instructions behind come from nothing. The
    instructions before it have to find their values all the same. -/
theorem checkBalance_threshold (t : Template) (returnsValue : Bool) :
    ((∀ i ∈ t.instructions, i.KeepsBelow) →
      IsLeast {depth | Suffices returnsValue t.instructions depth}
        (needed returnsValue t.instructions) ∧
      ∀ arguments : List Expr,
        (needed returnsValue t.instructions ≤ arguments.length → ∃ depth : Nat,
          (depth : Int) = arguments.length + netEffect returnsValue t.instructions ∧
          t.checkBalance arguments returnsValue = .ok depth) ∧
        (arguments.length < needed returnsValue t.instructions →
          ∃ before i after, ∃ depth : Nat, t.instructions = before ++ i :: after ∧
            Suffices returnsValue before arguments.length ∧
            (depth : Int) = arguments.length + netEffect returnsValue before ∧
            depth < i.taken returnsValue ∧
            t.checkBalance arguments returnsValue =
              .error (.imbalance (Expr.apply t arguments).text i.text depth))) ∧
    ∀ before i after, t.instructions = before ++ i :: after → ¬i.KeepsBelow →
      ∀ arguments depth, t.checkBalance arguments returnsValue = .ok depth ↔
        (∃ reached, { t with instructions := before }.checkBalance arguments returnsValue =
          .ok reached) ∧
        { t with instructions := after }.checkBalance [] returnsValue = .ok depth := by
  refine ⟨fun keep => ⟨isLeast_needed _ _, fun arguments => ⟨fun enough => ?_, fun few => ?_⟩⟩, ?_⟩
  · obtain ⟨depth, total, run⟩ := runDepth_of_needed_le keep enough
    exact ⟨depth, total, checkBalance_eq_ok.2 run⟩
  · obtain ⟨before, i, after, depth, split, reached, found, lacks, run⟩ :=
      runDepth_of_lt_needed keep few
    exact ⟨before, i, after, depth, split, reached, found, lacks, checkBalance_eq_error run⟩
  · intro before i after split empties arguments depth
    simp only [checkBalance_eq_ok, split, List.length_nil]
    exact runDepth_append_of_empties empties

/-- A template that adds two values. -/
def adding : Template :=
  ⟨[.plain .add], none, none⟩

/-- A template that drops its argument, empties the stack and leaves a constant. -/
def leaving : Template :=
  ⟨[.plain .pop, ⟨.leave, .target ⟨0⟩⟩, .plain .ldcI41], none, none⟩

/-- Adding takes two arguments. With the constant behind the emptied stack the depth is one,
    whatever the number of arguments is. -/
theorem checkBalance_threshold_adding :
    (∀ i ∈ adding.instructions, i.KeepsBelow) ∧ needed false adding.instructions = 2 ∧
    (∃ depth : Nat, (depth : Int) = 2 + -1 ∧
      adding.checkBalance [.load (.arg 0), .load (.arg 1)] false = .ok depth) ∧
    (∃ before i after, ∃ depth : Nat, adding.instructions = before ++ i :: after ∧
      depth < i.taken false ∧ adding.checkBalance [.load (.arg 0)] false =
        .error (.imbalance (Expr.apply adding [.load (.arg 0)]).text i.text depth)) ∧
    leaving.instructions = [.plain .pop] ++ ⟨.leave, .target ⟨0⟩⟩ :: [.plain .ldcI41] ∧
    ¬Instruction.KeepsBelow ⟨.leave, .target ⟨0⟩⟩ ∧
    leaving.checkBalance [.load (.arg 0), .load (.arg 1)] false = .ok 1 := by
  have keep : ∀ i ∈ adding.instructions, i.KeepsBelow := by decide
  have empties : ¬Instruction.KeepsBelow ⟨.leave, .target ⟨0⟩⟩ := by decide
  have check := ((checkBalance_threshold adding false).1 keep).2
  have behind := (checkBalance_threshold leaving false).2 [.plain .pop] ⟨.leave, .target ⟨0⟩⟩
    [.plain .ldcI41] rfl empties [.load (.arg 0), .load (.arg 1)] 1
  obtain ⟨before, i, after, depth, split, _, _, lacks, fails⟩ :=
    (check [.load (.arg 0)]).2 (by decide)
  refine ⟨keep, rfl, ?_, ⟨before, i, after, depth, split, lacks, fails⟩, rfl, empties, ?_⟩
  · exact (check [.load (.arg 0), .load (.arg 1)]).1 (by decide)
  · exact behind.2 ⟨⟨1, rfl⟩, rfl⟩

end Template

end Devirt
