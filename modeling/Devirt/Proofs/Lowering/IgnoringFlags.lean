import Devirt.Proofs.Lowering.Instructions
import Devirt.Proofs.Lowering.Labels

/-!
# Lowering that Ignores Flags

The simplest functions that update flags leave the flags register alone: the operation follows its
arguments, as if there were no flags. They meet everything that is asked of such functions.

Main statements: `FlagsLowering.ignoring_drawsLabels`, `FlagsLowering.ignoring_preserves`.
-/

namespace Devirt.FlagsLowering

open Stateful

variable {σ : Type}

/-- Put operations behind their arguments, and do nothing about flags. -/
def ignoring : FlagsLowering σ where
  unary argument is _ := return argument ++ (← Emit.lines is)
  binary left right is update := do
    let drop := if update.keepsResult then [] else [Instruction.plain .pop]
    return left ++ right ++ (← Emit.lines (is ++ drop))

/-- The whole code is the code of the arguments, with instructions behind it. -/
theorem gives_ignoring {given code : Array Line} {is : List Instruction} {s s' : Emission σ}
    (h : ignoring.Gives given is s code s') :
    ∃ behind own, (∀ i ∈ behind, i ∈ is ∨ i = .plain .pop) ∧
      Emit.lines behind s = .ok own s' ∧ code = given ++ own := by
  cases h with
  | unary called =>
    obtain ⟨own, _, emitted, done⟩ := bind_eq_ok.1 called
    obtain ⟨rfl, rfl⟩ := pure_eq_ok.1 done
    exact ⟨is, own, fun i => .inl, emitted, rfl⟩
  | binary called =>
    obtain ⟨own, _, emitted, done⟩ := bind_eq_ok.1 called
    obtain ⟨rfl, rfl⟩ := pure_eq_ok.1 done
    refine ⟨_, own, fun i mem => ?_, emitted, rfl⟩
    rcases List.mem_append.1 mem with mem | mem
    · exact .inl mem
    -- the result is dropped unless it is kept
    · split at mem
      · cases mem
      · exact .inr (List.mem_singleton.1 mem)

theorem ignoring_drawsLabels : (ignoring : FlagsLowering σ).DrawsLabels := by
  intro given is s code s' called distinct old
  obtain ⟨behind, own, _, emitted, rfl⟩ := gives_ignoring called
  have drawn := Drawn.sequential.lines (fun _ _ => trivial) emitted
  refine ⟨drawn.forward, ?_, fun line mem => ?_⟩
  -- labels of the given code were handed out before those of the lines behind it
  · refine distinctLabels_append distinct drawn.distinct fun line mem line' mem' same => ?_
    have below := old line mem
    rw [same] at below
    exact Nat.not_lt.2 (drawn.fresh line' mem').1 below
  · rcases Array.mem_append.1 mem with mem | mem
    · exact .inl (Array.mem_map_of_mem mem)
    · exact .inr (drawn.fresh line mem)

theorem ignoring_preserves {P : Instruction → Prop} (drop : P (.plain .pop)) :
    (ignoring : FlagsLowering σ).Preserves P := by
  intro given is s code s' called operator line mem
  obtain ⟨behind, own, origin, emitted, rfl⟩ := gives_ignoring called
  -- the given lines are kept as they are, so only the lines behind them are in question
  have sound : ∀ line ∈ own, P line.instruction := by
    refine (sequential_forall P).lines (fun i mem => ?_) emitted
    rcases origin i mem with mem | rfl
    · exact operator i mem
    · exact drop
  rcases Array.mem_append.1 mem with mem | mem
  · exact .inl mem
  · exact .inr (sound line mem)

end Devirt.FlagsLowering

namespace Devirt

/-- A context with the standard settings for a method that returns nothing. The conversions are the
    first methods that are imported. -/
def LowerContext.importing {σ : Type} (binding : Binding) (flags : FlagsLowering σ) :
    LowerContext σ :=
  ⟨.standard (Converters.importFrom "Runtime" .initial).1, binding, false, flags⟩

end Devirt
