import Devirt.Proofs.Lowering.Binding
import Devirt.Proofs.Lowering.IgnoringFlags
import Devirt.Proofs.Regeneration.Success

/-!
# What Regeneration Does to a Method

A method gains everything that a routine declares, or nothing. Binding may fail after it has added
local variables and taken over types, and each later stage has faults of its own, but the method of
the outcome is replaced only once all of them have succeeded. What it gains then depends on the
declarations alone: later stages do not touch the method.

Main statements:
- `Config.method_regenerate_of_error`: a failure leaves the method as it was.
- `Config.regenerate_adopts`: a method is left as it was, or adopts all declarations.
-/

namespace Devirt

variable {σ : Type}

namespace Config

/-- A failure leaves the method as it was, at whatever stage it is. -/
theorem method_regenerate_of_error {config : Config} {flags : FlagsLowering σ} {r : Routine}
    {m : Method} {state : σ} {e : LowerError}
    (h : (config.regenerate flags r m state).result = .error e) :
    (config.regenerate flags r m state).method = m := by
  -- stage by stage: the method is handed back untouched at each exit with a fault
  unfold regenerate at h ⊢
  split
  next => rfl
  next binding bound binds =>
    rw [binds] at h
    dsimp only at h ⊢
    split
    next => rfl
    next l emission lowered =>
      rw [lowered] at h
      dsimp only at h ⊢
      split
      next => rfl
      next b completed =>
        rw [completed] at h
        cases h

/-- The method of a finished body is the one that the variables and parameters are bound in. -/
theorem bind_method_regenerate {config : Config} {flags : FlagsLowering σ} {r : Routine}
    {m : Method} {state : σ} {g : Regenerated}
    (h : (config.regenerate flags r m state).result = .ok g) :
    r.bind m = .ok g.binding (config.regenerate flags r m state).method := by
  unfold regenerate at h ⊢
  split at h
  next => cases h
  next binding bound binds =>
    dsimp only at h ⊢
    split at h
    next => cases h
    next l emission lowered =>
      split at h
      next => cases h
      next b completed =>
        -- past the last stage, the method is the one that binding left
        obtain rfl := Except.ok.inj h
        exact binds

/-- A method is left as it was if anything fails, and otherwise adopts the declarations. -/
theorem regenerate_adopts (config : Config) (flags : FlagsLowering σ) (r : Routine) (m : Method)
    (state : σ) :
    (∀ e, (config.regenerate flags r m state).result = .error e →
      (config.regenerate flags r m state).method = m) ∧
    ∀ g, (config.regenerate flags r m state).result = .ok g →
      m.Adopts r (config.regenerate flags r m state).method :=
  ⟨fun _ => method_regenerate_of_error,
    fun _ h => Routine.adopts_of_bind (bind_method_regenerate h)⟩

end Config

/-- A routine with a variable and two parameters, the first of which may be the instance argument.
    -/
def Routine.declaring : Routine where
  vars := #[⟨"text", CoreType.string.ref⟩]
  parameters := #[⟨"cause", CoreType.exception.ref⟩, ⟨"name", CoreType.string.ref⟩]
  graph := .empty

/-- A method with one parameter besides the instance argument. -/
def Method.describing (hasThis : Bool) : Method :=
  ofSignature "Describe" CoreType.object.ref ⟨hasThis, [CoreType.object.ref], none⟩

/-- Without an instance argument there are too few parameters. Binding finds that out with a local
    variable added, but the method stays. With an instance argument, the method adopts all
    declarations. -/
theorem Config.regenerate_adopts_declaring :
    (∃ e bound, Routine.declaring.bind (.describing false) = .error e bound ∧
      bound.slots.size = 1 ∧
      (unbounded.regenerate (.ignoring : FlagsLowering Unit) .declaring (.describing false)
        ()).method = .describing false) ∧
    ∃ g, (unbounded.regenerate (.ignoring : FlagsLowering Unit) .declaring (.describing true)
        ()).result = .ok g ∧
      (Method.describing true).Adopts .declaring (unbounded.regenerate
        (.ignoring : FlagsLowering Unit) .declaring (.describing true) ()).method := by
  have binds : Routine.declaring.bind (.describing true) = _ :=
    Routine.bind_eq_ok_iff.2 ⟨by decide, by decide, rfl, rfl⟩
  have lowers : (⟨unbounded, ⟨#[0], #[0, 1]⟩, false, .ignoring⟩ : LowerContext Unit).listing
      Routine.declaring.graph ⟨Routine.declaring.graph.supply, ()⟩ = .ok .empty ⟨⟨⟨0⟩⟩, ()⟩ := rfl
  have finished : (unbounded.regenerate .ignoring .declaring (.describing true) ()).result = _ :=
    regenerate_unbounded binds lowers (by decide) (by decide) rfl
  -- with too few parameters, binding has added the variable by the time it fails
  have fails : Routine.declaring.bind (.describing false) = _ :=
    Routine.bind_of_missing (by decide) (by decide)
  have failed : (unbounded.regenerate (.ignoring : FlagsLowering Unit) .declaring
      (.describing false) ()).result = .error (.missingParameter 1 1) := by
    simp only [regenerate, fails]
    rfl
  refine ⟨⟨_, _, fails, rfl, ?_⟩, _, finished, ?_⟩
  · exact (regenerate_adopts unbounded .ignoring .declaring (.describing false) ()).1 _ failed
  · exact (regenerate_adopts unbounded .ignoring .declaring (.describing true) ()).2 _ finished

end Devirt
