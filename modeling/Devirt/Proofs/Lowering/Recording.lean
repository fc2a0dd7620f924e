import Devirt.Proofs.Lowering.Emission

/-!
# Calls of the Functions that Update Flags

The functions that update flags may keep any state and may fail. To see when they are called, they
are replaced by functions that keep a record of all calls and otherwise do the same. This changes
nothing but the record, which only grows.

Main statements:
- `FlagsLowering.recording`: functions that keep a record.
- `Follows`: how the calls of a run are related to the expressions that they are due for.
- `Records.bind`, `Records.foldlM`: the calls of a sequence.
-/

namespace Devirt

open Stateful

variable {σ α β : Type}

/-! ## §1 Keeping a record -/

/-- What the functions that update flags are asked for. -/
inductive FlagsRequest where
  /-- An operation with one argument. -/
  | unary (argument : Array Line) (operator : List Instruction) (mask : UInt8)
  /-- An operation with two arguments. -/
  | binary (left right : Array Line) (operator : List Instruction) (update : BinaryUpdate)

/-- A call of the functions that update flags. -/
structure FlagsCall (σ : Type) where
  request : FlagsRequest
  /-- The emission at the time of the call. -/
  before : Emission σ

/-- An emission along with a record of the calls made so far. -/
def Emission.withCalls (s : Emission σ) (calls : List (FlagsCall σ)) :
    Emission (σ × List (FlagsCall σ)) :=
  ⟨s.supply, s.state, calls⟩

/-- An emission without its record of calls. -/
def Emission.withoutCalls (s : Emission (σ × List (FlagsCall σ))) : Emission σ :=
  ⟨s.supply, s.state.1⟩

/-- The result of a run along with a record of calls. -/
def withCalls (calls : List (FlagsCall σ)) :
    EStateM.Result LowerError (Emission σ) α →
      EStateM.Result LowerError (Emission (σ × List (FlagsCall σ))) α
  | .ok a s => .ok a (s.withCalls calls)
  | .error e s => .error e (s.withCalls calls)

namespace FlagsLowering

/-- What the functions do when they are asked. -/
def answer (flags : FlagsLowering σ) : FlagsRequest → Emit σ (Array Line)
  | .unary argument operator mask => flags.unary argument operator mask
  | .binary left right operator update => flags.binary left right operator update

/-- Do what is asked, and add the call to the record. -/
def record (flags : FlagsLowering σ) (request : FlagsRequest) :
    Emit (σ × List (FlagsCall σ)) (Array Line) := fun s =>
  withCalls (s.state.2 ++ [⟨request, s.withoutCalls⟩]) (flags.answer request s.withoutCalls)

/-- Functions that keep a record of all calls, and otherwise do what the given ones do. -/
def recording (flags : FlagsLowering σ) : FlagsLowering (σ × List (FlagsCall σ)) where
  unary argument operator mask := flags.record (.unary argument operator mask)
  binary left right operator update := flags.record (.binary left right operator update)

end FlagsLowering

/-- The context with functions that keep a record. -/
def LowerContext.recording (c : LowerContext σ) : LowerContext (σ × List (FlagsCall σ)) :=
  ⟨c.config, c.binding, c.returnsValue, c.flags.recording⟩

/-! ## §2 Calls of a run -/

/-- The calls that a run makes are made for the expressions that are due, in order. The run has come
    to the given result. -/
structure Follows (flags : FlagsLowering σ) (due : List Expr) (Sound : Expr → FlagsCall σ → Prop)
    (made : List (Expr × FlagsCall σ)) (result : EStateM.Result LowerError (Emission σ) α) :
    Prop where
  /-- One call is made for each expression, and no expression is passed over. -/
  order : made.map Prod.fst <+: due
  /-- A run that succeeds has made all calls. -/
  complete : ∀ a s', result = .ok a s' → made.map Prod.fst = due
  sound : ∀ e call, (e, call) ∈ made → Sound e call
  /-- No call is made after one that fails. The run fails as the call did, and the fault carries the
      text of the expression. -/
  stops : ∀ before e call after cause s', made = before ++ (e, call) :: after →
    flags.answer call.request call.before = .error cause s' →
    after = [] ∧ result = .error (.inExpr e.text cause) s'

variable {flags : FlagsLowering σ} {due due' : List Expr} {Sound Sound' : Expr → FlagsCall σ → Prop}
  {made made' : List (Expr × FlagsCall σ)} {s : Emission σ}

namespace Follows

theorem nothing {result : EStateM.Result LowerError (Emission σ) α} :
    Follows flags [] Sound [] result where
  order := List.prefix_refl []
  complete _ _ _ := rfl
  sound := by simp
  stops := by simp

theorem mono {result : EStateM.Result LowerError (Emission σ) α}
    (h : Follows flags due Sound made result) (weaker : ∀ e call, Sound e call → Sound' e call) :
    Follows flags due Sound' made result :=
  ⟨h.order, h.complete, fun e call mem => weaker e call (h.sound e call mem), h.stops⟩

/-- A run that has failed makes no more calls. -/
theorem of_error {cause : LowerError} (h : Follows (α := α) flags due Sound made (.error cause s)) :
    Follows (α := β) flags (due ++ due') Sound made (.error cause s) := by
  refine ⟨h.order.trans (List.prefix_append _ _), nofun, h.sound, ?_⟩
  intro before e call after cause' s' split failed
  obtain ⟨last, same⟩ := h.stops before e call after cause' s' split failed
  obtain ⟨rfl, rfl⟩ := EStateM.Result.error.inj same
  exact ⟨last, rfl⟩

/-- The calls of a run behind those of a run that succeeded. -/
theorem append {a : α} {s₁ : Emission σ} {result : EStateM.Result LowerError (Emission σ) β}
    (first : Follows flags due Sound made (.ok a s₁))
    (second : Follows flags due' Sound made' result) :
    Follows flags (due ++ due') Sound (made ++ made') result := by
  -- the first run has succeeded, so everything that was due in it has been asked for
  have all := first.complete a s₁ rfl
  refine ⟨?_, fun b s' done => ?_, fun e call mem => ?_, ?_⟩
  · rw [List.map_append, all]
    exact List.prefix_append_right_inj _ |>.2 second.order
  · rw [List.map_append, all, second.complete b s' done]
  · exact (List.mem_append.1 mem).elim (first.sound e call) (second.sound e call)
  · intro before e call after cause s' split failed
    -- a call that fails belongs to the second run, or to the first one, which is impossible
    rcases List.append_eq_append_iff.1 split with ⟨between, rfl, here⟩ | ⟨between, rfl, here⟩
    · exact second.stops between e call after cause s' here failed
    · cases between with
      | nil => exact second.stops [] e call after cause s' here.symm failed
      -- the first run has not failed, so none of its calls has
      | cons entry between =>
        obtain ⟨rfl, rfl⟩ := List.cons.inj here
        cases (first.stops before e call between cause s' rfl failed).2

end Follows

/-- Recording functions change nothing but the record, to which they add the calls that the run
    makes. -/
def Records (flags : FlagsLowering σ) (due : List Expr) (Sound : Expr → FlagsCall σ → Prop)
    (x : Emit σ α) (x' : Emit (σ × List (FlagsCall σ)) α) (s : Emission σ) : Prop :=
  ∃ made, (∀ calls, x' (s.withCalls calls) = withCalls (calls ++ made.map Prod.snd) (x s)) ∧
    Follows flags due Sound made (x s)

namespace Records

theorem mono {x : Emit σ α} {x' : Emit (σ × List (FlagsCall σ)) α}
    (h : Records flags due Sound x x' s) (weaker : ∀ e call, Sound e call → Sound' e call) :
    Records flags due Sound' x x' s := by
  obtain ⟨made, run, follows⟩ := h
  exact ⟨made, run, follows.mono weaker⟩

/-- A computation that makes no call. -/
theorem quiet {x : Emit σ α} {x' : Emit (σ × List (FlagsCall σ)) α}
    (h : ∀ calls, x' (s.withCalls calls) = withCalls calls (x s)) :
    Records flags [] Sound x x' s :=
  ⟨[], fun calls => by rw [h, List.map_nil, List.append_nil], .nothing⟩

theorem pure (a : α) : Records flags [] Sound (Pure.pure a) (Pure.pure a) s :=
  quiet fun _ => rfl

/-- Whatever is due, a computation that fails may have made no call. -/
theorem throw (e : LowerError) : Records (α := α) flags due Sound (MonadExcept.throw e)
    (MonadExcept.throw e) s := by
  refine ⟨[], fun calls => ?_, List.nil_prefix, nofun, by simp, by simp⟩
  rw [List.map_nil, List.append_nil]
  rfl

/-- The calls of the second step are made behind those of the first one, if that succeeds. -/
theorem bind {x : Emit σ α} {x' : Emit (σ × List (FlagsCall σ)) α} {f : α → Emit σ β}
    {f' : α → Emit (σ × List (FlagsCall σ)) β} (first : Records flags due Sound x x' s)
    (second : ∀ a s₁, x s = .ok a s₁ → Records flags due' Sound (f a) (f' a) s₁) :
    Records flags (due ++ due') Sound (x >>= f) (x' >>= f') s := by
  obtain ⟨made, run, follows⟩ := first
  -- the record is threaded through both steps, and a fault of the first ends it
  cases outcome : x s with
  | ok a s₁ =>
    obtain ⟨made', run', follows'⟩ := second a s₁ outcome
    have whole : (x >>= f) s = f a s₁ := bind_of_ok outcome
    rw [outcome] at run follows
    refine ⟨made ++ made', fun calls => ?_, ?_⟩
    · show EStateM.bind x' f' _ = _
      rw [EStateM.bind, run, whole, List.map_append, ← List.append_assoc, ← run']
      rfl
    · rw [whole]
      exact follows.append follows'
  | error e s₁ =>
    have whole : (x >>= f) s = .error e s₁ := bind_of_error outcome
    rw [outcome] at run follows
    refine ⟨made, fun calls => ?_, ?_⟩
    · show EStateM.bind x' f' _ = _
      rw [EStateM.bind, run, whole]
      rfl
    · rw [whole]
      exact follows.of_error

/-- A first step that makes no call. -/
theorem quiet_bind {x : Emit σ α} {x' : Emit (σ × List (FlagsCall σ)) α} {f : α → Emit σ β}
    {f' : α → Emit (σ × List (FlagsCall σ)) β} (first : Records flags [] Sound x x' s)
    (second : ∀ a s₁, x s = .ok a s₁ → Records flags due Sound (f a) (f' a) s₁) :
    Records flags due Sound (x >>= f) (x' >>= f') s :=
  first.bind second

/-- A second step that makes no call. -/
theorem bind_quiet {x : Emit σ α} {x' : Emit (σ × List (FlagsCall σ)) α} {f : α → Emit σ β}
    {f' : α → Emit (σ × List (FlagsCall σ)) β} (first : Records flags due Sound x x' s)
    (second : ∀ a s₁, x s = .ok a s₁ → Records flags [] Sound (f a) (f' a) s₁) :
    Records flags due Sound (x >>= f) (x' >>= f') s := by
  have both := first.bind second
  rwa [List.append_nil] at both

/-- The calls of a run over a list are made step by step. -/
theorem foldlM {f : β → α → Emit σ β} {f' : β → α → Emit (σ × List (FlagsCall σ)) β}
    {as : List α} {b : β} {dues : α → List Expr}
    (each : ∀ before a after b₁ s₁, as = before ++ a :: after → before.foldlM f b s = .ok b₁ s₁ →
      Records flags (dues a) Sound (f b₁ a) (f' b₁ a) s₁) :
    Records flags (as.flatMap dues) Sound (as.foldlM f b) (as.foldlM f' b) s := by
  -- a run over a list ends with its last element, so the induction takes that one off
  induction as using List.reverseRecOn with
  | nil => exact pure b
  | append_singleton as a ih =>
    rw [List.foldlM_append, List.foldlM_append, List.flatMap_append, List.flatMap_singleton]
    refine (ih fun before a' after b₁ s₁ split => ?_).bind fun b₁ s₁ done => ?_
    · exact each before a' (after ++ [a]) b₁ s₁ (by rw [split]; simp)
    · rw [List.foldlM_cons, List.foldlM_cons]
      exact (each as a [] b₁ s₁ rfl done).bind_quiet fun b₂ s₂ _ => pure b₂

/-- A call that is made for an expression. -/
theorem call {e : Expr} {request : FlagsRequest} (sound : Sound e ⟨request, s⟩) :
    Records flags [e] Sound (LowerContext.naming e (flags.answer request))
      (LowerContext.naming e (flags.record request)) s := by
  refine ⟨[(e, ⟨request, s⟩)], fun calls => ?_, ⟨List.prefix_refl _, fun _ _ _ => rfl, ?_, ?_⟩⟩
  -- naming the expression in a fault does not touch the record
  · show EStateM.adaptExcept _ _ _ = withCalls _ (EStateM.adaptExcept _ _ _)
    have asked : flags.record request (s.withCalls calls) =
        withCalls (calls ++ [⟨request, s⟩]) (flags.answer request s) := rfl
    rw [EStateM.adaptExcept, EStateM.adaptExcept, asked]
    cases flags.answer request s <;> rfl
  · intro e' call mem
    obtain ⟨rfl, rfl⟩ := Prod.mk.inj (List.mem_singleton.1 mem)
    exact sound
  · intro before e' call after cause s' split failed
    obtain ⟨rfl, ⟨rfl, rfl⟩, rfl⟩ :
        before = [] ∧ (e' = e ∧ call = ⟨request, s⟩) ∧ after = [] := by
      simpa [List.singleton_eq_append_iff] using split
    refine ⟨rfl, ?_⟩
    show EStateM.adaptExcept _ _ _ = _
    rw [EStateM.adaptExcept, failed]

theorem line (i : Instruction) : Records flags [] Sound (Emit.line i) (Emit.line i) s :=
  quiet fun _ => rfl

theorem lines (is : List Instruction) :
    Records flags [] Sound (Emit.lines is) (Emit.lines is) s := by
  have none : is.flatMap (fun _ => ([] : List Expr)) = [] := by simp
  rw [← none]
  exact foldlM fun _ i _ _ s₁ _ _ => (line i).bind_quiet fun _ _ _ => pure _

theorem ofExcept (x : Except LowerError α) :
    Records flags [] Sound (Emit.ofExcept x) (Emit.ofExcept x) s :=
  quiet fun _ => by cases x <;> rfl

end Records

end Devirt
