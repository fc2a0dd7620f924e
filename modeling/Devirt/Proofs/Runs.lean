import Mathlib.Data.List.Forall2
import Mathlib.Data.List.Induction

/-!
# Runs that Succeed and Runs that Fail

A computation made of steps succeeds if all of them do, and fails as the first one that does not.
What a run over a list establishes is proved step by step, the steps that are done being a prefix of
the list.

Main statements:
- `Stateful.bind_eq_ok`, `Stateful.foldlM_induction`, `Stateful.exists_of_foldlM_eq_error`: with
  state.
- `Fallible.bind_eq_ok`, `Fallible.foldlM_induction`, `Fallible.exists_of_foldlM_eq_error`: the same
  without state.
- `Fallible.mapM_eq_ok`, `Optional.mapM_eq_some`: a step for each element of a list.
- `Stateful.FailsWith`, `Fallible.FailsWith`: faults of one sort, step by step.
- `Stateful.EndsWith`: the one fault of a computation, step by step.
- `Stateful.Forgets`: what a computation comes to whatever its state is, step by step.
-/

namespace Devirt

variable {ε α β : Type}

/-! ## §1 With state -/

namespace Stateful

variable {σ : Type} {s s' : σ}

/-- A sequence of two steps succeeds if both of them do. -/
theorem bind_eq_ok {x : EStateM ε σ α} {f : α → EStateM ε σ β} {b : β} :
    (x >>= f) s = .ok b s' ↔ ∃ a s₁, x s = .ok a s₁ ∧ f a s₁ = .ok b s' := by
  show EStateM.bind x f s = .ok b s' ↔ _
  unfold EStateM.bind
  cases x s <;> simp [and_assoc]

/-- A sequence of two steps fails as its first step, or as its second step does then. -/
theorem bind_eq_error {x : EStateM ε σ α} {f : α → EStateM ε σ β} {e : ε} :
    (x >>= f) s = .error e s' ↔
      x s = .error e s' ∨ ∃ a s₁, x s = .ok a s₁ ∧ f a s₁ = .error e s' := by
  show EStateM.bind x f s = .error e s' ↔ _
  unfold EStateM.bind
  cases x s <;> simp [and_assoc]

/-- A sequence of two steps goes on with its second step where the first one succeeds. -/
theorem bind_of_ok {x : EStateM ε σ α} {f : α → EStateM ε σ β} {a : α} (h : x s = .ok a s') :
    (x >>= f) s = f a s' := by
  show EStateM.bind x f s = _
  rw [EStateM.bind, h]

/-- A sequence of two steps ends where the first one fails. -/
theorem bind_of_error {x : EStateM ε σ α} {f : α → EStateM ε σ β} {e : ε}
    (h : x s = .error e s') : (x >>= f) s = .error e s' := by
  show EStateM.bind x f s = _
  rw [EStateM.bind, h]

theorem pure_eq_ok {a b : α} : (pure a : EStateM ε σ α) s = .ok b s' ↔ a = b ∧ s = s' := by
  show EStateM.Result.ok a s = .ok b s' ↔ _
  simp

/-- What holds in the beginning and is preserved by every step holds in the end. -/
theorem foldlM_induction {f : β → α → EStateM ε σ β} {P : List α → β → σ → Prop} {as : List α}
    {b b' : β} (h : as.foldlM f b s = .ok b' s') (start : P [] b s)
    (step : ∀ done a b s b' s', done ++ [a] <+: as → P done b s → f b a s = .ok b' s' →
      P (done ++ [a]) b' s') : P as b' s' := by
  -- the steps that are done form a prefix, so the list is taken apart at its end
  induction as using List.reverseRecOn generalizing b' s' with
  | nil =>
    obtain ⟨rfl, rfl⟩ := pure_eq_ok.1 h
    exact start
  | append_singleton as a ih =>
    rw [List.foldlM_append, bind_eq_ok] at h
    obtain ⟨b₁, s₁, first, last⟩ := h
    rw [List.foldlM_cons, bind_eq_ok] at last
    obtain ⟨b₂, s₂, last, done⟩ := last
    obtain ⟨rfl, rfl⟩ := pure_eq_ok.1 done
    have before := ih first fun done a b s b' s' part =>
      step done a b s b' s' (part.trans (List.prefix_append _ _))
    exact step as a b₁ s₁ b₂ s₂ (List.prefix_refl _) before last

/-- A run over a list fails as one of its steps. -/
theorem exists_of_foldlM_eq_error {f : β → α → EStateM ε σ β} {as : List α} {b : β} {e : ε}
    (h : as.foldlM f b s = .error e s') : ∃ a ∈ as, ∃ b s, f b a s = .error e s' := by
  -- a run fails as its first step, or as the run over the rest from where that step leads
  induction as generalizing b s with
  | nil => cases h
  | cons a as ih =>
    rw [List.foldlM_cons, bind_eq_error] at h
    rcases h with failed | ⟨b₁, s₁, _, failed⟩
    · exact ⟨a, List.mem_cons_self, b, s, failed⟩
    · obtain ⟨a', mem, witness⟩ := ih failed
      exact ⟨a', List.mem_cons_of_mem a mem, witness⟩

/-- Giving other names to faults changes no success. -/
theorem adaptExcept_eq_ok {ε' : Type} {f : ε → ε'} {x : EStateM ε σ α} {a : α} :
    EStateM.adaptExcept f x s = .ok a s' ↔ x s = .ok a s' := by
  unfold EStateM.adaptExcept
  cases x s <;> simp

theorem adaptExcept_eq_error {ε' : Type} {f : ε → ε'} {x : EStateM ε σ α} {e' : ε'} :
    EStateM.adaptExcept f x s = .error e' s' ↔ ∃ e, x s = .error e s' ∧ f e = e' := by
  unfold EStateM.adaptExcept
  cases x s <;> simp [and_comm]

/-- Whatever the state, all faults of the computation are of the given sort. -/
def FailsWith (Q : ε → Prop) (x : EStateM ε σ α) : Prop :=
  ∀ s e s', x s = .error e s' → Q e

namespace FailsWith

variable {Q : ε → Prop}

theorem pure (a : α) : FailsWith Q (Pure.pure a : EStateM ε σ α) :=
  fun _ _ _ failed => nomatch failed

theorem bind {x : EStateM ε σ α} {f : α → EStateM ε σ β} (first : FailsWith Q x)
    (second : ∀ a, FailsWith Q (f a)) : FailsWith Q (x >>= f) := by
  intro s e s' failed
  rcases bind_eq_error.1 failed with failed | ⟨a, s₁, _, failed⟩
  · exact first s e s' failed
  · exact second a s₁ e s' failed

theorem foldlM {f : β → α → EStateM ε σ β} {as : List α}
    (each : ∀ a ∈ as, ∀ b, FailsWith Q (f b a)) (b : β) : FailsWith Q (as.foldlM f b) := by
  intro s e s' failed
  obtain ⟨a, mem, b, s, failed⟩ := exists_of_foldlM_eq_error failed
  exact each a mem b s e s' failed

theorem mapM {f : α → EStateM ε σ β} {as : List α} (each : ∀ a ∈ as, FailsWith Q (f a)) :
    FailsWith Q (as.mapM f) := by
  induction as with
  | nil => exact pure []
  | cons a as ih =>
    rw [List.mapM_cons]
    exact bind (each a List.mem_cons_self) fun b =>
      bind (ih fun a mem => each a (List.mem_cons_of_mem _ mem)) fun bs => pure (b :: bs)

theorem adaptExcept {ε' : Type} {Q' : ε' → Prop} {f : ε → ε'} {x : EStateM ε σ α}
    (h : FailsWith Q x) (sort : ∀ e, Q e → Q' (f e)) : FailsWith Q' (EStateM.adaptExcept f x) := by
  intro s e s' failed
  unfold EStateM.adaptExcept at failed
  -- only a fault can have been renamed
  cases outcome : x s with
  | ok a s₁ =>
    rw [outcome] at failed
    cases failed
  | error cause s₁ =>
    rw [outcome] at failed
    obtain ⟨rfl, rfl⟩ := EStateM.Result.error.inj failed
    exact sort cause (h s cause s₁ outcome)

end FailsWith

/-- The fault of a run that failed. -/
def fault? : EStateM.Result ε σ α → Option ε
  | .ok _ _ => none
  | .error e _ => some e

theorem fault?_eq_some_iff {r : EStateM.Result ε σ α} {e : ε} :
    fault? r = some e ↔ ∃ s', r = .error e s' := by
  cases r <;> simp [fault?]

theorem fault?_eq_none_iff {r : EStateM.Result ε σ α} :
    fault? r = none ↔ ∃ a s', r = .ok a s' := by
  cases r <;> simp [fault?]

/-- Whatever the state, the computation fails with the given fault, or succeeds if none is given. -/
def EndsWith (fault : Option ε) (x : EStateM ε σ α) : Prop :=
  ∀ s, fault? (x s) = fault

namespace EndsWith

theorem pure (a : α) : EndsWith none (Pure.pure a : EStateM ε σ α) :=
  fun _ => rfl

theorem throw (e : ε) : EndsWith (some e) (MonadExcept.throw e : EStateM ε σ α) :=
  fun _ => rfl

/-- The fault of the second step matters only if the first one has none. -/
theorem bind {fault fault' : Option ε} {x : EStateM ε σ α} {f : α → EStateM ε σ β}
    (first : EndsWith fault x) (second : ∀ a, EndsWith fault' (f a)) :
    EndsWith (fault.or fault') (x >>= f) := by
  intro s
  have here := first s
  -- the second step decides only where the first one leads on
  cases outcome : x s with
  | ok a s₁ =>
    rw [outcome] at here
    obtain rfl : none = fault := here
    rw [bind_of_ok outcome]
    exact second a s₁
  | error e s₁ =>
    rw [outcome] at here
    obtain rfl : some e = fault := here
    rw [bind_of_error outcome]
    rfl

/-- A second step that never fails adds no fault. -/
theorem bind_none {fault : Option ε} {x : EStateM ε σ α} {f : α → EStateM ε σ β}
    (first : EndsWith fault x) (second : ∀ a, EndsWith none (f a)) : EndsWith fault (x >>= f) := by
  have both := first.bind second
  rwa [Option.or_none] at both

theorem foldlM {f : β → α → EStateM ε σ β} {as : List α}
    (each : ∀ a ∈ as, ∀ b, EndsWith none (f b a)) (b : β) : EndsWith none (as.foldlM f b) := by
  induction as generalizing b with
  | nil => exact pure b
  | cons a as ih =>
    rw [List.foldlM_cons]
    exact bind (each a List.mem_cons_self b) fun b =>
      ih (fun a mem => each a (List.mem_cons_of_mem _ mem)) b

end EndsWith

/-- What a run comes to, without the state that it leaves. -/
def outcome : EStateM.Result ε σ α → Except ε α
  | .ok a _ => .ok a
  | .error e _ => .error e

/-- The state that a run leaves, whether it succeeds or fails. -/
def final : EStateM.Result ε σ α → σ
  | .ok _ s => s
  | .error _ s => s

/-- A second step that leaves the state alone. -/
theorem final_bind {x : EStateM ε σ α} {f : α → EStateM ε σ β}
    (quiet : ∀ a s, final (f a s) = s) (s : σ) : final ((x >>= f) s) = final (x s) := by
  -- whether the first step fails or not, the state is the one that it leaves
  cases run : x s with
  | ok a s' =>
    rw [bind_of_ok run, quiet]
    rfl
  | error e s' =>
    rw [bind_of_error run]
    rfl

theorem final_bind_pure (x : EStateM ε σ α) (f : α → β) (s : σ) :
    final ((x >>= fun a => pure (f a)) s) = final (x s) :=
  final_bind (fun _ _ => rfl) s

/-- Whatever the state, the computation comes to the same as one without state. -/
def Forgets (x : EStateM ε σ α) (y : Except ε α) : Prop :=
  ∀ s, outcome (x s) = y

namespace Forgets

theorem eq_ok {x : EStateM ε σ α} {y : Except ε α} (h : Forgets x y) {a : α}
    (run : x s = .ok a s') : y = .ok a := by
  rw [← h s, run]
  rfl

theorem eq_error {x : EStateM ε σ α} {y : Except ε α} (h : Forgets x y) {e : ε}
    (run : x s = .error e s') : y = .error e := by
  rw [← h s, run]
  rfl

theorem pure (a : α) : Forgets (Pure.pure a : EStateM ε σ α) (Pure.pure a) :=
  fun _ => rfl

theorem ofExcept (y : Except ε α) : Forgets (MonadExcept.ofExcept y : EStateM ε σ α) y := by
  intro s
  cases y <;> rfl

theorem bind {x : EStateM ε σ α} {y : Except ε α} {f : α → EStateM ε σ β} {g : α → Except ε β}
    (first : Forgets x y) (second : ∀ a, Forgets (f a) (g a)) : Forgets (x >>= f) (y >>= g) := by
  intro s
  rw [← first s]
  -- what the first step comes to decides on both sides whether there is a second one
  cases run : x s with
  | ok a s' =>
    rw [Stateful.bind_of_ok run]
    exact second a s'
  | error e s' =>
    rw [Stateful.bind_of_error run]
    rfl

/-- A first step that always comes to the same. -/
theorem bind_of_ok {x : EStateM ε σ α} {a : α} {f : α → EStateM ε σ β} {y : Except ε β}
    (first : Forgets x (.ok a)) (second : Forgets (f a) y) : Forgets (x >>= f) y := by
  intro s
  cases run : x s with
  | ok a' s' =>
    obtain rfl := Except.ok.inj (first.eq_ok run)
    rw [Stateful.bind_of_ok run]
    exact second s'
  | error e s' => cases first.eq_error run

/-- A change of the state goes unnoticed. -/
theorem modify_bind {x : EStateM ε σ α} {y : Except ε α} (change : σ → σ) (h : Forgets x y) :
    Forgets (do modify change; x) y :=
  fun s => h (change s)

theorem foldlM {f : β → α → EStateM ε σ β} {g : β → α → Except ε β}
    (each : ∀ b a, Forgets (f b a) (g b a)) (as : List α) (b : β) :
    Forgets (as.foldlM f b) (as.foldlM g b) := by
  induction as generalizing b with
  | nil => exact pure b
  | cons a as ih =>
    rw [List.foldlM_cons, List.foldlM_cons]
    exact bind (each b a) ih

end Forgets

end Stateful

/-! ## §2 Without state -/

namespace Fallible

theorem ok_bind (a : α) (f : α → Except ε β) : (.ok a >>= f) = f a := rfl

theorem bind_eq_ok {x : Except ε α} {f : α → Except ε β} {b : β} :
    (x >>= f) = .ok b ↔ ∃ a, x = .ok a ∧ f a = .ok b := by
  cases x <;> simp [bind, Except.bind]

theorem bind_eq_error {x : Except ε α} {f : α → Except ε β} {e : ε} :
    (x >>= f) = .error e ↔ x = .error e ∨ ∃ a, x = .ok a ∧ f a = .error e := by
  cases x <;> simp [bind, Except.bind]

theorem pure_eq_ok {a b : α} : (pure a : Except ε α) = .ok b ↔ a = b := by
  simp [pure, Except.pure]

theorem map_eq_ok {x : Except ε α} {f : α → β} {b : β} :
    f <$> x = .ok b ↔ ∃ a, x = .ok a ∧ f a = b := by
  cases x <;> simp [Functor.map, Except.map]

theorem foldlM_induction {f : β → α → Except ε β} {P : List α → β → Prop} {as : List α}
    {b b' : β} (h : as.foldlM f b = .ok b') (start : P [] b)
    (step : ∀ done a b b', P done b → f b a = .ok b' → P (done ++ [a]) b') : P as b' := by
  -- as with state: the steps that are done form a prefix
  induction as using List.reverseRecOn generalizing b' with
  | nil =>
    obtain rfl := pure_eq_ok.1 h
    exact start
  | append_singleton as a ih =>
    rw [List.foldlM_append, bind_eq_ok] at h
    obtain ⟨b₁, first, last⟩ := h
    rw [List.foldlM_cons, bind_eq_ok] at last
    obtain ⟨b₂, last, done⟩ := last
    obtain rfl := pure_eq_ok.1 done
    exact step as a b₁ b₂ (ih first) last

/-- Results that are appended one after the other are results of their own. -/
theorem foldlM_append_eq (f : α → Except ε (List β)) (as : List α) (out : Array β) :
    as.foldlM (fun out a => do return out ++ (← f a)) out =
      (do let pieces ← as.mapM f; return out ++ pieces.flatten) := by
  -- the pieces so far are part of the start value, which therefore changes along the list
  induction as generalizing out with
  | nil => simp
  | cons a as ih =>
    rw [List.foldlM_cons, List.mapM_cons]
    cases f a with
    | error e => rfl
    | ok piece =>
      have joined : ∀ behind : List β, out ++ piece ++ behind = out ++ (piece ++ behind) :=
        fun behind => Array.toList_inj.1 (by simp)
      have rest := ih (out ++ piece)
      simp only [joined] at rest
      simp only [ok_bind, pure_bind, bind_assoc, rest, List.flatten_cons]

theorem exists_of_foldlM_eq_error {f : β → α → Except ε β} {as : List α} {b : β} {e : ε}
    (h : as.foldlM f b = .error e) : ∃ a ∈ as, ∃ b, f b a = .error e := by
  induction as generalizing b with
  | nil => cases h
  | cons a as ih =>
    rw [List.foldlM_cons, bind_eq_error] at h
    rcases h with failed | ⟨b₁, _, failed⟩
    · exact ⟨a, List.mem_cons_self, b, failed⟩
    · obtain ⟨a', mem, witness⟩ := ih failed
      exact ⟨a', List.mem_cons_of_mem a mem, witness⟩

/-- In a run over a list that succeeds every step does. -/
theorem exists_of_foldlM_eq_ok {f : β → α → Except ε β} {as : List α} {b b' : β}
    (h : as.foldlM f b = .ok b') : ∀ a ∈ as, ∃ c c', f c a = .ok c' := by
  -- a step that is done has succeeded, so this is preserved by every step
  refine foldlM_induction (P := fun done _ => ∀ a ∈ done, ∃ c c', f c a = .ok c') h (by simp) ?_
  intro done a c c' before step a' mem
  rcases List.mem_append.1 mem with old | new
  · exact before a' old
  · rw [List.mem_singleton.1 new]
    exact ⟨c, c', step⟩

/-- A step for each element of a list succeeds with the results of all steps. -/
theorem mapM_eq_ok {f : α → Except ε β} {as : List α} {bs : List β} :
    as.mapM f = .ok bs ↔ List.Forall₂ (fun a b => f a = .ok b) as bs := by
  induction as generalizing bs with
  | nil => cases bs <;> simp [pure_eq_ok]
  | cons a as ih =>
    simp only [List.mapM_cons, bind_eq_ok, pure_eq_ok, ih, List.forall₂_cons_left_iff]
    constructor
    · rintro ⟨b, here, bs, there, rfl⟩
      exact ⟨b, bs, here, there, rfl⟩
    · rintro ⟨b, bs, here, there, rfl⟩
      exact ⟨b, here, bs, there, rfl⟩

/-- The fault of a computation that fails. -/
def fault? : Except ε α → Option ε
  | .ok _ => none
  | .error e => some e

theorem fault?_eq_some_iff {x : Except ε α} {e : ε} : fault? x = some e ↔ x = .error e := by
  cases x <;> simp [fault?]

/-- A step that only uses a result adds no fault. -/
theorem fault?_bind_pure (x : Except ε α) (f : α → β) :
    fault? (x >>= fun a => pure (f a)) = fault? x := by
  cases x <;> rfl

/-- A step for each element of a list fails as the first of the steps that fails. -/
theorem fault?_mapM (f : α → Except ε β) (as : List α) :
    fault? (as.mapM f) = as.findSome? fun a => fault? (f a) := by
  induction as with
  | nil => rfl
  | cons a as ih =>
    rw [List.mapM_cons, List.findSome?_cons]
    -- the first step decides if it fails, and otherwise has no part in the fault
    cases f a with
    | error e => rfl
    | ok b =>
      rw [ok_bind, fault?_bind_pure, ih]
      rfl

theorem exists_of_mapM_eq_error {f : α → Except ε β} {as : List α} {e : ε}
    (h : as.mapM f = .error e) : ∃ a ∈ as, f a = .error e := by
  rw [← fault?_eq_some_iff, fault?_mapM] at h
  obtain ⟨a, mem, failed⟩ := List.exists_of_findSome?_eq_some h
  exact ⟨a, mem, fault?_eq_some_iff.1 failed⟩

/-- All faults of the computation are of the given sort. -/
def FailsWith (Q : ε → Prop) (x : Except ε α) : Prop :=
  ∀ e, x = .error e → Q e

namespace FailsWith

variable {Q : ε → Prop}

theorem pure (a : α) : FailsWith Q (Pure.pure a : Except ε α) :=
  fun _ failed => nomatch failed

theorem throw {e : ε} (sort : Q e) : FailsWith Q (.error e : Except ε α) := by
  rintro _ ⟨⟩
  exact sort

theorem bind {x : Except ε α} {f : α → Except ε β} (first : FailsWith Q x)
    (second : ∀ a, FailsWith Q (f a)) : FailsWith Q (x >>= f) := by
  intro e failed
  rcases bind_eq_error.1 failed with failed | ⟨a, _, failed⟩
  · exact first e failed
  · exact second a e failed

theorem foldlM {f : β → α → Except ε β} {as : List α}
    (each : ∀ a ∈ as, ∀ b, FailsWith Q (f b a)) (b : β) : FailsWith Q (as.foldlM f b) := by
  intro e failed
  obtain ⟨a, mem, b, failed⟩ := exists_of_foldlM_eq_error failed
  exact each a mem b e failed

theorem mapM {f : α → Except ε β} {as : List α} (each : ∀ a ∈ as, FailsWith Q (f a)) :
    FailsWith Q (as.mapM f) := by
  intro e failed
  obtain ⟨a, mem, failed⟩ := exists_of_mapM_eq_error failed
  exact each a mem e failed

end FailsWith

end Fallible

/-! ## §3 Optional results -/

/-- Results for each element of a list are there if all of them are. -/
theorem Optional.mapM_eq_some {f : α → Option β} {as : List α} {bs : List β} :
    as.mapM f = some bs ↔ List.Forall₂ (fun a b => f a = some b) as bs := by
  induction as generalizing bs with
  | nil => cases bs <;> simp
  | cons a as ih =>
    simp only [List.mapM_cons, bind, Option.bind_eq_some_iff, pure, Option.some.injEq, ih,
      List.forall₂_cons_left_iff]
    constructor
    · rintro ⟨b, here, bs, there, rfl⟩
      exact ⟨b, bs, here, there, rfl⟩
    · rintro ⟨b, bs, here, there, rfl⟩
      exact ⟨b, here, bs, there, rfl⟩

end Devirt
