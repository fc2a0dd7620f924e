import Devirt.Proofs.StackDepth.Walk

/-!
# Walks with a Tally

To see what a walk costs it is run with a tally of the lines that it visits, the places that it puts
on its stack of places, and the steps that it takes. The tally is kept up to the point at which a
walk fails. It changes nothing else: whatever it says, the walk comes to the same.

Main statements:
- `Body.tallyStackDepth`: the analysis of the evaluation stack with a tally.
- `Body.tallyStackDepth_forgets`: the tally changes nothing.
-/

namespace Devirt

open Stateful

variable {b : Body} {returnsValue : Bool}

/-! ## §1 Keeping a tally -/

/-- What a walk has done so far. -/
structure Tally where
  /-- Positions of the lines visited, the last one first. A visit counts from the moment at which
      the depth of the line is recorded. -/
  visited : List Nat := []
  /-- Places ever put on the stack of places, the last one first. -/
  queued : List Place := []
  /-- Number of steps. -/
  steps : Nat := 0

/-- A computation that keeps a tally, and leaves it behind even if it fails. -/
abbrev Tallied := EStateM BodyError Tally

/-- Put a place on the stack of places. -/
def queue (place : Place) (places : List Place) : Tallied (List Place) := do
  modify fun t => { t with queued := place :: t.queued }
  return place :: places

namespace Body

/-- `pushEntries` with a tally. -/
def tallyPushEntries (b : Body) (places : List Place) (h : Handler) : Tallied (List Place) := do
  let start ← MonadExcept.ofExcept (b.resolve h.handler.start)
  let places ← queue ⟨start, h.kind.entryDepth⟩ places
  match h.filterStart with
  | none => return places
  | some filter => queue ⟨← MonadExcept.ofExcept (b.resolve filter), 1⟩ places

/-- `entries` with a tally. -/
def tallyEntries (b : Body) : Tallied (List Place) :=
  let first : Tallied (List Place) := if b.length = 0 then pure [] else queue ⟨0, 0⟩ []
  first >>= fun places => b.handlers.toList.foldlM b.tallyPushEntries places

/-- `pushTargets` with a tally. -/
def tallyPushTargets (b : Body) (depth : Nat) (places : List Place) (targets : List Label) :
    Tallied (List Place) :=
  targets.foldlM
    (fun places target => do queue ⟨← MonadExcept.ofExcept (b.resolve target), depth⟩ places) places

end Body

namespace Walk

/-- `visit` with a tally. -/
def tallyVisit (returnsValue : Bool) (w : Walk b) (place : Place)
    (h : place.position < b.length) : Tallied (Walk b) := do
  modify fun t => { t with visited := place.position :: t.visited }
  let line := b.lineAt place.position h
  let depth ← MonadExcept.ofExcept (line.depthAfter returnsValue place.depth)
  let pending ← b.tallyPushTargets depth w.pending line.instruction.operand.targets
  return {
    depths := w.depths.set place.position (some place.depth)
    peak := max w.peak depth
    cursor :=
      if line.instruction.opcode.fallsThrough then some ⟨place.position + 1, depth⟩ else none
    pending := pending }

/-- The place whose line the next step visits, if it visits one. -/
def upcoming? (w : Walk b) : Option {place : Place // place.position < b.length} :=
  match w.cursor with
  | some place =>
    if h : place.position < b.length then
      if w.depths[place.position] = none then some ⟨place, h⟩ else none
    else none
  | none => none

/-- `step` with a tally. Only visits record depths and put places on the stack. -/
def tallyStep (returnsValue : Bool) (w : Walk b) : Tallied (Nat ⊕ Walk b) := do
  modify fun t => { t with steps := t.steps + 1 }
  match w.upcoming? with
  | some ⟨place, h⟩ => return .inr (← w.tallyVisit returnsValue place h)
  | none => MonadExcept.ofExcept (w.step returnsValue)

end Walk

/-! ## §2 Steps with a tally -/

theorem queue_forgets (place : Place) (places : List Place) :
    Forgets (queue place places) (.ok (place :: places)) :=
  .modify_bind _ (.pure _)

namespace Body

theorem tallyPushEntries_forgets (places : List Place) (h : Handler) :
    Forgets (b.tallyPushEntries places h) (b.pushEntries places h) := by
  unfold tallyPushEntries pushEntries
  -- both computations take the same steps, those that queue having no effect but on the tally
  apply Forgets.bind (.ofExcept _)
  intro start
  apply Forgets.bind_of_ok (queue_forgets _ _)
  cases h.filterStart with
  | none => exact .pure _
  | some filter => exact .bind (.ofExcept _) fun position => queue_forgets _ _

theorem tallyEntries_forgets : Forgets b.tallyEntries b.entries := by
  unfold tallyEntries entries
  rw [← Array.foldlM_toList]
  -- the handlers are gone through alike, whatever is on the stack before them
  refine Forgets.bind_of_ok ?_ (.foldlM (fun places h => tallyPushEntries_forgets places h) _ _)
  split
  next => exact .pure _
  next => exact queue_forgets _ _

theorem tallyPushTargets_forgets (depth : Nat) (places : List Place) (targets : List Label) :
    Forgets (b.tallyPushTargets depth places targets) (b.pushTargets depth places targets) := by
  apply Forgets.foldlM
  intro places target
  exact .bind (.ofExcept _) fun position => queue_forgets _ _

end Body

namespace Walk

variable {w w' : Walk b}

theorem upcoming?_eq_some_iff {place : Place} {inside : place.position < b.length} :
    w.upcoming? = some ⟨place, inside⟩ ↔
      w.cursor = some place ∧ w.depths[place.position] = none := by
  unfold upcoming?
  cases w.cursor with
  | none => simp
  | some here =>
    simp only [Option.dite_none_right_eq_some, Option.ite_none_right_eq_some, Option.some.injEq,
      Subtype.mk.injEq]
    constructor
    · rintro ⟨_, unvisited, rfl⟩
      exact ⟨rfl, unvisited⟩
    · rintro ⟨rfl, unvisited⟩
      exact ⟨inside, unvisited, rfl⟩

theorem tallyVisit_forgets (place : Place) (inside : place.position < b.length) :
    Forgets (w.tallyVisit returnsValue place inside) (w.visit returnsValue place inside) := by
  apply Forgets.modify_bind
  apply Forgets.bind (.ofExcept _)
  intro depth
  apply Forgets.bind (Body.tallyPushTargets_forgets _ _ _)
  intro pending
  exact .pure _

theorem tallyStep_forgets (w : Walk b) :
    Forgets (w.tallyStep returnsValue) (w.step returnsValue) := by
  apply Forgets.modify_bind
  -- only a visit keeps a tally of its own; every other step is run as it is
  cases upcoming : w.upcoming? with
  | none => exact .ofExcept _
  | some next =>
    obtain ⟨place, inside⟩ := next
    obtain ⟨cursor, unvisited⟩ := upcoming?_eq_some_iff.1 upcoming
    rw [step_eq_visit cursor unvisited]
    exact .bind (tallyVisit_forgets place inside) fun w' => .pure _

end Walk

/-! ## §3 Walks and analyses with a tally -/

namespace Walk

/-- `finish` with a tally. -/
def tallyFinish (returnsValue : Bool) (w : Walk b) (t : Tally) :
    EStateM.Result BodyError Tally Nat :=
  match _h : w.tallyStep returnsValue t with
  | .error e t' => .error e t'
  | .ok (.inl peak) t' => .ok peak t'
  | .ok (.inr w') t' => w'.tallyFinish returnsValue t'
termination_by (w.unseen, w.backlog)
decreasing_by exact step_decreases (w.tallyStep_forgets.eq_ok _h)

theorem tallyFinish_forgets (w : Walk b) :
    Forgets (w.tallyFinish returnsValue) (w.finish returnsValue) := by
  intro t
  -- along the steps of the walk with a tally, each of which is one without
  fun_induction tallyFinish returnsValue w t with
  | case1 w t e t' failed => exact (finish_of_error (w.tallyStep_forgets.eq_error failed)).symm
  | case2 w t peak t' ended => exact (finish_of_end (w.tallyStep_forgets.eq_ok ended)).symm
  | case3 w t w' t' stepped ih => rw [ih, finish_of_step (w.tallyStep_forgets.eq_ok stepped)]

/-- What every step preserves, the tally included, holds of the walk whose step gives the outcome.
    -/
theorem tallyFinish_invariant {P : Walk b → Tally → Prop}
    (preserved : ∀ (w w' : Walk b) (t t' : Tally), P w t →
      w.tallyStep returnsValue t = .ok (.inr w') t' → P w' t')
    (w : Walk b) (t : Tally) (initial : P w t) :
    ∃ last t', P last t' ∧
      final (last.tallyStep returnsValue t') = final (w.tallyFinish returnsValue t) ∧
      outcome (last.tallyStep returnsValue t') =
        (outcome (w.tallyFinish returnsValue t)).map .inl := by
  -- the last step is the one that ends or fails, whose walk and tally the invariant is then about
  fun_induction tallyFinish returnsValue w t with
  | case1 w t e t' failed => exact ⟨w, t, initial, by rw [failed]; rfl, by rw [failed]; rfl⟩
  | case2 w t peak t' ended => exact ⟨w, t, initial, by rw [ended]; rfl, by rw [ended]; rfl⟩
  | case3 w t w' t' stepped ih => exact ih (preserved w w' t t' initial stepped)

end Walk

namespace Body

/-- `stackDepth` with a tally. -/
def tallyStackDepth (b : Body) (returnsValue : Bool) : Tallied UInt16 := do
  let places ← b.tallyEntries
  let peak ← (Walk.start b places).tallyFinish returnsValue
  if peak < 0x10000 then
    return UInt16.ofNat peak
  else
    throw (.stackTooDeep peak)

theorem tallyStackDepth_forgets :
    Forgets (b.tallyStackDepth returnsValue) (b.stackDepth returnsValue) := by
  apply Forgets.bind tallyEntries_forgets
  intro places
  apply Forgets.bind (Walk.tallyFinish_forgets _)
  intro peak t
  -- the limit of 16 bits is checked on the peak alone
  split <;> rfl

end Body

end Devirt
