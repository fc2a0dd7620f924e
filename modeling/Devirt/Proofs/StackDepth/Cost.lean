import Devirt.Proofs.StackDepth.Soundness
import Devirt.Proofs.StackDepth.Tally
import Mathlib.Algebra.GroupWithZero.Nat
import Mathlib.Algebra.Order.BigOperators.Group.List
import Mathlib.Algebra.Order.Group.Nat

/-!
# The Cost of a Walk

A walk puts places on its stack of places while it takes others off, and the body may well lead
round in circles. What keeps the walk from going on forever is that it visits a line only if it has
no depth for it. A visit puts as many places on the stack as the line has targets, so all visits
together put no more there than all lines have targets. Every place on the stack pays for two steps:
the one that takes it off, and the one that ends the path from there.

Main statements:
- `Pushes`: how many places a computation puts on the stack.
- `Walk.tells_of_tallyStep`: the tally of a step tells of what the step does to the walk.
- `Walk.Accounts`: how a tally is related to the walk that keeps it; every step preserves that.
- `Tally.Fits`: what holds of every tally, also of one that a failure leaves behind.
- `Body.stackDepth_visits_once`: what the analysis of the evaluation stack costs.
-/

namespace Devirt

open Stateful

variable {b : Body} {returnsValue : Bool}

/-! ## §1 Counting places -/

/-- The computation puts at most `count` places on top of the given ones, and tells the tally about
    all of them, even if it fails afterwards. It tells the tally nothing else. -/
def Pushes (places : List Place) (count : Nat) (x : Tallied (List Place)) : Prop :=
  ∀ t, ∃ new : List Place, new.length ≤ count ∧
    final (x t) = { t with queued := new ++ t.queued } ∧
    ∀ after, outcome (x t) = .ok after → after = new ++ places

namespace Pushes

variable {places : List Place} {count count' : Nat}

theorem mono {x : Tallied (List Place)} (h : Pushes places count x) (le : count ≤ count') :
    Pushes places count' x := by
  intro t
  obtain ⟨new, bound, rest⟩ := h t
  exact ⟨new, Nat.le_trans bound le, rest⟩

theorem pure (places : List Place) : Pushes places 0 (Pure.pure places) := by
  intro t
  refine ⟨[], Nat.le_refl 0, rfl, ?_⟩
  intro after same
  exact (Except.ok.inj same).symm

theorem queue (place : Place) (places : List Place) : Pushes places 1 (queue place places) := by
  intro t
  refine ⟨[place], Nat.le_refl 1, rfl, ?_⟩
  intro after same
  exact (Except.ok.inj same).symm

/-- The places of the second step come on top of those of the first one. -/
theorem bind {x : Tallied (List Place)} {f : List Place → Tallied (List Place)}
    (first : Pushes places count x) (second : ∀ after, Pushes after count' (f after)) :
    Pushes places (count + count') (x >>= f) := by
  -- the places of the first step lie below those of the second one, on the stack and in the tally
  intro t
  obtain ⟨new, bound, tally, top⟩ := first t
  cases run : x t with
  | ok after t' =>
    rw [run] at tally top
    obtain rfl := top after rfl
    obtain rfl : t' = _ := tally
    obtain ⟨new', bound', tally', top'⟩ :=
      second (new ++ places) { t with queued := new ++ t.queued }
    rw [bind_of_ok run]
    refine ⟨new' ++ new, ?_, ?_, ?_⟩
    · rw [List.length_append]
      omega
    · rw [List.append_assoc]
      exact tally'
    · rw [List.append_assoc]
      exact top'
  | error e t' =>
    rw [run] at tally
    rw [bind_of_error run]
    exact ⟨new, Nat.le_add_right_of_le bound, tally, nofun⟩

/-- A first step that puts nothing on the stack. -/
theorem ofExcept_bind {α : Type} {y : Except BodyError α} {f : α → Tallied (List Place)}
    (second : ∀ a, Pushes places count (f a)) :
    Pushes places count (MonadExcept.ofExcept y >>= f) := by
  intro t
  cases y with
  | ok a => exact second a t
  | error e => exact ⟨[], Nat.zero_le _, rfl, nofun⟩

theorem foldlM {α : Type} {f : List Place → α → Tallied (List Place)}
    (each : ∀ places a, Pushes places count (f places a)) (as : List α) (places : List Place) :
    Pushes places (count * as.length) (as.foldlM f places) := by
  -- each step works on the stack that the steps before it have left
  induction as generalizing places with
  | nil => exact pure places
  | cons a as ih =>
    rw [List.foldlM_cons, List.length_cons, Nat.mul_succ, Nat.add_comm]
    exact bind (each places a) ih

end Pushes

namespace Body

/-- A handler has one entry of its own, and one for its filter. -/
theorem pushes_tallyPushEntries (places : List Place) (h : Handler) :
    Pushes places 2 (b.tallyPushEntries places h) := by
  unfold tallyPushEntries
  apply Pushes.ofExcept_bind
  intro start
  -- at most one place for the handler and one for its filter
  show Pushes places (1 + 1) _
  apply Pushes.bind (.queue _ _)
  intro after
  cases h.filterStart with
  | none => exact (Pushes.pure after).mono (Nat.zero_le 1)
  | some filter => exact .ofExcept_bind fun _ => .queue _ _

theorem pushes_tallyEntries : Pushes [] (1 + 2 * b.handlers.size) b.tallyEntries := by
  unfold tallyEntries
  rw [← Array.length_toList]
  refine Pushes.bind ?_ fun places => .foldlM pushes_tallyPushEntries _ places
  -- the first line is an entry unless the body is empty
  split
  next => exact (Pushes.pure []).mono (Nat.zero_le 1)
  next => exact .queue _ _

theorem pushes_tallyPushTargets (depth : Nat) (places : List Place) (targets : List Label) :
    Pushes places targets.length (b.tallyPushTargets depth places targets) := by
  rw [← Nat.one_mul targets.length]
  apply Pushes.foldlM
  intro places target
  exact .ofExcept_bind fun position => .queue _ _

/-- Unless one of them is missing, all targets come on top. -/
theorem length_of_pushTargets {depth : Nat} {places places' : List Place} {targets : List Label}
    (h : b.pushTargets depth places targets = .ok places') :
    places'.length = targets.length + places.length := by
  obtain ⟨positions, same, rfl⟩ := pushTargets_eq_ok.1 h
  have count := congrArg List.length same
  rw [List.length_map, List.length_map] at count
  simp [count]

/-! ## §2 Counting targets -/

/-- Number of targets of the line at a position. -/
def targetsAt (b : Body) (position : Nat) : Nat :=
  (b.lines[position]?.map fun line => line.instruction.operand.targets.length).getD 0

/-- Number of targets of all lines. -/
def countTargets (b : Body) : Nat :=
  (b.lines.map fun line => line.instruction.operand.targets.length).sum

theorem targetsAt_lineAt {position : Nat} (inside : position < b.length) :
    b.targetsAt position =
      (b.lineAt position inside).instruction.operand.targets.length := by
  rw [targetsAt, getElem?_lines_lineAt inside, Option.map_some, Option.getD_some]

/-- Different positions are, in another order, some of all positions. -/
theorem subperm_positions {positions : List Nat} (nodup : positions.Nodup)
    (inside : ∀ i ∈ positions, i < b.length) : positions.Subperm (List.range b.length) :=
  List.subperm_of_subset nodup fun i mem => List.mem_range.2 (inside i mem)

/-- The targets of different lines are no more than those of all lines. -/
theorem sum_targetsAt_le {positions : List Nat} (nodup : positions.Nodup)
    (inside : ∀ i ∈ positions, i < b.length) :
    (positions.map b.targetsAt).sum ≤ b.countTargets := by
  have all : (List.range b.length).map b.targetsAt =
      b.lines.map fun line => line.instruction.operand.targets.length := by
    apply List.ext_getElem
    · simp [b.length_lines]
    · intro i _ within
      rw [List.length_map] at within
      simp [targetsAt, within]
  -- the order does not matter for a sum, so the positions may be taken in that of the lines
  obtain ⟨sorted, same, sublist⟩ := subperm_positions nodup inside
  calc (positions.map b.targetsAt).sum
      = (sorted.map b.targetsAt).sum := (same.map _).sum_eq.symm
    _ ≤ ((List.range b.length).map b.targetsAt).sum :=
        (sublist.map _).sum_le_sum fun _ _ => Nat.zero_le _
    _ = b.countTargets := by rw [all, countTargets]

end Body

/-! ## §3 What a step adds to the tally -/

namespace Walk

variable {w w' : Walk b} {t t' : Tally}

/-- A visit puts the targets of the line on the stack of places, up to the first one that is not in
    the body. -/
theorem final_tallyVisit (returnsValue : Bool) (w : Walk b) (t : Tally) {place : Place}
    (inside : place.position < b.length) :
    ∃ new : List Place, new.length ≤ b.targetsAt place.position ∧
      final (w.tallyVisit returnsValue place inside t) =
        ⟨place.position :: t.visited, new ++ t.queued, t.steps⟩ ∧
      ∀ w', w.visit returnsValue place inside = .ok w' →
        w'.pending = new ++ w.pending ∧ new.length = b.targetsAt place.position := by
  rw [Body.targetsAt_lineAt inside]
  cases after : (b.lineAt place.position inside).depthAfter returnsValue place.depth with
  -- a line that fails by itself has no effect on the stack of places
  | error e =>
    refine ⟨[], Nat.zero_le _, ?_, fun w' visited => ?_⟩
    · simp only [tallyVisit, after]
      rfl
    · obtain ⟨_, _, ok, _⟩ := visit_eq_ok visited
      rw [after] at ok
      cases ok
  | ok depth =>
    obtain ⟨new, bound, tally, top⟩ := Body.pushes_tallyPushTargets (b := b) depth w.pending
      (b.lineAt place.position inside).instruction.operand.targets
      ⟨place.position :: t.visited, t.queued, t.steps⟩
    refine ⟨new, bound, ?_, fun w' visited => ?_⟩
    -- the rest of the visit does not concern the tally
    · rw [← tally]
      simp only [tallyVisit, after]
      exact final_bind_pure _ _ _
    · obtain ⟨depth', pending, ok, targets, rfl⟩ := visit_eq_ok visited
      obtain rfl := Except.ok.inj (after.symm.trans ok)
      have all := Body.length_of_pushTargets targets
      rw [← Body.tallyPushTargets_forgets] at targets
      obtain rfl := top pending targets
      rw [List.length_append] at all
      exact ⟨rfl, Nat.add_right_cancel all⟩

/-- A visit adds a line and its targets to the tally, and every other step nothing but itself. A
    step that is no visit works off what is left to do. -/
theorem tallyStep_cases (returnsValue : Bool) (w : Walk b) (t : Tally) :
    (∃ place new, ∃ inside : place.position < b.length, w.cursor = some place ∧
      w.depths[place.position] = none ∧ new.length ≤ b.targetsAt place.position ∧
      final (w.tallyStep returnsValue t) =
        ⟨place.position :: t.visited, new ++ t.queued, t.steps + 1⟩ ∧
      ∀ w', w.step returnsValue = .ok (.inr w') →
        w.visit returnsValue place inside = .ok w' ∧ w'.pending = new ++ w.pending ∧
          new.length = b.targetsAt place.position) ∨
    (final (w.tallyStep returnsValue t) = { t with steps := t.steps + 1 } ∧
      ∀ w', w.step returnsValue = .ok (.inr w') →
        w'.depths = w.depths ∧ w'.backlog < w.backlog ∧
          (w'.pending = w.pending ∨ ∃ place, w.pending = place :: w'.pending)) := by
  cases upcoming : w.upcoming? with
  -- the visit is the same with and without a tally, so what it does to the walk is known
  | some next =>
    obtain ⟨place, inside⟩ := next
    obtain ⟨cursor, unvisited⟩ := upcoming?_eq_some_iff.1 upcoming
    obtain ⟨new, bound, tally, top⟩ :=
      final_tallyVisit returnsValue w { t with steps := t.steps + 1 } inside
    refine .inl ⟨place, new, inside, cursor, unvisited, bound, ?_, fun w' stepped => ?_⟩
    · rw [← tally]
      simp only [tallyStep, upcoming]
      exact final_bind_pure _ _ _
    · rw [step_eq_visit cursor unvisited] at stepped
      obtain ⟨w', visited, ⟨⟩⟩ := Fallible.map_eq_ok.1 stepped
      exact ⟨visited, top w' visited⟩
  | none =>
    refine .inr ⟨?_, fun w' stepped => ?_⟩
    · simp only [tallyStep, upcoming]
      cases w.step returnsValue <;> rfl
    · rcases step_cases stepped with ⟨place, inside, cursor, unvisited, _⟩ |
        ⟨place, cursor, rfl, _⟩ | ⟨place, pending, cursor, kept, rfl⟩
      -- a visit would have been announced
      · rw [upcoming?_eq_some_iff.2 ⟨cursor, unvisited⟩] at upcoming
        cases upcoming
      · refine ⟨rfl, ?_, .inl rfl⟩
        simp [backlog, cursor]
      · refine ⟨rfl, ?_, .inr ⟨place, kept⟩⟩
        simp [backlog, cursor, kept]
        omega

/-- A step that goes on is a visit, of which the tally learns, or works off what is left to do. -/
theorem tallyStep_eq_ok (stepped : w.tallyStep returnsValue t = .ok (.inr w') t') :
    (∃ place new, ∃ inside : place.position < b.length,
      w.cursor = some place ∧ w.depths[place.position] = none ∧
      w.visit returnsValue place inside = .ok w' ∧ w'.pending = new ++ w.pending ∧
      new.length = b.targetsAt place.position ∧
      t' = ⟨place.position :: t.visited, new ++ t.queued, t.steps + 1⟩) ∨
    w'.depths = w.depths ∧ w'.backlog < w.backlog ∧
      (w'.pending = w.pending ∨ ∃ place, w.pending = place :: w'.pending) ∧
      t' = { t with steps := t.steps + 1 } := by
  -- what a step does to the walk is known of the step without a tally
  have plain := w.tallyStep_forgets.eq_ok stepped
  rcases tallyStep_cases returnsValue w t with
    ⟨place, new, inside, cursor, unvisited, _, tally, going⟩ | ⟨tally, going⟩
  · obtain ⟨visited, pending, all⟩ := going w' plain
    rw [stepped] at tally
    exact .inl ⟨place, new, inside, cursor, unvisited, visited, pending, all, tally⟩
  · obtain ⟨depths, shrinks, stack⟩ := going w' plain
    rw [stepped] at tally
    exact .inr ⟨depths, shrinks, stack, tally⟩

/-- Between two walks one step apart, the tally has learnt of the step and of all that it did: of
    the line whose depth is recorded for the first time, and of the places that are put on the
    stack. Apart from these, a step takes at most one place off the stack. -/
structure Tells (w w' : Walk b) (t t' : Tally) : Prop where
  lines : ∃ new, t'.visited = new ++ t.visited ∧ ∀ i, i ∈ new ↔
    (∃ depth, w'.Records ⟨i, depth⟩) ∧ ¬ ∃ depth, w.Records ⟨i, depth⟩
  places : ∃ new, t'.queued = new ++ t.queued ∧
    (w'.pending = new ++ w.pending ∨ new = [] ∧ ∃ place, w.pending = place :: w'.pending)
  steps : t'.steps = t.steps + 1

/-- Where no depth is recorded, no place has been visited. -/
theorem not_records_of_unvisited {i : Nat} {inside : i < b.length}
    (unvisited : w.depths[i] = none) : ¬ ∃ depth, w.Records ⟨i, depth⟩ := by
  rintro ⟨depth, recorded⟩
  unfold Records at recorded
  rw [Vector.getElem?_eq_getElem inside, unvisited] at recorded
  cases recorded

/-- A visit records the depth of one line more. -/
theorem exists_records_visit {place : Place} {inside : place.position < b.length}
    (visited : w.visit returnsValue place inside = .ok w')
    (unvisited : w.depths[place.position] = none) (i : Nat) :
    (∃ depth, w'.Records ⟨i, depth⟩) ↔ i = place.position ∨ ∃ depth, w.Records ⟨i, depth⟩ := by
  have here : (∃ depth, (⟨i, depth⟩ : Place) = place) ↔ i = place.position := by
    constructor
    · rintro ⟨depth, rfl⟩
      rfl
    · intro same
      exact ⟨place.depth, by rw [same]⟩
  simp only [records_visit visited unvisited, exists_or, here]

/-- The tally of a step tells of what the step does to the walk. -/
theorem tells_of_tallyStep (stepped : w.tallyStep returnsValue t = .ok (.inr w') t') :
    w.Tells w' t t' := by
  rcases tallyStep_eq_ok stepped with
    ⟨place, new, inside, _, unvisited, visited, pending, _, rfl⟩ | ⟨depths, _, stack, rfl⟩
  · refine ⟨⟨[place.position], rfl, fun i => ?_⟩, ⟨new, rfl, .inl pending⟩, rfl⟩
    have fresh := not_records_of_unvisited unvisited
    rw [exists_records_visit visited unvisited, List.mem_singleton]
    constructor
    · rintro rfl
      exact ⟨.inl rfl, fresh⟩
    · rintro ⟨here | before, absent⟩
      · exact here
      · exact absurd before absent
  · refine ⟨⟨[], rfl, fun i => ?_⟩, ⟨[], rfl, stack.imp id fun taken => ⟨rfl, taken⟩⟩, rfl⟩
    unfold Records
    simp [depths]

/-! ## §4 The tally of a walk -/

/-- How a tally is related to the walk that keeps it, and to the number of places at which the walk
    has started. -/
structure Accounts (entries : Nat) (w : Walk b) (t : Tally) : Prop where
  nodup : t.visited.Nodup
  visited : ∀ i, i ∈ t.visited ↔ ∃ depth, w.Records ⟨i, depth⟩
  queued : t.queued.length = entries + (t.visited.map b.targetsAt).sum
  /-- Each visit is a step, and a place on the stack pays for two. -/
  steps : t.steps + w.backlog ≤ t.visited.length + 2 * t.queued.length

namespace Accounts

variable {entries : Nat}

/-- A line without a depth has not been visited. -/
theorem not_mem_visited (h : w.Accounts entries t) {i : Nat} {inside : i < b.length}
    (unvisited : w.depths[i] = none) : i ∉ t.visited :=
  fun mem => not_records_of_unvisited unvisited ((h.visited i).1 mem)

theorem step (h : w.Accounts entries t)
    (stepped : w.tallyStep returnsValue t = .ok (.inr w') t') : w'.Accounts entries t' := by
  have before := h.steps
  rcases tallyStep_eq_ok stepped with
    ⟨place, new, inside, cursor, unvisited, visited, pending, all, rfl⟩ | ⟨depths, shrinks, _, rfl⟩
  · constructor
    case nodup => exact List.nodup_cons.2 ⟨h.not_mem_visited unvisited, h.nodup⟩
    case visited =>
      intro i
      rw [List.mem_cons, h.visited, exists_records_visit visited unvisited]
    case queued =>
      have queued := h.queued
      simp only [List.length_append, List.map_cons, List.sum_cons]
      omega
    case steps =>
      -- the visit pays for its own step, and the new places for two steps each
      have one := Bool.toNat_le w'.cursor.isSome
      simp only [backlog, cursor, Option.isSome_some, Bool.toNat_true] at before
      simp only [backlog, pending, List.length_append, List.length_cons]
      omega
  · refine ⟨h.nodup, ?_, h.queued, ?_⟩
    · unfold Records
      rw [depths]
      exact h.visited
    · show t.steps + 1 + w'.backlog ≤ t.visited.length + 2 * t.queued.length
      omega

end Accounts

end Walk

/-- What holds of the tally of a walk, also when the walk has failed. -/
structure Tally.Fits (t : Tally) (b : Body) (returnsValue : Bool) : Prop where
  nodup : t.visited.Nodup
  reached : ∀ i ∈ t.visited, ∃ depth, b.Reaches returnsValue ⟨i, depth⟩
  queued : t.queued.length ≤ 1 + 2 * b.handlers.size + (t.visited.map b.targetsAt).sum
  /-- The one step more is the last one, which fails or finds nothing left to do. -/
  steps : t.steps ≤ t.visited.length + 2 * t.queued.length + 1

namespace Tally.Fits

variable {t : Tally}

theorem position_lt (h : t.Fits b returnsValue) {i : Nat} (mem : i ∈ t.visited) : i < b.length := by
  obtain ⟨depth, reached⟩ := h.reached i mem
  exact reached.position_lt

theorem length_visited_le (h : t.Fits b returnsValue) : t.visited.length ≤ b.length := by
  -- different positions in the body are not more than all of its positions
  have part := Body.subperm_positions h.nodup fun i mem => h.position_lt mem
  simpa using part.length_le

theorem queued_le (h : t.Fits b returnsValue) :
    t.queued.length ≤ 1 + 2 * b.handlers.size + b.countTargets := by
  have queued := h.queued
  have targets := Body.sum_targetsAt_le h.nodup fun i mem => h.position_lt mem
  omega

theorem steps_le (h : t.Fits b returnsValue) :
    t.steps ≤ b.length + 2 * (1 + 2 * b.handlers.size + b.countTargets) + 1 := by
  have steps := h.steps
  have visited := h.length_visited_le
  have queued := h.queued_le
  omega

end Tally.Fits

namespace Walk

variable {w : Walk b} {t : Tally}

/-- Whatever a step comes to, its tally fits. -/
theorem Accounts.fits {entries : Nat} (h : w.Accounts entries t)
    (few : entries ≤ 1 + 2 * b.handlers.size) (grounded : w.Grounded returnsValue) :
    (final (w.tallyStep returnsValue t)).Fits b returnsValue := by
  have queued := h.queued
  have steps := h.steps
  have reached : ∀ i ∈ t.visited, ∃ depth, b.Reaches returnsValue ⟨i, depth⟩ := by
    intro i mem
    obtain ⟨depth, recorded⟩ := (h.visited i).1 mem
    exact ⟨depth, grounded.records _ recorded⟩
  -- a step that fails has told the tally of itself, and of the visit if it is one
  rcases tallyStep_cases returnsValue w t with
    ⟨place, new, inside, cursor, unvisited, bound, tally, _⟩ | ⟨tally, _⟩
  · rw [tally]
    constructor
    case nodup => exact List.nodup_cons.2 ⟨h.not_mem_visited unvisited, h.nodup⟩
    case reached =>
      intro i mem
      rcases List.mem_cons.1 mem with rfl | old
      · exact ⟨place.depth, grounded.cursor place cursor inside⟩
      · exact reached i old
    case queued =>
      simp only [List.length_append, List.map_cons, List.sum_cons]
      omega
    case steps =>
      simp only [List.length_append, List.length_cons]
      omega
  · rw [tally]
    refine ⟨h.nodup, reached, h.queued.trans_le (Nat.add_le_add_right few _), ?_⟩
    show t.steps + 1 ≤ t.visited.length + 2 * t.queued.length + 1
    omega

theorem accounts_start (places : List Place) :
    (start b places).Accounts places.length ⟨[], places, 0⟩ := by
  constructor
  case nodup => exact List.nodup_nil
  case visited => simp [not_records_start]
  case queued => simp
  case steps => simp [start, backlog]

/-- A walk from the entries of a body keeps a tally that fits. If it comes to its end, it has
    visited all lines that execution can reach, and has put all their targets on the stack. -/
theorem fits_tallyFinish {places : List Place} (entries : b.entries = .ok places)
    (few : places.length ≤ 1 + 2 * b.handlers.size) {t : Tally}
    (finished : final ((start b places).tallyFinish returnsValue ⟨[], places, 0⟩) = t) :
    t.Fits b returnsValue ∧
      ∀ peak, (start b places).finish returnsValue = .ok peak →
        (∀ place, b.Reaches returnsValue place → place.position ∈ t.visited) ∧
        t.queued.length = places.length + (t.visited.map b.targetsAt).sum := by
  obtain ⟨groundedStart, coversStart, _⟩ : _ ∧ _ ∧ (start b places).Bounds returnsValue :=
    invariants_start entries
  -- the invariants of the walk together with that of its tally
  obtain ⟨last, t', ⟨accounts, grounded, covers⟩, tally, result⟩ := tallyFinish_invariant
    (P := fun w t => w.Accounts places.length t ∧ w.Grounded returnsValue ∧ w.Covers returnsValue)
    (fun w w' t t' ⟨accounts, grounded, covers⟩ stepped => by
      have plain := w.tallyStep_forgets.eq_ok stepped
      exact ⟨accounts.step stepped, grounded.step plain, covers.step plain⟩)
    (start b places) _ ⟨accounts_start places, groundedStart, coversStart⟩
  rw [← finished, ← tally]
  refine ⟨accounts.fits few grounded, fun peak ended => ?_⟩
  rw [tallyStep_forgets, tallyFinish_forgets, ended] at result
  obtain ⟨cursor, pending, _⟩ := step_eq_end result
  -- the step that ends the walk is no visit
  rcases tallyStep_cases returnsValue last t' with ⟨here, _, _, there, _⟩ | ⟨same, _⟩
  · rw [cursor] at there
    cases there
  · rw [same]
    refine ⟨fun place reached => ?_, accounts.queued⟩
    have recorded := covers.records_of_reaches cursor pending reached
    exact (accounts.visited place.position).2 ⟨place.depth, recorded⟩

end Walk

/-! ## §5 The analysis of the evaluation stack -/

namespace Body

/-- The analysis fails before it starts to walk, or its tally is that of a walk from the entries. -/
theorem final_tallyStackDepth (b : Body) (returnsValue : Bool) :
    (∃ new e, new.length ≤ 1 + 2 * b.handlers.size ∧ b.entries = .error e ∧
      final (b.tallyStackDepth returnsValue {}) = ⟨[], new, 0⟩) ∨
    ∃ places, places.length ≤ 1 + 2 * b.handlers.size ∧ b.entries = .ok places ∧
      final (b.tallyStackDepth returnsValue {}) =
        final ((Walk.start b places).tallyFinish returnsValue ⟨[], places, 0⟩) := by
  obtain ⟨new, few, tally, top⟩ := pushes_tallyEntries (b := b) {}
  -- the entries are all that can fail before the walk, and have put nothing but themselves in the
  -- tally
  unfold tallyStackDepth
  cases entered : b.tallyEntries {} with
  | error e t =>
    rw [entered] at tally
    rw [bind_of_error entered]
    exact .inl ⟨new, e, few, tallyEntries_forgets.eq_error entered, by simpa [final] using tally⟩
  | ok places t =>
    rw [entered] at tally top
    obtain rfl : places = new := by simpa using top places rfl
    obtain rfl : t = ⟨[], places, 0⟩ := by simpa [final] using tally
    rw [bind_of_ok entered]
    refine .inr ⟨places, few, tallyEntries_forgets.eq_ok entered, ?_⟩
    exact final_bind (fun _ _ => by split <;> rfl) _

/-- The entries of a body are on the stack before the walk starts, and the tally tells of them. -/
theorem queued_of_tallyEntries {places : List Place} {t : Tally}
    (entered : b.tallyEntries {} = .ok places t) : t.queued = places := by
  obtain ⟨new, _, tally, top⟩ := pushes_tallyEntries (b := b) {}
  rw [entered] at tally top
  obtain rfl : t = _ := tally
  rw [top places rfl]

/-- The tally of an analysis fits. If the analysis succeeds, it has visited all lines that execution
    can reach, and has put all their targets on the stack. -/
theorem fits_tallyStackDepth (b : Body) (returnsValue : Bool) :
    let t := final (b.tallyStackDepth returnsValue {})
    t.Fits b returnsValue ∧ ∀ m, b.stackDepth returnsValue = .ok m →
      (∀ place, b.Reaches returnsValue place → place.position ∈ t.visited) ∧
      ∃ places, b.entries = .ok places ∧
        t.queued.length = places.length + (t.visited.map b.targetsAt).sum := by
  intro t
  -- an analysis that has not started to walk has visited nothing, and has not succeeded
  rcases final_tallyStackDepth b returnsValue with
    ⟨new, e, few, failed, tally⟩ | ⟨places, few, entries, tally⟩
  · rw [show t = _ from tally]
    refine ⟨⟨List.nodup_nil, by simp, by simpa using few, Nat.zero_le _⟩, fun m bounded => ?_⟩
    obtain ⟨places, entries, _⟩ := stackDepth_eq_ok bounded
    rw [failed] at entries
    cases entries
  · obtain ⟨fits, complete⟩ := Walk.fits_tallyFinish entries few tally.symm
    refine ⟨fits, fun m bounded => ?_⟩
    obtain ⟨places', entries', finished⟩ := stackDepth_eq_ok bounded
    obtain rfl := Except.ok.inj (entries.symm.trans entries')
    obtain ⟨visited, queued⟩ := complete _ finished
    exact ⟨visited, places, entries, queued⟩

/-- The analysis of the evaluation stack ends, whatever the body and its handlers are, and whether
    it succeeds or fails. It visits no line twice, and no line that execution cannot reach; if it
    succeeds, it visits all lines that execution can reach. The number of places ever put on the
    stack of places is at most one, and two for each handler, and one for each target of a line. So
    the number of steps is bounded as well.

    The tally is that of the stack of places: it starts with the entries that are there before the
    walk, and with every step it learns of exactly the line that is recorded and of the places that
    come on top. If the analysis succeeds, these are the entries and the targets of the lines
    visited. -/
theorem stackDepth_visits_once (b : Body) (returnsValue : Bool) :
    let run := b.tallyStackDepth returnsValue {}
    let t := final run
    outcome run = b.stackDepth returnsValue ∧
    t.visited.Nodup ∧
    (∀ i ∈ t.visited, ∃ depth, b.Reaches returnsValue ⟨i, depth⟩) ∧
    (∀ m, outcome run = .ok m →
      ∀ place, b.Reaches returnsValue place → place.position ∈ t.visited) ∧
    t.queued.length ≤ 1 + 2 * b.handlers.size + b.countTargets ∧
    t.steps ≤ b.length + 2 * (1 + 2 * b.handlers.size + b.countTargets) + 1 ∧
    (∀ places before, b.tallyEntries {} = .ok places before → before.queued = places) ∧
    (∀ (w w' : Walk b) (before after : Tally),
      w.tallyStep returnsValue before = .ok (.inr w') after → w.Tells w' before after) ∧
    (∀ m, outcome run = .ok m → ∃ places, b.entries = .ok places ∧
      t.queued.length = places.length + (t.visited.map b.targetsAt).sum) := by
  intro run t
  have forgets : outcome run = b.stackDepth returnsValue := tallyStackDepth_forgets {}
  obtain ⟨fits, complete⟩ := fits_tallyStackDepth b returnsValue
  refine ⟨forgets, fits.nodup, fits.reached, fun m bounded => ?_, fits.queued_le, fits.steps_le,
    fun _ _ => queued_of_tallyEntries, fun _ _ _ _ => Walk.tells_of_tallyStep, fun m bounded => ?_⟩
  · exact (complete m (forgets.symm.trans bounded)).1
  · exact (complete m (forgets.symm.trans bounded)).2

end Body

end Devirt
