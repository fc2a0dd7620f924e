import Devirt.Proofs.Runs
import Devirt.Proofs.StackDepth.Reachability

/-!
# Steps of the Walk

A walk records depths of lines and keeps places to visit. This module says what a step can do, so
that no later proof has to look into it, and which places a walk knows: those that it has visited,
the one where it is, and those that it keeps for later.

Main statements:
- `Body.mem_of_entries`, `Body.mem_of_pushTargets`: which places are put on the stack of places.
- `Walk.step_cases`, `Walk.visit_eq_ok`: all that a step can do.
- `Walk.finish_invariant`: what every step preserves holds where the walk ends.
- `Walk.knows_step`, `Walk.knows_of_passes`: a place that is known stays known, and what follows a
  visited place becomes known.
-/

namespace Devirt

variable {b : Body} {returnsValue : Bool}

/-! ## §1 Resolving several labels -/

namespace Body

theorem resolve_eq_ok {label : Label} {position : Nat} :
    b.resolve label = .ok position ↔ b.position? label = some position := by
  unfold resolve
  cases b.position? label <;> simp

/-- Targets are put on the stack of places one by one, so the last one comes out on top. -/
theorem pushTargets_eq_ok {depth : Nat} {places places' : List Place} {targets : List Label} :
    b.pushTargets depth places targets = .ok places' ↔
      ∃ positions : List Nat, targets.map b.position? = positions.map some ∧
        places' = (positions.map (⟨·, depth⟩)).reverse ++ places := by
  unfold pushTargets
  -- each target goes on top of those before it, so the places change along the list
  induction targets generalizing places with
  | nil =>
    constructor
    · rintro ⟨⟩
      exact ⟨[], rfl, rfl⟩
    · rintro ⟨positions, same, rfl⟩
      rw [List.map_nil, eq_comm, List.map_eq_nil_iff] at same
      rw [same]
      rfl
  | cons label targets ih =>
    simp only [List.foldlM_cons, Fallible.bind_eq_ok, Fallible.pure_eq_ok, resolve_eq_ok]
    constructor
    · rintro ⟨_, ⟨position, found, rfl⟩, rest⟩
      obtain ⟨positions, same, rfl⟩ := ih.1 rest
      exact ⟨position :: positions, by simp [found, same], by simp⟩
    · rintro ⟨positions, same, rfl⟩
      cases positions with
      | nil => simp at same
      | cons first positions =>
        obtain ⟨found, same⟩ := List.cons.inj same
        exact ⟨_, ⟨first, found, rfl⟩, ih.2 ⟨positions, same, by simp⟩⟩

/-- The places put on the stack are those of the targets, all of which are in the body. -/
theorem mem_of_pushTargets {depth : Nat} {places places' : List Place} {targets : List Label}
    (h : b.pushTargets depth places targets = .ok places') :
    (∀ label ∈ targets, (b.position? label).isSome) ∧
      ∀ place, place ∈ places' ↔ place ∈ places ∨
        ∃ label ∈ targets, ∃ position, b.position? label = some position ∧
          place = ⟨position, depth⟩ := by
  -- the places put on the stack are those of the positions, in some order
  obtain ⟨positions, same, rfl⟩ := pushTargets_eq_ok.1 h
  have mem : ∀ position : Nat, position ∈ positions ↔
      ∃ label ∈ targets, b.position? label = some position := by
    intro position
    have : some position ∈ targets.map b.position? ↔ some position ∈ positions.map some := by
      rw [same]
    simpa using this.symm
  constructor
  · intro label target
    have : b.position? label ∈ positions.map some := same ▸ List.mem_map_of_mem target
    obtain ⟨position, _, found⟩ := List.mem_map.1 this
    rw [← found]
    rfl
  · intro place
    simp only [List.mem_append, List.mem_reverse, List.mem_map, mem]
    constructor
    · rintro (⟨position, ⟨label, target, found⟩, rfl⟩ | old)
      · exact .inr ⟨label, target, position, found, rfl⟩
      · exact .inl old
    · rintro (old | ⟨label, target, position, found, rfl⟩)
      · exact .inr old
      · exact .inl ⟨position, ⟨label, target, found⟩, rfl⟩

/-- A handler puts what it opens on the stack of places. -/
theorem mem_of_pushEntries {places places' : List Place} {h : Handler}
    (ok : b.pushEntries places h = .ok places') (place : Place) :
    place ∈ places' ↔ place ∈ places ∨ b.Opens h place := by
  obtain ⟨position, resolved, ok⟩ := Fallible.bind_eq_ok.1 ok
  have found := resolve_eq_ok.1 resolved
  dsimp only at ok
  -- with or without a filter; a handler opens its own place, and its filter another one
  split at ok
  next filterStart =>
    obtain rfl := Fallible.pure_eq_ok.1 ok
    rw [List.mem_cons]
    constructor
    · rintro (rfl | old)
      · exact .inr (.handler found)
      · exact .inl old
    · rintro (old | opens)
      · exact .inr old
      · cases opens with
        | handler there => exact .inl (by rw [Option.some.inj (there.symm.trans found)])
        | filter starts _ => simp [filterStart] at starts
  next start filterStart =>
    obtain ⟨filterPosition, filter, ok⟩ := Fallible.bind_eq_ok.1 ok
    have filterFound := resolve_eq_ok.1 filter
    obtain rfl := Fallible.pure_eq_ok.1 ok
    rw [List.mem_cons, List.mem_cons]
    constructor
    · rintro (rfl | rfl | old)
      · exact .inr (.filter filterStart filterFound)
      · exact .inr (.handler found)
      · exact .inl old
    · rintro (old | opens)
      · exact .inr (.inr old)
      · cases opens with
        | handler there => exact .inr (.inl (by rw [Option.some.inj (there.symm.trans found)]))
        | filter starts there =>
          obtain rfl := Option.some.inj (starts.symm.trans filterStart)
          exact .inl (by rw [Option.some.inj (there.symm.trans filterFound)])

/-- The places at which a walk starts are the entries of the body. -/
theorem mem_of_entries {places : List Place} (ok : b.entries = .ok places) (place : Place) :
    place ∈ places ↔ b.IsEntry place := by
  unfold entries at ok
  rw [← Array.foldlM_toList] at ok
  -- the places of the handlers that are done, on top of the first line
  rw [Fallible.foldlM_induction (P := fun done places => place ∈ places ↔
    place ∈ (if b.length = 0 then [] else [⟨0, 0⟩]) ∨ ∃ h ∈ done, b.Opens h place) ok (by simp)
    fun done h before after known pushed => by
      rw [mem_of_pushEntries pushed, known]
      simp [or_and_right, exists_or, or_assoc]]
  constructor
  · rintro (first | ⟨h, declared, opens⟩)
    · split at first
      next => simp at first
      next nonempty =>
        rw [List.mem_singleton.1 first]
        exact .first (Nat.pos_of_ne_zero nonempty)
    · exact .handler (Array.mem_toList_iff.1 declared) opens
  · intro entry
    cases entry with
    | first nonempty => exact .inl (by simp [Nat.ne_of_gt nonempty])
    | handler declared opens => exact .inr ⟨_, Array.mem_toList_iff.2 declared, opens⟩

end Body

/-- The depth behind a line, when the line neither lacks values nor returns too many. -/
theorem Line.depthAfter_eq_ok {line : Line} {depth after : Nat} :
    line.depthAfter returnsValue depth = .ok after ↔
      ∃ rest, (line.instruction.stackUse returnsValue).takes.remaining? depth = some rest ∧
        (line.instruction.isReturn = true → rest = 0) ∧
        after = rest + (line.instruction.stackUse returnsValue).leaves := by
  simp only [depthAfter]
  cases (line.instruction.stackUse returnsValue).takes.remaining? depth with
  | none => simp
  | some rest =>
    by_cases excess : line.instruction.isReturn = true ∧ rest ≠ 0
    · simp [excess]
    · have settled : line.instruction.isReturn = true → rest = 0 := by
        intro isReturn
        by_contra left
        exact excess ⟨isReturn, left⟩
      simp only [if_neg excess, Except.ok.injEq, Option.some.injEq, exists_eq_left']
      exact ⟨fun same => ⟨settled, same.symm⟩, fun h => h.2.symm⟩

theorem Line.depthBehind?_of_depthAfter {line : Line} {depth after : Nat}
    (h : line.depthAfter returnsValue depth = .ok after) :
    line.instruction.depthBehind? returnsValue depth = some after := by
  obtain ⟨rest, enough, _, rfl⟩ := depthAfter_eq_ok.1 h
  rw [Instruction.depthBehind?, enough, Option.map_some]

namespace Walk

variable {w w' : Walk b}

/-! ## §2 What a step does -/

/-- A visit of a line: the line is safe, its depth is recorded, its targets are kept, and the walk
    goes on to the next line if the line falls through. -/
theorem visit_eq_ok {place : Place} {inside : place.position < b.length}
    (h : w.visit returnsValue place inside = .ok w') :
    ∃ depth pending,
      (b.lineAt place.position inside).depthAfter returnsValue place.depth = .ok depth ∧
      b.pushTargets depth w.pending
        (b.lineAt place.position inside).instruction.operand.targets = .ok pending ∧
      w' = {
        depths := w.depths.set place.position (some place.depth)
        peak := max w.peak depth
        cursor :=
          if (b.lineAt place.position inside).instruction.opcode.fallsThrough then
            some ⟨place.position + 1, depth⟩
          else none
        pending := pending } := by
  obtain ⟨depth, after, h⟩ := Fallible.bind_eq_ok.1 h
  obtain ⟨pending, targets, h⟩ := Fallible.bind_eq_ok.1 h
  exact ⟨depth, pending, after, targets, (Fallible.pure_eq_ok.1 h).symm⟩

/-- The step of a walk at a line that is new to it is a visit of the line. -/
theorem step_eq_visit {place : Place} {inside : place.position < b.length}
    (cursor : w.cursor = some place) (unvisited : w.depths[place.position] = none) :
    w.step returnsValue = Sum.inr <$> w.visit returnsValue place inside := by
  simp only [step, cursor, dif_pos inside, unvisited]
  cases w.visit returnsValue place inside <;> rfl

/-- A walk at a line that is new to it visits the line. -/
theorem step_of_visit {place : Place} {inside : place.position < b.length}
    (cursor : w.cursor = some place) (unvisited : w.depths[place.position] = none)
    (visited : w.visit returnsValue place inside = .ok w') :
    w.step returnsValue = .ok (.inr w') := by
  rw [step_eq_visit cursor unvisited, visited]
  rfl

/-- All that a step can do but end or fail. -/
theorem step_cases (h : w.step returnsValue = .ok (.inr w')) :
    (∃ place, ∃ inside : place.position < b.length, w.cursor = some place ∧
      w.depths[place.position] = none ∧ w.visit returnsValue place inside = .ok w') ∨
    (∃ place, w.cursor = some place ∧ w' = { w with cursor := none } ∧
      ∀ inside : place.position < b.length, w.depths[place.position] = some place.depth) ∨
    (∃ place pending, w.cursor = none ∧ w.pending = place :: pending ∧
      w' = { w with
        peak := max w.peak place.depth, cursor := some place, pending := pending }) := by
  unfold step at h
  -- where a step ends or fails, its outcome is not the one given
  split at h
  next place cursor =>
    split at h
    next inside =>
      split at h
      next unvisited =>
        split at h
        next visited =>
          cases h
          exact .inl ⟨place, inside, cursor, unvisited, visited⟩
        next => cases h
      next known recorded =>
        split at h
        next same =>
          cases h
          exact .inr (.inl ⟨place, cursor, rfl, fun _ => same ▸ recorded⟩)
        next => cases h
    next outside =>
      cases h
      exact .inr (.inl ⟨place, cursor, rfl, fun inside => absurd inside outside⟩)
  next cursor =>
    split at h
    next place pending places =>
      cases h
      exact .inr (.inr ⟨place, pending, cursor, places, rfl⟩)
    next => cases h

/-- The walk ends when nothing is left to visit. -/
theorem step_eq_end {peak : Nat} (h : w.step returnsValue = .ok (.inl peak)) :
    w.cursor = none ∧ w.pending = [] ∧ peak = w.peak := by
  -- of all branches of a step, only the one without cursor and without places ends the walk
  unfold step at h
  split at h
  next place cursor =>
    split at h
    next inside =>
      split at h
      · split at h <;> cases h
      · split at h <;> cases h
    next => cases h
  next cursor =>
    split at h
    next => cases h
    next absent =>
      cases h
      exact ⟨cursor, absent, rfl⟩

/-- What every step preserves holds of the walk whose step gives the outcome. -/
theorem finish_invariant {P : Walk b → Prop}
    (preserved : ∀ w w' : Walk b, P w → w.step returnsValue = .ok (.inr w') → P w')
    (w : Walk b) (initial : P w) :
    ∃ last, P last ∧ last.step returnsValue = (w.finish returnsValue).map .inl := by
  fun_induction finish returnsValue w with
  | case1 w e failed => exact ⟨w, initial, failed⟩
  | case2 w peak ended => exact ⟨w, initial, ended⟩
  | case3 w w' stepped ih => exact ih (preserved w w' initial stepped)

/-- A walk ends as the walk after one step does. -/
theorem finish_of_step (h : w.step returnsValue = .ok (.inr w')) :
    w.finish returnsValue = w'.finish returnsValue := by
  rw [finish]
  split <;> simp_all

theorem finish_of_end {peak : Nat} (h : w.step returnsValue = .ok (.inl peak)) :
    w.finish returnsValue = .ok peak := by
  rw [finish]
  split <;> simp_all

theorem finish_of_error {e : BodyError} (h : w.step returnsValue = .error e) :
    w.finish returnsValue = .error e := by
  rw [finish]
  split <;> simp_all

/-! ## §3 Places that a walk knows -/

/-- The walk has visited the place. -/
def Records (w : Walk b) (place : Place) : Prop :=
  w.depths[place.position]? = some (some place.depth)

/-- The walk has visited the place, is there, or keeps it for later. -/
def Knows (w : Walk b) (place : Place) : Prop :=
  w.Records place ∨ w.cursor = some place ∨ place ∈ w.pending

/-- At most one depth is recorded for a line. -/
theorem Records.depth_eq {p q : Place} (hp : w.Records p) (hq : w.Records q)
    (same : p.position = q.position) : p.depth = q.depth := by
  unfold Records at hp hq
  rw [same, hq] at hp
  exact (Option.some.inj (Option.some.inj hp)).symm

section Visit

variable {place : Place} {inside : place.position < b.length}
  (visited : w.visit returnsValue place inside = .ok w')

include visited

/-- A first visit records the place and forgets none. -/
theorem records_visit (unvisited : w.depths[place.position] = none) (p : Place) :
    w'.Records p ↔ p = place ∨ w.Records p := by
  obtain ⟨depth, pending, _, _, rfl⟩ := visit_eq_ok visited
  unfold Records
  rw [Vector.getElem?_set]
  split
  next same =>
    -- nothing was recorded for the line, so no other place with its position was visited
    have never : w.depths[p.position]? ≠ some (some p.depth) := by
      rw [← same, Vector.getElem?_eq_getElem inside, unvisited]
      simp
    simp only [never, or_false, Option.some.injEq]
    exact ⟨fun depths => by cases p; cases place; simp_all, fun eq => by rw [eq]⟩
  next different =>
    have : p ≠ place := fun eq => different (by rw [eq])
    simp [this]

theorem safeAt_visit : b.SafeAt returnsValue place := by
  obtain ⟨depth, pending, after, targets, _⟩ := visit_eq_ok visited
  -- the depth behind the line exists only if the line finds enough values and returns no more than
  -- it should
  obtain ⟨rest, enough, settled, _⟩ := Line.depthAfter_eq_ok.1 after
  exact ⟨_, rest, Body.getElem?_lines_lineAt inside, enough, settled,
    (Body.mem_of_pushTargets targets).1⟩

/-- The visited line, and the depth behind it. -/
theorem depthAfter_visit {line : Line} {depth : Nat}
    (here : b.lines[place.position]? = some line)
    (behind : line.instruction.depthBehind? returnsValue place.depth = some depth) :
    line = b.lineAt place.position inside ∧
      line.depthAfter returnsValue place.depth = .ok depth := by
  obtain ⟨after, pending, ok, _⟩ := visit_eq_ok visited
  rw [Body.getElem?_lines_lineAt inside] at here
  obtain rfl := Option.some.inj here
  -- the visit computes the depth that execution has behind the line
  rw [Line.depthBehind?_of_depthAfter ok] at behind
  exact ⟨rfl, by rw [ok, Option.some.inj behind]⟩

/-- Where control passes from the visited line is known afterwards. -/
theorem knows_of_passes {q : Place} (passes : b.Passes returnsValue place q) : w'.Knows q := by
  obtain ⟨depth, pending, after, targets, rfl⟩ := visit_eq_ok visited
  -- control passes to a target, which is now on the stack, or to the next line, which is the new
  -- cursor
  cases passes with
  | target here behind target found =>
    obtain ⟨rfl, same⟩ := depthAfter_visit visited here behind
    obtain rfl := Except.ok.inj (after.symm.trans same)
    exact .inr (.inr (((Body.mem_of_pushTargets targets).2 _).2
      (.inr ⟨_, target, _, found, rfl⟩)))
  | next here behind falls =>
    obtain ⟨rfl, same⟩ := depthAfter_visit visited here behind
    obtain rfl := Except.ok.inj (after.symm.trans same)
    exact .inr (.inl (if_pos falls))

/-- A visit where the walk is keeps all that is known. -/
theorem knows_visit (unvisited : w.depths[place.position] = none) (cursor : w.cursor = some place)
    {p : Place} (known : w.Knows p) : w'.Knows p := by
  have records := records_visit visited unvisited
  obtain ⟨depth, pending, _, targets, rfl⟩ := visit_eq_ok visited
  -- the cursor becomes a record, and the other two stay what they are
  rcases known with recorded | here | kept
  · exact .inl ((records p).2 (.inr recorded))
  · exact .inl ((records p).2 (.inl (Option.some.inj (here.symm.trans cursor))))
  · exact .inr (.inr (((Body.mem_of_pushTargets targets).2 p).2 (.inl kept)))

end Visit

/-- A step keeps all that is known inside the body. -/
theorem knows_step (stepped : w.step returnsValue = .ok (.inr w')) {p : Place}
    (within : p.position < b.length) (known : w.Knows p) : w'.Knows p := by
  rcases step_cases stepped with ⟨place, inside, cursor, unvisited, visited⟩ |
    ⟨place, cursor, rfl, recorded⟩ | ⟨place, pending, cursor, kept, rfl⟩
  · exact knows_visit visited unvisited cursor known
  · rcases known with recorded' | here | later
    · exact .inl recorded'
    -- the walk leaves a place inside the body only if the place has been visited
    · obtain rfl := Option.some.inj (here.symm.trans cursor)
      refine .inl ?_
      unfold Records
      rw [Vector.getElem?_eq_getElem within, recorded within]
    · exact .inr (.inr later)
  -- the place that is taken up is where the walk goes next
  · rcases known with recorded | here | later
    · exact .inl recorded
    · simp [cursor] at here
    · rw [kept, List.mem_cons] at later
      rcases later with rfl | later
      · exact .inr (.inl rfl)
      · exact .inr (.inr later)

end Walk

end Devirt
