import Devirt.Proofs.StackDepth.Walk
import Mathlib.Order.Bounds.Basic

/-!
# Soundness of the Stack Bound

Three invariants tie a walk to the places that execution can reach. What the walk has visited or
keeps can be reached (`Walk.Grounded`); what follows a visited place is known (`Walk.Covers`); and
the peak bounds every depth that has been met (`Walk.Bounds`). Every step preserves them. When the
walk ends it knows nothing but what it has visited, so the places that it has visited are exactly
the ones that can be reached.

Main statement: `Body.stackDepth_sound`.
-/

namespace Devirt

variable {b : Body} {returnsValue : Bool}

namespace Walk

variable {w w' : Walk b}

/-! ## §1 What the walk knows can be reached -/

/-- Whatever the walk has visited or keeps can be reached, and its peak is attained. -/
structure Grounded (returnsValue : Bool) (w : Walk b) : Prop where
  records : ∀ place, w.Records place → b.Reaches returnsValue place
  pending : ∀ place ∈ w.pending, b.Reaches returnsValue place
  /-- The place where the walk is, unless it has walked off the end. -/
  cursor : ∀ place, w.cursor = some place → place.position < b.length →
    b.Reaches returnsValue place
  peak : w.peak = 0 ∨ b.Attains returnsValue w.peak

/-- The greater of two depths is attained if both are. -/
theorem attains_max {m n : Nat} (hm : m = 0 ∨ b.Attains returnsValue m)
    (hn : b.Attains returnsValue n) : max m n = 0 ∨ b.Attains returnsValue (max m n) := by
  rcases Nat.le_total m n with le | le
  · exact .inr (by rwa [Nat.max_eq_right le])
  · rwa [Nat.max_eq_left le]

theorem grounded_visit {place : Place} {inside : place.position < b.length}
    (grounded : w.Grounded returnsValue) (cursor : w.cursor = some place)
    (unvisited : w.depths[place.position] = none)
    (visited : w.visit returnsValue place inside = .ok w') : w'.Grounded returnsValue := by
  have records := records_visit visited unvisited
  have reached := grounded.cursor place cursor inside
  have here := Body.getElem?_lines_lineAt inside
  obtain ⟨depth, pending, after, targets, rfl⟩ := visit_eq_ok visited
  have behind := Line.depthBehind?_of_depthAfter after
  constructor
  case records =>
    intro p recorded
    rcases (records p).1 recorded with rfl | old
    · exact reached
    · exact grounded.records p old
  -- what a visit adds to the places is one step away from the place visited
  case pending =>
    intro p kept
    rcases ((Body.mem_of_pushTargets targets).2 p).1 kept with
      old | ⟨label, target, position, found, rfl⟩
    · exact grounded.pending p old
    · exact .step reached (.target here behind target found)
  case cursor =>
    intro p next within
    obtain ⟨falls, rfl⟩ := (Option.ite_none_right_eq_some.1 next).imp id Option.some.inj
    exact .step reached (.next here behind falls within)
  case peak => exact attains_max grounded.peak ⟨place, _, reached, here, .inr behind⟩

/-- A step goes nowhere that execution could not. -/
theorem Grounded.step (grounded : w.Grounded returnsValue)
    (stepped : w.step returnsValue = .ok (.inr w')) : w'.Grounded returnsValue := by
  -- a step visits a line, gives a known place up, or takes one from the stack of places
  rcases step_cases stepped with ⟨place, inside, cursor, unvisited, visited⟩ |
    ⟨place, cursor, rfl, _⟩ | ⟨place, pending, cursor, kept, rfl⟩
  · exact grounded_visit grounded cursor unvisited visited
  · exact ⟨grounded.records, grounded.pending, nofun, grounded.peak⟩
  · have reached := grounded.pending place (by simp [kept])
    constructor
    case records => exact grounded.records
    case pending =>
      intro p later
      exact grounded.pending p (by simp [kept, later])
    case cursor =>
      rintro p ⟨⟩ _
      exact reached
    case peak => exact attains_max grounded.peak reached.attains

/-! ## §2 What can be reached becomes known -/

/-- What follows a visited place is known, and a visited place is safe. -/
structure Covers (returnsValue : Bool) (w : Walk b) : Prop where
  /-- Where execution begins. -/
  entries : ∀ place, b.IsEntry place → w.Knows place
  safe : ∀ place, w.Records place → b.SafeAt returnsValue place
  /-- What follows them. -/
  passes : ∀ place next, w.Records place → b.Passes returnsValue place next → w.Knows next

/-- Only a visit records a place that was not recorded before. -/
theorem records_step (stepped : w.step returnsValue = .ok (.inr w')) {p : Place}
    (recorded : w'.Records p) :
    w.Records p ∨ w.cursor = some p ∧
      ∃ inside : p.position < b.length, w.visit returnsValue p inside = .ok w' := by
  rcases step_cases stepped with ⟨place, inside, cursor, unvisited, visited⟩ |
    ⟨place, _, rfl, _⟩ | ⟨place, pending, _, _, rfl⟩
  · rcases (records_visit visited unvisited p).1 recorded with rfl | old
    · exact .inr ⟨cursor, inside, visited⟩
    · exact .inl old
  · exact .inl recorded
  · exact .inl recorded

/-- A step loses sight of nothing. -/
theorem Covers.step (covers : w.Covers returnsValue)
    (stepped : w.step returnsValue = .ok (.inr w')) : w'.Covers returnsValue := by
  -- only a visit records anything new, and a visit makes known what follows
  constructor
  case entries =>
    intro p entry
    exact knows_step stepped entry.position_lt (covers.entries p entry)
  case safe =>
    intro p recorded
    rcases records_step stepped recorded with old | ⟨_, _, visited⟩
    · exact covers.safe p old
    · exact safeAt_visit visited
  case passes =>
    intro p q recorded passes
    rcases records_step stepped recorded with old | ⟨_, _, visited⟩
    · exact knows_step stepped passes.position_lt (covers.passes p q old passes)
    · exact knows_of_passes visited passes

/-! ## §3 The peak bounds all depths -/

/-- The peak bounds the depths before and behind the lines visited. -/
structure Bounds (returnsValue : Bool) (w : Walk b) : Prop where
  before : ∀ place, w.Records place → place.depth ≤ w.peak
  behind : ∀ place line depth, w.Records place → b.lines[place.position]? = some line →
    line.instruction.depthBehind? returnsValue place.depth = some depth → depth ≤ w.peak
  cursor : ∀ place, w.cursor = some place → place.depth ≤ w.peak

theorem peak_le_step (stepped : w.step returnsValue = .ok (.inr w')) : w.peak ≤ w'.peak := by
  rcases step_cases stepped with ⟨place, inside, _, _, visited⟩ |
    ⟨place, _, rfl, _⟩ | ⟨place, pending, _, _, rfl⟩
  · obtain ⟨depth, pending, _, _, rfl⟩ := visit_eq_ok visited
    exact Nat.le_max_left _ _
  · exact Nat.le_refl _
  · exact Nat.le_max_left _ _

theorem Bounds.step (bounds : w.Bounds returnsValue)
    (stepped : w.step returnsValue = .ok (.inr w')) : w'.Bounds returnsValue := by
  have grows := peak_le_step stepped
  constructor
  case before =>
    intro p recorded
    rcases records_step stepped recorded with old | ⟨here, _, _⟩
    · exact Nat.le_trans (bounds.before p old) grows
    · exact Nat.le_trans (bounds.cursor p here) grows
  -- the depth behind the line just visited enters the peak in the same step
  case behind =>
    intro p line depth recorded here behind
    rcases records_step stepped recorded with old | ⟨_, inside, visited⟩
    · exact Nat.le_trans (bounds.behind p line depth old here behind) grows
    · obtain ⟨rfl, after⟩ := depthAfter_visit visited here behind
      obtain ⟨depth', pending, after', _, rfl⟩ := visit_eq_ok visited
      obtain rfl := Except.ok.inj (after'.symm.trans after)
      exact Nat.le_max_right _ _
  case cursor =>
    intro p next
    rcases step_cases stepped with ⟨place, inside, _, _, visited⟩ |
      ⟨place, _, rfl, _⟩ | ⟨place, pending, _, _, rfl⟩
    · obtain ⟨depth, pending, _, _, rfl⟩ := visit_eq_ok visited
      obtain rfl := Option.some.inj (Option.ite_none_right_eq_some.1 next).2
      exact Nat.le_max_right _ _
    · cases next
    · cases next
      exact Nat.le_max_right _ _

/-! ## §4 Beginning and end of the walk -/

theorem not_records_start (places : List Place) (p : Place) : ¬(start b places).Records p := by
  -- no depth is recorded before the first step
  intro recorded
  obtain ⟨inside, recorded⟩ := Vector.getElem?_eq_some_iff.1 recorded
  simp [start] at recorded

/-- A walk that starts at the entries of a body satisfies the invariants. -/
theorem invariants_start {places : List Place} (entries : b.entries = .ok places) :
    (start b places).Grounded returnsValue ∧ (start b places).Covers returnsValue ∧
      (start b places).Bounds returnsValue := by
  have fresh := not_records_start (b := b) places
  have mem := Body.mem_of_entries entries
  refine ⟨⟨?_, ?_, nofun, .inl rfl⟩, ⟨?_, ?_, ?_⟩, ⟨?_, ?_, nofun⟩⟩
  · exact fun p recorded => absurd recorded (fresh p)
  · exact fun p kept => .entry ((mem p).1 kept)
  · exact fun p entry => .inr (.inr ((mem p).2 entry))
  · exact fun p recorded => absurd recorded (fresh p)
  · exact fun p _ recorded => absurd recorded (fresh p)
  · exact fun p recorded => absurd recorded (fresh p)
  · exact fun p _ _ recorded => absurd recorded (fresh p)

/-- Where the walk ends, everything that can be reached has been visited. -/
theorem Covers.records_of_reaches (covers : w.Covers returnsValue) (cursor : w.cursor = none)
    (pending : w.pending = []) {place : Place} (reached : b.Reaches returnsValue place) :
    w.Records place := by
  -- a walk that is nowhere and keeps nothing knows only what it has visited
  have visited : ∀ p, w.Knows p → w.Records p := by
    rintro p (recorded | here | kept)
    · exact recorded
    · simp [cursor] at here
    · simp [pending] at kept
  induction reached with
  | entry begins => exact visited _ (covers.entries _ begins)
  | step _ passes ih => exact visited _ (covers.passes _ _ ih passes)

/-- A walk that comes to its end has visited exactly the places that can be reached. -/
theorem finish_eq_ok {places : List Place} {peak : Nat} (entries : b.entries = .ok places)
    (finished : (start b places).finish returnsValue = .ok peak) :
    ∃ last : Walk b, last.Covers returnsValue ∧ last.Bounds returnsValue ∧ peak = last.peak ∧
      (peak = 0 ∨ b.Attains returnsValue peak) ∧
      ∀ place, last.Records place ↔ b.Reaches returnsValue place := by
  -- the three invariants together, from the entries to the last walk
  obtain ⟨last, ⟨grounded, covers, bounds⟩, ended⟩ := finish_invariant
    (P := fun w => w.Grounded returnsValue ∧ w.Covers returnsValue ∧ w.Bounds returnsValue)
    (fun w w' ⟨grounded, covers, bounds⟩ stepped =>
      ⟨grounded.step stepped, covers.step stepped, bounds.step stepped⟩)
    (start b places) (invariants_start entries)
  rw [finished] at ended
  obtain ⟨cursor, pending, rfl⟩ := step_eq_end ended
  exact ⟨last, covers, bounds, rfl, grounded.peak,
    fun place => ⟨grounded.records place, covers.records_of_reaches cursor pending⟩⟩

end Walk

namespace Body

/-! ## §5 The stack bound -/

theorem stackDepth_eq_ok {m : UInt16} (h : b.stackDepth returnsValue = .ok m) :
    ∃ places, b.entries = .ok places ∧
      (Walk.start b places).finish returnsValue = .ok m.toNat := by
  obtain ⟨places, entries, h⟩ := Fallible.bind_eq_ok.1 h
  obtain ⟨peak, finished, h⟩ := Fallible.bind_eq_ok.1 h
  -- a peak that fits is not cut off by the word of the header
  split at h
  next fits =>
    obtain rfl := Fallible.pure_eq_ok.1 h
    refine ⟨places, entries, ?_⟩
    rw [finished, UInt16.toNat_ofNat_of_lt' fits]
  next => cases h

/-- If a body has a stack bound, every line is reached with one depth only, nothing goes wrong at a
    place that can be reached, and the bound is the greatest depth before or behind a line that can
    be reached; it is zero if there is no such line. -/
theorem stackDepth_sound {m : UInt16} (h : b.stackDepth returnsValue = .ok m) :
    (∀ p q, b.Reaches returnsValue p → b.Reaches returnsValue q → p.position = q.position →
      p.depth = q.depth) ∧
    (∀ place, b.Reaches returnsValue place → b.SafeAt returnsValue place) ∧
    IsGreatest {depth | depth = 0 ∨ b.Attains returnsValue depth} m.toNat := by
  obtain ⟨places, entries, finished⟩ := stackDepth_eq_ok h
  obtain ⟨last, covers, bounds, peak, attained, records⟩ := Walk.finish_eq_ok entries finished
  refine ⟨fun p q reachedP reachedQ same => ?_, fun place reached => ?_, attained, ?_⟩
  · exact ((records p).2 reachedP).depth_eq ((records q).2 reachedQ) same
  · exact covers.safe place ((records place).2 reached)
  · rintro depth (rfl | ⟨place, line, reached, here, before | behind⟩)
    · exact Nat.zero_le _
    · rw [peak, before]
      exact bounds.before place ((records place).2 reached)
    · rw [peak]
      exact bounds.behind place line depth ((records place).2 reached) here behind

/-- A body that doubles a constant and returns it. -/
def doubling : Body :=
  ofLines #[⟨⟨0⟩, .plain .ldcI41⟩, ⟨⟨1⟩, .plain .dup⟩, ⟨⟨2⟩, .plain .add⟩, ⟨⟨3⟩, .plain .ret⟩]

/-- The doubling needs room for two values, no more and no less. -/
theorem stackDepth_sound_doubling :
    doubling.stackDepth true = .ok 2 ∧
      IsGreatest {depth | depth = 0 ∨ doubling.Attains true depth} 2 := by
  have finished : (Walk.start doubling [⟨0, 0⟩]).finish true = .ok 2 := by
    -- the walk takes up the entry, then visits four lines
    iterate 5 rw [Walk.finish_of_step rfl]
    exact Walk.finish_of_end rfl
  have two : doubling.stackDepth true = .ok 2 :=
    Fallible.bind_eq_ok.2 ⟨[⟨0, 0⟩], rfl, Fallible.bind_eq_ok.2 ⟨2, finished, rfl⟩⟩
  exact ⟨two, (stackDepth_sound two).2.2⟩

end Body

end Devirt
