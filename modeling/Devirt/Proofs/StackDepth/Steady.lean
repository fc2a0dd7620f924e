import Devirt.Proofs.StackDepth.Faults
import Devirt.Proofs.StackDepth.Widening

/-!
# Steady Code

Code is steady if running it from its first line to its last one, without looking at branches, meets
every line with enough values, and if control passes to other places with an empty stack only: all
targets are resting points, and the run comes to a resting point with an empty stack as well. Then
it does not matter which branches are taken. Whichever way execution gets to a line, it brings the
depth that the run through all lines has there.

Main statements:
- `Line.Settles`, `Steady`: lines that settle, and code made of them.
- `Body.steady_of_reaches`: the depth of a place is that of the run.
- `Body.stackTooDeep_of_steady`: the stack analysis accepts steady code of moderate depth.
-/

namespace Devirt

/-! ## §1 Steady code -/

/-- The line can be met with the given depth and leaves the given one. Its targets are resting
    points, which it branches to with an empty stack; if it is a resting point itself, then it is
    met with an empty stack. -/
structure Line.Settles (resting : Label → Prop) (returnsValue : Bool) (line : Line)
    (depth after : Nat) : Prop where
  runs : line.depthAfter returnsValue depth = .ok after
  targets : ∀ target ∈ line.instruction.operand.targets, resting target ∧ after = 0
  label : resting line.label → depth = 0

/-- A run through all lines, one after the other, starts and stops with the given depths, and every
    line settles. -/
inductive Steady (resting : Label → Prop) (returnsValue : Bool) : Nat → List Line → Nat → Prop where
  | nil {depth : Nat} : Steady resting returnsValue depth [] depth
  | cons {depth after stop : Nat} {line : Line} {lines : List Line} :
      line.Settles resting returnsValue depth after →
      Steady resting returnsValue after lines stop →
      Steady resting returnsValue depth (line :: lines) stop

variable {resting : Label → Prop} {returnsValue : Bool} {lines : List Line}

namespace Steady

variable {depth stop : Nat}

theorem append {between : Nat} {others : List Line}
    (h : Steady resting returnsValue depth lines between)
    (h' : Steady resting returnsValue between others stop) :
    Steady resting returnsValue depth (lines ++ others) stop := by
  induction h with
  | nil => exact h'
  | cons settles _ ih => exact .cons settles (ih h')

/-- Where a run stops is determined by where it starts. -/
theorem unique {stop' : Nat} (h : Steady resting returnsValue depth lines stop)
    (h' : Steady resting returnsValue depth lines stop') : stop = stop' := by
  induction h with
  | nil =>
    cases h'
    rfl
  | cons settles _ ih =>
    cases h' with
    | cons settles' rest' =>
      obtain rfl := Except.ok.inj (settles.runs.symm.trans settles'.runs)
      exact ih rest'

/-- The line at a position is met with the depth that the lines before it leave. -/
theorem exists_settles (h : Steady resting returnsValue depth lines stop) {i : Nat} {line : Line}
    (here : lines[i]? = some line) :
    ∃ before after, Steady resting returnsValue depth (lines.take i) before ∧
      line.Settles resting returnsValue before after ∧
      Steady resting returnsValue depth (lines.take (i + 1)) after := by
  -- on the run, which passes over one line for each position
  induction h generalizing i with
  | nil => cases here
  | @cons depth after stop first lines settles rest ih =>
    cases i with
    | zero =>
      obtain rfl := Option.some.inj here
      exact ⟨depth, after, .nil, settles, .cons settles .nil⟩
    | succ i =>
      obtain ⟨before, after, run, here, next⟩ := ih here
      exact ⟨before, after, .cons settles run, here, .cons settles next⟩

/-- Long forms of branches settle as the short ones do. -/
theorem of_widening {code : List Line} (h : Steady resting returnsValue depth lines stop)
    (wide : Widening lines code) : Steady resting returnsValue depth code stop := by
  induction h generalizing code with
  | nil =>
    cases wide
    exact .nil
  | cons settles _ ih =>
    cases wide with
    | cons head tail =>
      -- depth, targets and label are what a long form has in common with the short one
      refine .cons ⟨?_, ?_, ?_⟩ (ih tail)
      · rw [head.depthAfter_eq, settles.runs]
      · rw [head.operand_eq]
        exact settles.targets
      · rw [head.label_eq]
        exact settles.label

end Steady

/-! ## §2 Steady bodies -/

namespace Body

variable {b : Body}

/-- A resting point is met with an empty stack. -/
theorem steady_take_of_resting {stop i : Nat} (steady : Steady resting returnsValue 0 b.lines stop)
    {label : Label} (rests : resting label) (found : b.position? label = some i) :
    Steady resting returnsValue 0 (b.lines.take i) 0 := by
  obtain ⟨line, here, rfl⟩ := getElem?_lines_of_position? found
  obtain ⟨before, _, run, settles, _⟩ := steady.exists_settles here
  rwa [settles.label rests] at run

/-- The handler starts at a resting point with an empty stack, and has no filter. -/
structure StartsEmpty (resting : Label → Prop) (h : Handler) : Prop where
  resting : resting h.handler.start
  entryDepth : h.kind.entryDepth = 0
  filterStart : h.filterStart = none

/-- Whichever way execution gets to a place, it brings the depth of the run through the lines before
    it. -/
theorem steady_of_reaches {stop : Nat} (steady : Steady resting returnsValue 0 b.lines stop)
    (handlers : ∀ h ∈ b.handlers, StartsEmpty resting h) {place : Place}
    (reached : b.Reaches returnsValue place) :
    Steady resting returnsValue 0 (b.lines.take place.position) place.depth := by
  -- on the path: entries are resting points, and each line passes on what the run has behind it
  induction reached with
  | entry begins =>
    cases begins with
    | first => exact .nil
    -- handlers start at resting points, and have no filters that start elsewhere
    | handler declared opens =>
      have starts := handlers _ declared
      cases opens with
      | handler found =>
        show Steady _ _ 0 _ _
        rw [starts.entryDepth]
        exact steady_take_of_resting steady starts.resting found
      | filter filterStart =>
        rw [starts.filterStart] at filterStart
        cases filterStart
  | @step place next _ passes ih =>
    have settled : ∀ line depth, b.lines[place.position]? = some line →
        line.instruction.depthBehind? returnsValue place.depth = some depth →
        line.Settles resting returnsValue place.depth depth ∧
          Steady resting returnsValue 0 (b.lines.take (place.position + 1)) depth := by
      intro line depth here behind
      obtain ⟨before, after, run, settles, following⟩ := steady.exists_settles here
      obtain rfl := run.unique ih
      have same := Line.depthBehind?_of_depthAfter settles.runs
      obtain rfl := Option.some.inj (same.symm.trans behind)
      exact ⟨settles, following⟩
    cases passes with
    | target here behind target found =>
      obtain ⟨rests, empty⟩ := (settled _ _ here behind).1.targets _ target
      subst empty
      exact steady_take_of_resting steady rests found
    | next here behind => exact (settled _ _ here behind).2

/-- Nothing but the size of the stack stands in the way of a bound for steady code, if all resting
    points are lines of the body. -/
theorem stackTooDeep_of_steady {stop : Nat} (steady : Steady resting returnsValue 0 b.lines stop)
    (handlers : ∀ h ∈ b.handlers, StartsEmpty resting h)
    (inside : ∀ label, resting label → (b.position? label).isSome) {e : BodyError}
    (h : b.stackDepth returnsValue = .error e) : ∃ depth, e = .stackTooDeep depth := by
  have run : ∀ place, b.Reaches returnsValue place →
      Steady resting returnsValue 0 (b.lines.take place.position) place.depth :=
    fun _ => steady_of_reaches steady handlers
  -- a line that can be reached is met with the depth of the run
  have settled : ∀ place line, b.Reaches returnsValue place →
      b.lines[place.position]? = some line →
      ∃ after, line.Settles resting returnsValue place.depth after := by
    intro place line reached here
    obtain ⟨before, after, before', settles, _⟩ := steady.exists_settles here
    obtain rfl := before'.unique (run place reached)
    exact ⟨after, settles⟩
  have known : ∀ label, resting label → b.position? label ≠ none :=
    fun label rests => Option.isSome_iff_ne_none.1 (inside label rests)
  -- all reasons but the last are ruled out by the run, or by where handlers start
  cases stackFault_of_stackDepth h with
  | underflow reached here few =>
    obtain ⟨after, settles⟩ := settled _ _ reached here
    obtain ⟨rest, enough, _⟩ := Line.depthAfter_eq_ok.1 settles.runs
    rw [few] at enough
    cases enough
  | excess reached here enough isReturn left =>
    obtain ⟨after, settles⟩ := settled _ _ reached here
    obtain ⟨rest, enough', settled, _⟩ := Line.depthAfter_eq_ok.1 settles.runs
    obtain rfl := Option.some.inj (enough.symm.trans enough')
    exact absurd (settled isReturn) left
  | conflict reached reached' different =>
    have first := run _ reached
    have second := run _ reached'
    exact absurd (first.unique second) different
  | target reached here mem absent =>
    obtain ⟨after, settles⟩ := settled _ _ reached here
    exact absurd absent (known _ (settles.targets _ mem).1)
  | handler declared absent => exact absurd absent (known _ (handlers _ declared).resting)
  | filter declared filterStart =>
    rw [(handlers _ declared).filterStart] at filterStart
    cases filterStart
  | tooDeep => exact ⟨_, rfl⟩

end Body

end Devirt
