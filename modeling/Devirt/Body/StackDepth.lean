import Devirt.Body.Basic
import Devirt.Body.Error

/-!
# Depth of the Evaluation Stack

The declared stack bound of a body is the greatest depth that its evaluation stack can reach. A
walk follows every path: from the first line with an empty stack, and from every handler and filter
with the values that its kind finds on the stack. A line must always be reached with the same
depth, and a return must leave nothing but its result.

## Why the walk ends

The walk goes forward from a cursor as long as it meets new lines, and keeps a stack of places to
visit later. Every step either records the depth of a line for the first time, or drops the cursor
at a line whose depth is recorded, or takes a place off the stack. So the pair of the number of
lines without a depth, and twice the number of places plus one for a cursor, decreases in the
lexicographic order: see `Walk.step_decreases`.
-/

namespace Devirt

/-- A position in a body, with a depth of the evaluation stack. -/
structure Place where
  /-- Position of a line, or one past the last line. -/
  position : Nat
  /-- Depth of the stack before the line. -/
  depth : Nat
  deriving DecidableEq, Repr

/-- A walk through a body. -/
structure Walk (b : Body) where
  /-- The depth at each line that has been visited. -/
  depths : Vector (Option Nat) b.length
  /-- The greatest depth so far. -/
  peak : Nat
  /-- Where the walk goes on, unless the present path has ended. -/
  cursor : Option Place
  /-- Where to start later paths, the next one first. -/
  pending : List Place

namespace Body

/-- The position of a line that something refers to. -/
def resolve (b : Body) (label : Label) : Except BodyError Nat :=
  match b.position? label with
  | some position => .ok position
  | none => .error (.unknownLine label)

/-- Put the entries of a handler on the stack of places: the handler, then its filter. -/
def pushEntries (b : Body) (places : List Place) (h : Handler) :
    Except BodyError (List Place) := do
  let start ← b.resolve h.handler.start
  let places := ⟨start, h.kind.entryDepth⟩ :: places
  match h.filterStart with
  | none => return places
  | some filter => return ⟨← b.resolve filter, 1⟩ :: places

/-- The places at which execution of a body can start, the last one declared first. -/
def entries (b : Body) : Except BodyError (List Place) :=
  b.handlers.foldlM b.pushEntries (if b.length = 0 then [] else [⟨0, 0⟩])

/-- Put the targets of a line on the stack of places, so that the last one is visited first. -/
def pushTargets (b : Body) (depth : Nat) (places : List Place) (targets : List Label) :
    Except BodyError (List Place) :=
  targets.foldlM (fun places target => return ⟨← b.resolve target, depth⟩ :: places) places

/-- The line at a position. -/
def lineAt (b : Body) (position : Nat) (h : position < b.length) : Line :=
  (b.layout.entries[position]).2

end Body

/-- The depth behind a line that is reached with the given depth. -/
def Line.depthAfter (line : Line) (returnsValue : Bool) (depth : Nat) : Except BodyError Nat :=
  let use := line.instruction.stackUse returnsValue
  match use.takes.remaining? depth with
  | none => .error (.stackUnderflow line.label)
  | some rest =>
    if line.instruction.isReturn ∧ rest ≠ 0 then .error (.valuesAtReturn line.label rest)
    else .ok (rest + use.leaves)

namespace Walk

variable {b : Body}

/-- Visit a line for the first time: record its depth, and go on to its targets and to the next
    line. -/
def visit (returnsValue : Bool) (w : Walk b) (place : Place) (h : place.position < b.length) :
    Except BodyError (Walk b) := do
  let line := b.lineAt place.position h
  let depth ← line.depthAfter returnsValue place.depth
  let pending ← b.pushTargets depth w.pending line.instruction.operand.targets
  return {
    depths := w.depths.set place.position (some place.depth)
    peak := max w.peak depth
    cursor :=
      if line.instruction.opcode.fallsThrough then some ⟨place.position + 1, depth⟩ else none
    pending := pending }

/-- One step of a walk: the walk afterwards, or the greatest depth if the walk has ended. -/
def step (returnsValue : Bool) (w : Walk b) : Except BodyError (Nat ⊕ Walk b) :=
  match w.cursor with
  | some place =>
    if h : place.position < b.length then
      match w.depths[place.position] with
      | none =>
        match w.visit returnsValue place h with
        | .ok w' => .ok (.inr w')
        | .error e => .error e
      | some known =>
        -- a path that comes to a visited line ends there, and has to bring the same depth
        if known = place.depth then .ok (.inr { w with cursor := none })
        else .error (.inconsistentDepth (b.lineAt place.position h).label known place.depth)
    else .ok (.inr { w with cursor := none })
  | none =>
    match w.pending with
    | place :: pending =>
      -- a handler starts with a depth that no line leaves behind, so the peak counts it
      .ok (.inr { w with
        peak := max w.peak place.depth, cursor := some place, pending := pending })
    | [] => .ok (.inl w.peak)

/-- Number of lines that have not been visited. -/
def unseen (w : Walk b) : Nat := w.depths.count none

/-- Number of places to visit, the cursor counting half. -/
def backlog (w : Walk b) : Nat := 2 * w.pending.length + w.cursor.isSome.toNat

/-- A first visit leaves fewer lines to visit. -/
theorem unseen_visit_lt {returnsValue : Bool} {w w' : Walk b} {place : Place}
    {h : place.position < b.length} (unvisited : w.depths[place.position] = none)
    (visited : w.visit returnsValue place h = .ok w') : w'.unseen < w.unseen := by
  have depths : w'.depths = w.depths.set place.position (some place.depth) := by
    unfold visit at visited
    cases depth : (b.lineAt place.position h).depthAfter returnsValue place.depth with
    | error => simp [depth, bind, Except.bind] at visited
    | ok d =>
      cases targets : b.pushTargets d w.pending
          (b.lineAt place.position h).instruction.operand.targets with
      | error => simp [depth, targets, bind, Except.bind] at visited
      | ok pending =>
        simp [depth, targets, bind, Except.bind, pure, Except.pure] at visited
        rw [← visited]
  -- the line visited counts before and not afterwards, and no other line changes
  have some_unseen : 0 < w.depths.count none :=
    Vector.count_pos_iff.2 (unvisited ▸ Vector.getElem_mem h)
  unfold unseen
  rw [depths, Vector.count_set, if_pos (by simp [unvisited]), if_neg (by simp)]
  omega

/-- Every step brings the walk closer to its end. -/
theorem step_decreases {returnsValue : Bool} {w w' : Walk b}
    (h : w.step returnsValue = .ok (.inr w')) :
    Prod.Lex (· < ·) (· < ·) (w'.unseen, w'.backlog) (w.unseen, w.backlog) := by
  unfold step at h
  -- visits lower the first component, and all other steps the second one
  split at h
  next place cursor =>
    split at h
    next inside =>
      split at h
      next unvisited =>
        split at h
        next visited =>
          cases h
          exact Prod.Lex.left _ _ (unseen_visit_lt unvisited visited)
        next => cases h
      next known _ =>
        split at h
        · cases h
          exact Prod.Lex.right _ (by simp [backlog, cursor])
        · cases h
    next =>
      cases h
      exact Prod.Lex.right _ (by simp [backlog, cursor])
  next cursor =>
    split at h
    next place pending places =>
      cases h
      exact Prod.Lex.right _ (by simp [backlog, cursor, places]; omega)
    next => cases h

/-- Walk on to the end: the greatest depth, or the first fault met. -/
def finish (returnsValue : Bool) (w : Walk b) : Except BodyError Nat :=
  match _h : w.step returnsValue with
  | .error e => .error e
  | .ok (.inl peak) => .ok peak
  | .ok (.inr w') => w'.finish returnsValue
termination_by (w.unseen, w.backlog)
decreasing_by exact step_decreases _h

/-- The walk that is about to start at the given places. -/
def start (b : Body) (places : List Place) : Walk b :=
  ⟨Vector.replicate b.length none, 0, none, places⟩

end Walk

namespace Body

/-- The greatest depth of the evaluation stack, in a method that returns a value or not. It has to
    fit in 16 bits. -/
def stackDepth (b : Body) (returnsValue : Bool) : Except BodyError UInt16 := do
  let places ← b.entries
  let peak ← (Walk.start b places).finish returnsValue
  if peak < 0x10000 then
    return UInt16.ofNat peak
  else
    throw (.stackTooDeep peak)

end Body

end Devirt
