import Devirt.Proofs.Relaxation.Widening
import Devirt.Proofs.StackDepth.Walk

/-!
# Stack Depth of Widenings

The long form of a branch takes as many values as the short one, leaves as many, and leads to the
same lines. The walk through a body therefore does not see whether branches are short or long: the
walks through a body and through a widening of it go in lockstep, and come to the same end.

Main statements:
- `Line.WidensTo.depthAfter_eq`: long forms act on the stack like short ones.
- `Walk.alike_step`: two walks in the same state do the same.
- `Body.stackDepth_of_widening`: a widening has the same stack bound, or the same fault.
-/

namespace Devirt

variable {returnsValue : Bool}

/-! ## §1 Long forms -/

namespace Opcode

theorem pops_of_longForm? {o long : Opcode} (h : o.longForm? = some long) : long.pops = o.pops := by
  cases o <;> cases h <;> rfl

theorem pushes_of_longForm? {o long : Opcode} (h : o.longForm? = some long) :
    long.pushes = o.pushes := by
  cases o <;> cases h <;> rfl

theorem fallsThrough_of_longForm? {o long : Opcode} (h : o.longForm? = some long) :
    long.fallsThrough = o.fallsThrough := by
  cases o <;> cases h <;> rfl

/-- No branch asks a signature how many values it takes or leaves. -/
theorem pops_ne_bySignature_of_longForm? {o long : Opcode} (h : o.longForm? = some long) :
    o.pops ≠ .bySignature := by
  cases o <;> cases h <;> decide

theorem ne_ret_of_longForm? {o long : Opcode} (h : o.longForm? = some long) :
    o ≠ .ret ∧ long ≠ .ret := by
  cases o <;> cases h <;> decide

end Opcode

namespace Line.WidensTo

variable {line wide : Line}

theorem fallsThrough_eq (h : line.WidensTo wide) :
    wide.instruction.opcode.fallsThrough = line.instruction.opcode.fallsThrough := by
  cases h with
  | same => rfl
  | long form => exact Opcode.fallsThrough_of_longForm? form

theorem stackUse_eq (h : line.WidensTo wide) :
    wide.instruction.stackUse returnsValue = line.instruction.stackUse returnsValue := by
  cases h with
  | same => rfl
  | long form =>
    have fixed := Opcode.pops_ne_bySignature_of_longForm? form
    simp only [Instruction.stackUse, Opcode.pops_of_longForm? form, Opcode.pushes_of_longForm? form,
      Instruction.leftBySignature]
    -- an effect by signature would look at the opcode, but no branch has one
    cases pops : line.instruction.opcode.pops with
    | bySignature => exact absurd pops fixed
    | exactly | everything => rfl

theorem isReturn_eq (h : line.WidensTo wide) :
    wide.instruction.isReturn = line.instruction.isReturn := by
  cases h with
  | same => rfl
  | long form =>
    obtain ⟨short, long⟩ := Opcode.ne_ret_of_longForm? form
    rw [Instruction.isReturn, Instruction.isReturn, beq_eq_false_iff_ne.2 short,
      beq_eq_false_iff_ne.2 long]

/-- A long form leaves the depth that the short form leaves, or has the same fault. -/
theorem depthAfter_eq (h : line.WidensTo wide) (depth : Nat) :
    wide.depthAfter returnsValue depth = line.depthAfter returnsValue depth := by
  simp only [depthAfter, h.stackUse_eq, h.isReturn_eq, h.label_eq]

end Line.WidensTo

/-! ## §2 Walks in lockstep -/

section Walks

variable {b b' : Body}

namespace Body

theorem length_eq_of_widening (h : Widening b.lines b'.lines) : b.length = b'.length := by
  rw [← b.length_lines, ← b'.length_lines, h.length_eq]

theorem position?_eq_of_widening (h : Widening b.lines b'.lines) : b.position? = b'.position? :=
  position?_congr_labels h.map_label.symm

theorem resolve_eq_of_widening (h : Widening b.lines b'.lines) : b.resolve = b'.resolve := by
  funext label
  rw [resolve, resolve, position?_eq_of_widening h]

theorem pushTargets_eq_of_widening (h : Widening b.lines b'.lines) :
    b.pushTargets = b'.pushTargets := by
  funext depth places targets
  rw [pushTargets, pushTargets, resolve_eq_of_widening h]

theorem entries_eq_of_widening (h : Widening b.lines b'.lines)
    (handlers : b.handlers = b'.handlers) : b.entries = b'.entries := by
  have pushes : b.pushEntries = b'.pushEntries := by
    funext places handler
    rw [pushEntries, pushEntries, resolve_eq_of_widening h]
  rw [entries, entries, pushes, handlers, length_eq_of_widening h]

theorem widensTo_lineAt (h : Widening b.lines b'.lines) {position : Nat}
    (inside : position < b.length) (inside' : position < b'.length) :
    (b.lineAt position inside).WidensTo (b'.lineAt position inside') :=
  (Widening.iff_getElem?.1 h).2 position _ _ (getElem?_lines_lineAt inside)
    (getElem?_lines_lineAt inside')

end Body

namespace Walk

/-- Two walks are in the same state. -/
structure Mirrors (w : Walk b) (w' : Walk b') : Prop where
  depths : ∀ position : Nat, w.depths[position]? = w'.depths[position]?
  peak : w.peak = w'.peak
  cursor : w.cursor = w'.cursor
  pending : w.pending = w'.pending

theorem Mirrors.getElem_depths {w : Walk b} {w' : Walk b'} (h : w.Mirrors w') {position : Nat}
    (inside : position < b.length) (inside' : position < b'.length) :
    w.depths[position] = w'.depths[position] := by
  have same := h.depths position
  rw [Vector.getElem?_eq_getElem inside, Vector.getElem?_eq_getElem inside'] at same
  exact Option.some.inj same

/-- Two steps fail alike, end alike, or go on in the same state. -/
inductive Alike : Except BodyError (Nat ⊕ Walk b) → Except BodyError (Nat ⊕ Walk b') → Prop where
  | failed {e : BodyError} : Alike (.error e) (.error e)
  | ended {peak : Nat} : Alike (.ok (.inl peak)) (.ok (.inl peak))
  | went {w : Walk b} {w' : Walk b'} : w.Mirrors w' → Alike (.ok (.inr w)) (.ok (.inr w'))

namespace Alike

variable {other : Except BodyError (Nat ⊕ Walk b')}

theorem eq_error {e : BodyError} (h : Alike (b := b) (.error e) other) : other = .error e := by
  cases h
  rfl

theorem eq_ended {peak : Nat} (h : Alike (b := b) (.ok (.inl peak)) other) :
    other = .ok (.inl peak) := by
  cases h
  rfl

theorem exists_went {w : Walk b} (h : Alike (.ok (.inr w)) other) :
    ∃ w', other = .ok (.inr w') ∧ w.Mirrors w' := by
  cases h with
  | went same => exact ⟨_, rfl, same⟩

end Alike

/-- Visits of lines that differ in the form of a branch fail alike or lead to the same state. -/
theorem visit_mirrors {w : Walk b} {w' : Walk b'} (wide : Widening b.lines b'.lines)
    (h : w.Mirrors w') {place : Place} (inside : place.position < b.length)
    (inside' : place.position < b'.length) :
    (∃ e, w.visit returnsValue place inside = .error e ∧
      w'.visit returnsValue place inside' = .error e) ∨
    ∃ v v', w.visit returnsValue place inside = .ok v ∧
      w'.visit returnsValue place inside' = .ok v' ∧ v.Mirrors v' := by
  have line := Body.widensTo_lineAt wide inside inside'
  -- the two lines differ in the opcode at most, and a visit asks nothing of it that differs
  simp only [visit]
  rw [line.depthAfter_eq, line.operand_eq, line.fallsThrough_eq,
    ← Body.pushTargets_eq_of_widening wide, ← h.pending]
  cases (b.lineAt place.position inside).depthAfter returnsValue place.depth with
  | error e => exact .inl ⟨e, rfl, rfl⟩
  | ok depth =>
    simp only [Fallible.ok_bind]
    cases b.pushTargets depth w.pending
        (b.lineAt place.position inside).instruction.operand.targets with
    | error e => exact .inl ⟨e, rfl, rfl⟩
    | ok pending =>
      refine .inr ⟨_, _, rfl, rfl, fun position => ?_, ?_, rfl, rfl⟩
      · rw [Vector.getElem?_set, Vector.getElem?_set, h.depths]
      · rw [h.peak]

/-- Steps of walks in the same state do the same. -/
theorem alike_step {w : Walk b} {w' : Walk b'} (wide : Widening b.lines b'.lines)
    (h : w.Mirrors w') : Alike (w.step returnsValue) (w'.step returnsValue) := by
  have length := Body.length_eq_of_widening wide
  unfold step
  rw [← h.cursor, ← h.pending, ← h.peak]
  split
  -- at a place: it is behind the end of both bodies or of neither
  next place cursor =>
    by_cases inside : place.position < b.length
    · have inside' : place.position < b'.length := length ▸ inside
      rw [dif_pos inside, dif_pos inside', ← h.getElem_depths inside inside']
      split
      next =>
        rcases visit_mirrors wide h inside inside' with
          ⟨e, failed, failed'⟩ | ⟨v, v', visited, visited', same⟩
        · rw [failed, failed']
          exact .failed
        · rw [visited, visited']
          exact .went same
      next known _ =>
        rw [(Body.widensTo_lineAt wide inside inside').label_eq]
        split
        · exact .went ⟨h.depths, rfl, rfl, rfl⟩
        · exact .failed
    · have outside : ¬place.position < b'.length := length ▸ inside
      rw [dif_neg inside, dif_neg outside]
      exact .went ⟨h.depths, rfl, rfl, rfl⟩
  -- nowhere: a place that was kept is next, or all is done
  next cursor =>
    split
    next place pending kept => exact .went ⟨h.depths, rfl, rfl, rfl⟩
    next => exact .ended

/-- Walks in the same state come to the same end. -/
theorem finish_eq_of_mirrors {w : Walk b} {w' : Walk b'} (wide : Widening b.lines b'.lines)
    (h : w.Mirrors w') : w.finish returnsValue = w'.finish returnsValue := by
  -- on the run of the first walk, which the second one keeps up with
  fun_induction finish returnsValue w generalizing w' with
  | case1 w e failed =>
    have step : Alike (w.step returnsValue) (w'.step returnsValue) := alike_step wide h
    rw [failed] at step
    rw [finish_of_error step.eq_error]
  | case2 w peak ended =>
    have step : Alike (w.step returnsValue) (w'.step returnsValue) := alike_step wide h
    rw [ended] at step
    rw [finish_of_end step.eq_ended]
  | case3 w next stepped ih =>
    have step : Alike (w.step returnsValue) (w'.step returnsValue) := alike_step wide h
    rw [stepped] at step
    obtain ⟨next', stepped', same⟩ := step.exists_went
    rw [finish_of_step stepped', ih same]

end Walk

/-- A widening has the same stack bound, or the same fault. -/
theorem Body.stackDepth_of_widening (wide : Widening b.lines b'.lines)
    (handlers : b.handlers = b'.handlers) :
    b.stackDepth returnsValue = b'.stackDepth returnsValue := by
  have start : ∀ places, (Walk.start b places).finish returnsValue =
      (Walk.start b' places).finish returnsValue := by
    -- nothing has been visited at the start, and there are as many lines
    refine fun places => Walk.finish_eq_of_mirrors wide ⟨fun position => ?_, rfl, rfl, rfl⟩
    simp only [Walk.start, Vector.getElem?_replicate, length_eq_of_widening wide]
  simp only [stackDepth, entries_eq_of_widening wide handlers, start]

end Walks

end Devirt
