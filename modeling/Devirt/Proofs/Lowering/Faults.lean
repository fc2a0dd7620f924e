import Devirt.Lowering.Regions
import Devirt.Proofs.Lowering.Binding
import Devirt.Proofs.Lowering.Emission

/-!
# Faults before the Stack Analysis

The stages before the stack analysis have faults of their own. Binding may run out of local
variables; apart from that, none of these faults is one of the body, as long as the functions that
update flags are not called.

Main statements:
- `Routine.bind_failsWith`: faults of binding.
- `LowerContext.listing_failsWith`: faults of lowering without flags.
- `RegionContext.handlers_failsWith`: faults of resolving regions.
-/

namespace Devirt

open Stateful

/-- If the fault is one of the body, then there are too many local variables. -/
def LowerError.IsEarly : LowerError → Prop
  | .body cause => cause = .tooManyLocals
  | _ => True

variable {σ : Type}

/-! ## §1 Binding -/

namespace Routine

theorem addSlot_failsWith (type : TypeRef) :
    FailsWith (· = .tooManyLocals) (Method.addSlot type) := by
  rintro m e m' failed
  unfold Method.addSlot at failed
  split at failed
  next => cases failed
  next => exact (EStateM.Result.error.inj failed).1.symm

/-- Binding fails for lack of local variables, or for lack of parameters. -/
theorem bind_failsWith (r : Routine) : FailsWith LowerError.IsEarly r.bind := by
  -- the two halves of binding report faults of different types, so each has its own statement
  have allotted : FailsWith (· = .tooManyLocals) r.bindVariables := by
    rw [bindVariables, Array.mapM_eq_mapM_toList, ← bind_pure_comp]
    exact .bind (.mapM fun d _ => addSlot_failsWith d.type) fun _ => .pure _
  have parameters : FailsWith LowerError.IsEarly r.bindParameters := by
    rintro m e m' failed
    unfold bindParameters at failed
    dsimp only at failed
    split at failed
    next => cases failed
    next =>
      obtain ⟨rfl, rfl⟩ := EStateM.Result.error.inj failed
      trivial
  exact .bind (allotted.adaptExcept fun _ same => same) fun _ =>
    .bind parameters fun _ => .pure _

/-- Binding does not change what the method returns. -/
theorem returnType_bind {r : Routine} {m bound : Method} {binding : Binding}
    (h : r.bind m = .ok binding bound) : bound.returnType = m.returnType := by
  obtain ⟨_, _, _, rfl⟩ := bind_eq_ok_iff.1 h
  rfl

end Routine

/-! ## §2 Lowering -/

theorem Emit.ofExcept_failsWith {α : Type} {Q : LowerError → Prop} {x : Except LowerError α}
    (h : Fallible.FailsWith Q x) : FailsWith Q (Emit.ofExcept x : Emit σ α) := by
  rintro s e s' failed
  cases x with
  | ok a => cases failed
  | error cause =>
    obtain ⟨rfl, rfl⟩ := EStateM.Result.error.inj failed
    exact h _ rfl

theorem Emit.line_failsWith {Q : LowerError → Prop} (i : Instruction) :
    FailsWith Q (Emit.line i : Emit σ Line) :=
  fun _ _ _ failed => nomatch failed

theorem Emit.lines_failsWith {Q : LowerError → Prop} (is : List Instruction) :
    FailsWith Q (Emit.lines is : Emit σ (Array Line)) :=
  .foldlM (fun i _ _ => .bind (line_failsWith i) fun _ => .pure _) _

/-- Checks of templates have faults of their own. -/
theorem Template.checkBalance_failsWith (t : Template) (arguments : List Expr)
    (returnsValue : Bool) :
    Fallible.FailsWith LowerError.IsEarly (t.checkBalance arguments returnsValue) := by
  unfold checkBalance
  split
  next => exact .pure _
  next => exact .throw trivial

theorem Template.check_failsWith (t : Template) (arguments : List Expr) (returnsValue : Bool) :
    Fallible.FailsWith LowerError.IsEarly (t.check arguments returnsValue) := by
  refine .bind (t.checkBalance_failsWith arguments returnsValue) fun depth =>
    .bind ?_ fun _ => .pure _
  unfold checkOperands
  split
  next => exact .pure _
  next => exact .throw trivial

namespace LowerContext

variable {c : LowerContext σ}

theorem onPlace_failsWith (opcode : Opcode) (ref : Ref) :
    FailsWith LowerError.IsEarly (c.onPlace opcode ref) := by
  refine .bind (Emit.ofExcept_failsWith ?_) fun _ => Emit.line_failsWith _
  unfold Binding.operand
  dsimp only
  split
  next => exact .pure _
  next => exact .throw trivial

theorem exprs_failsWith {es : List Expr}
    (each : ∀ e ∈ es, FailsWith LowerError.IsEarly (c.expr e)) :
    FailsWith LowerError.IsEarly (c.exprs es) := by
  induction es with
  | nil =>
    rw [exprs]
    exact .pure _
  | cons e es ih =>
    rw [exprs]
    exact .bind (each e List.mem_cons_self) fun _ =>
      .bind (ih fun e mem => each e (List.mem_cons_of_mem _ mem)) fun _ => .pure _

/-- Lowering an expression has no fault of the body, if nothing in it updates flags. -/
theorem expr_failsWith {e : Expr} (free : e.FlagFree) :
    FailsWith LowerError.IsEarly (c.expr e) := by
  -- on the reason why nothing updates flags; a call of a function that does would fail in any way
  induction free with
  | load | address =>
    rw [expr]
    exact .bind (onPlace_failsWith _ _) fun _ => .pure _
  | unbox _ ih =>
    rw [expr]
    exact .bind ih fun _ => .bind (Emit.lines_failsWith _) fun _ => .pure _
  | apply noUpdate _ ih =>
    rw [expr, noUpdate]
    exact .bind (Emit.ofExcept_failsWith (Template.check_failsWith _ _ _)) fun _ =>
      .bind (exprs_failsWith ih) fun _ => .bind (Emit.lines_failsWith _) fun _ => .pure _

theorem leavesValue_failsWith (e : Expr) :
    Fallible.FailsWith LowerError.IsEarly (c.leavesValue e) := by
  unfold leavesValue
  split
  next => exact .pure _
  next => exact .pure _
  next => exact .pure _
  -- only templates without a result are checked
  next =>
    split
    next => exact .pure _
    next =>
      split
      next => exact .pure _
      next =>
        refine .bind (Template.checkBalance_failsWith _ _ _) fun depth => ?_
        split
        next => exact .pure _
        next => exact .throw trivial

theorem statement_failsWith {statement : Statement} (free : statement.source.FlagFree) :
    FailsWith LowerError.IsEarly (c.statement statement) := by
  cases statement with
  | eval e =>
    refine .bind (Emit.ofExcept_failsWith (leavesValue_failsWith e)) fun drop =>
      .bind (expr_failsWith free) fun code => ?_
    split
    next => exact .bind (Emit.line_failsWith _) fun _ => .pure _
    next => exact .pure _
  | assign target value =>
    exact .bind (expr_failsWith free) fun _ => .bind (onPlace_failsWith _ _) fun _ => .pure _

/-- Lowering a graph has no fault of the body, if nothing in it updates flags. -/
theorem listing_failsWith {g : Graph}
    (free : ∀ node ∈ g.nodes, ∀ statement ∈ node.block, statement.source.FlagFree) :
    FailsWith LowerError.IsEarly (c.listing g) := by
  rw [listing, ← Array.foldlM_toList]
  -- nodes in order, and in each node statements in order
  refine .foldlM (fun node mem l => .bind ?_ fun _ => .pure _) _
  exact .foldlM (fun statement inside _ => .bind (statement_failsWith
    (free node (Array.mem_toList_iff.1 mem) statement inside)) fun _ => .pure _) _

end LowerContext

/-! ## §3 Regions -/

namespace RegionContext

variable (c : RegionContext)

theorem boundaries_failsWith (region : Nat) (part : RegionPart) (nodes : NodeSet) :
    Fallible.FailsWith LowerError.IsEarly (c.boundaries region part nodes) := by
  have landmarks : Fallible.FailsWith LowerError.IsEarly (c.landmarks nodes) := by
    refine .mapM fun node _ => ?_
    split
    next => exact .pure _
    next => exact .throw trivial
  refine .bind landmarks fun found => ?_
  split
  next => exact .throw trivial
  next =>
    dsimp only
    split
    next => exact .throw trivial
    next => exact .pure _

theorem stretch_failsWith (node : Nat) :
    Fallible.FailsWith LowerError.IsEarly (c.stretch node) := by
  unfold stretch
  split
  next => exact .pure _
  next => exact .throw trivial

theorem span_failsWith (region : Nat) (part : RegionPart) (nodes : NodeSet) :
    Fallible.FailsWith LowerError.IsEarly (c.span region part nodes) := by
  refine .bind (c.boundaries_failsWith region part nodes) fun ends =>
    .bind (c.stretch_failsWith _) fun first => .bind (c.stretch_failsWith _) fun last => ?_
  split
  next => exact .pure _
  next => exact .throw trivial

theorem filterStart_failsWith (region : Nat) (nodes : NodeSet) :
    Fallible.FailsWith LowerError.IsEarly (c.filterStart region nodes) := by
  unfold filterStart
  split
  next => exact .throw trivial
  next =>
    exact .bind (c.boundaries_failsWith region .filter nodes) fun ends =>
      .bind (c.stretch_failsWith _) fun _ => .pure _

theorem handler_failsWith (index : Nat) (region : Region) :
    Fallible.FailsWith LowerError.IsEarly (c.handler index region) := by
  unfold handler
  -- an unknown tag is reported before any part of the region is looked at
  split
  next =>
    refine .bind (c.span_failsWith _ _ _) fun _ => .bind (c.span_failsWith _ _ _) fun _ => ?_
    dsimp only
    split
    next =>
      rw [← bind_pure_comp]
      exact .bind (.bind (c.filterStart_failsWith _ _) fun _ => .pure _) fun _ => .pure _
    next => exact .pure _
  next => exact .throw trivial

/-- Resolving regions has no fault of the body. -/
theorem handlers_failsWith : Fallible.FailsWith LowerError.IsEarly c.handlers := by
  unfold handlers
  rw [← Array.foldlM_toList]
  -- regions are resolved one after the other, and none of them depends on another
  exact .foldlM (fun region _ _ => .bind (c.handler_failsWith _ region) fun _ => .pure _) _

end RegionContext

end Devirt
