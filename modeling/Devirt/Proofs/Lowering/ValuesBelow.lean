import Devirt.Proofs.Lowering.Balanced
import Devirt.Proofs.Lowering.IgnoringFlags
import Devirt.Proofs.Opcode.PrefixCode

/-!
# Values below Lowered Code

The code of an expression runs above whatever the code before it has left on the stack. If every
expression inside leaves one value, if nothing updates flags and no template empties the stack, then
the code takes nothing of what it finds there, and leaves as many values as the check of the
expression says. So the code of a statement that uses up the one value of its expression gives the
stack back as it found it.

Control plays no part here: the instructions are run in the order in which they stand.

Main statements:
- `Expr.Nested`: the condition on expressions.
- `LowerContext.runsAbove_expr`: the code of an expression.
- `LowerContext.runsAbove_lowered`: the code of expressions and of statements.
-/

namespace Devirt

variable {returnsValue : Bool}

/-! ## §1 Expressions that nest -/

/-- Only three opcodes empty the stack. -/
theorem Opcode.pops_eq_everything_iff {o : Opcode} :
    o.pops = .everything ↔ o ∈ [leave, leaveS, endfinally] := by
  have table : ∀ o ∈ all, o.pops = .everything ↔ o ∈ [leave, leaveS, endfinally] := by
    decide +kernel
  exact table o o.mem_all

/-- Number of values that an expression leaves. Templates are checked for it, as if every argument
    left one value. -/
def Expr.yield (returnsValue : Bool) : Expr → Except LowerError Nat
  | .load _ | .address _ | .unbox _ _ => .ok 1
  | .apply template arguments => template.checkBalance arguments returnsValue

/-- All expressions inside leave one value, nothing updates flags, and no template empties the
    stack. -/
inductive Expr.Nested (returnsValue : Bool) : Expr → Prop where
  | load {ref : Ref} : Nested returnsValue (.load ref)
  | address {ref : Ref} : Nested returnsValue (.address ref)
  | unbox {value : Expr} {target : TypeRef} : Nested returnsValue value →
      value.yield returnsValue = .ok 1 → Nested returnsValue (.unbox value target)
  | apply {template : Template} {arguments : List Expr} : template.flagsUpdate = none →
      (∀ i ∈ template.instructions, i.opcode ∉ [.leave, .leaveS, .endfinally]) →
      (∀ e ∈ arguments, Nested returnsValue e) → (∀ e ∈ arguments, e.yield returnsValue = .ok 1) →
      Nested returnsValue (.apply template arguments)

namespace Expr.Nested

variable {e : Expr}

theorem flagFree (h : e.Nested returnsValue) : e.FlagFree := by
  induction h with
  | load => exact .load
  | address => exact .address
  | unbox _ _ ih => exact .unbox ih
  | apply noUpdate _ _ _ ih => exact .apply noUpdate ih

theorem keepsBelow_of_carries (h : e.Nested returnsValue) {i : Instruction}
    (carries : e.Carries i) : i.KeepsBelow := by
  induction h with
  | load => cases carries
  | address => cases carries
  | unbox _ _ ih =>
    cases carries with
    | value inside => exact ih inside
  -- an instruction stands in the template itself, or in one of the arguments
  | apply _ stays _ _ ih =>
    cases carries with
    | here mem => exact mt Opcode.pops_eq_everything_iff.1 (stays i mem)
    | argument mem inside => exact ih _ mem inside

theorem leaves (h : e.Nested returnsValue) {count : Nat}
    (yields : e.yield returnsValue = .ok count) : e.Leaves returnsValue count := by
  induction h generalizing count with
  | load =>
    obtain rfl := Except.ok.inj yields
    exact .load
  | address =>
    obtain rfl := Except.ok.inj yields
    exact .address
  | unbox _ one ih =>
    obtain rfl := Except.ok.inj yields
    exact .unbox (ih one)
  | apply noUpdate stays _ one ih =>
    refine .apply noUpdate (fun i mem => ?_) yields fun e mem => ih e mem (one e mem)
    exact mt Opcode.pops_eq_everything_iff.1 (stays i mem)

end Expr.Nested

/-! ## §2 Code of expressions -/

theorem Template.checkBalance_of_check {template : Template} {arguments : List Expr} {depth : Nat}
    (h : template.check arguments returnsValue = .ok depth) :
    template.checkBalance arguments returnsValue = .ok depth := by
  obtain ⟨balance, found, h⟩ := Fallible.bind_eq_ok.1 h
  obtain ⟨_, _, done⟩ := Fallible.bind_eq_ok.1 h
  obtain rfl := Fallible.pure_eq_ok.1 done
  exact found

namespace LowerContext

variable {σ : Type} {c : LowerContext σ} {s s' : Emission σ} {code : Array Line} {e : Expr}

/-- An expression that is lowered has passed its check. -/
theorem yield_of_expr (lowered : c.expr e s = .ok code s') :
    ∃ count, e.yield c.returnsValue = .ok count := by
  cases e with
  | load | address | unbox => exact ⟨1, rfl⟩
  | apply template arguments =>
    obtain ⟨depth, _, _, checked, _⟩ := expr_apply_eq_ok lowered
    exact ⟨depth, Template.checkBalance_of_check checked⟩

theorem keepsBelow_of_expr (nested : e.Nested c.returnsValue)
    (lowered : c.expr e s = .ok code s') : ∀ i ∈ instructionsOf code, i.KeepsBelow := by
  -- instructions come from templates, or are among those that lowering adds
  have each := (sequential_forall Instruction.KeepsBelow).expr
    (fun _ added => added.passive.keepsBelow) (.inl nested.flagFree)
    (fun i carries _ => nested.keepsBelow_of_carries carries) lowered
  intro i mem
  obtain ⟨line, inside, rfl⟩ := List.mem_map.1 mem
  exact each line (Array.mem_toList_iff.1 inside)

/-- The code of an expression takes nothing of what it finds on the stack, and leaves as many values
    as the expression yields. -/
theorem runsAbove_expr (convert : c.config.converters.Convert) (nested : e.Nested c.returnsValue)
    {count : Nat} (yields : e.yield c.returnsValue = .ok count)
    (lowered : c.expr e s = .ok code s') (depth : Nat) :
    RunsAbove c.returnsValue depth depth (instructionsOf code) (depth + count) := by
  -- what happens above an empty stack happens above any other one
  have empty := runDepth_expr convert (nested.leaves yields) lowered 0
  rw [Nat.zero_add] at empty
  exact .of_runDepth (keepsBelow_of_expr nested lowered) empty depth

/-- An instruction that takes the one value of an expression gives the stack back. -/
theorem runsAbove_push (convert : c.config.converters.Convert) (nested : e.Nested c.returnsValue)
    (yields : e.yield c.returnsValue = .ok 1) (lowered : c.expr e s = .ok code s')
    {line : Line} (added : c.Adds line.instruction)
    (takes : line.instruction.depthBehind? c.returnsValue 1 = some 0) (depth : Nat) :
    RunsAbove c.returnsValue depth depth (instructionsOf (code ++ #[line])) depth := by
  -- the value alone, above an empty stack, and the instruction that takes it
  have value := runDepth_expr convert (nested.leaves yields) lowered 0
  have run : runDepth c.returnsValue (instructionsOf (code ++ #[line])) 0 = .ok 0 := by
    rw [instructionsOf_append]
    exact runDepth_append_eq_ok.2 ⟨1, value, runDepth_cons_eq_ok.2 ⟨0, takes, rfl⟩⟩
  refine .of_runDepth (fun i mem => ?_) run depth
  rw [instructionsOf_append] at mem
  rcases List.mem_append.1 mem with mem | mem
  · exact keepsBelow_of_expr nested lowered i mem
  · obtain rfl := List.mem_singleton.1 mem
    exact added.passive.keepsBelow

/-! ## §3 Code of statements -/

/-- A statement whose expression leaves nothing to drop has an expression that yields nothing. -/
theorem yield_of_leavesValue (nested : e.Nested c.returnsValue)
    (kept : c.leavesValue e = .ok false) : e.yield c.returnsValue = .ok 0 := by
  cases nested with
  | load | address | unbox => cases Fallible.pure_eq_ok.1 kept
  | @apply template arguments noUpdate =>
    cases result : template.resultType with
    | none => exact (checkBalance_of_leavesValue noUpdate result kept).2
    | some type =>
      rw [leavesValue, result] at kept
      cases kept

/-- The code of an expression takes nothing of what it finds on the stack, and leaves as many values
    as the expression yields. The code of a statement takes nothing and leaves nothing, if an
    expression whose value is stored or dropped yields one value. -/
theorem runsAbove_lowered (imported : ∃ helperType catalog,
      c.config.converters = (Converters.importFrom helperType catalog).1)
    (nested : e.Nested c.returnsValue) :
    (∀ s code s', c.expr e s = .ok code s' → ∃ count, e.yield c.returnsValue = .ok count ∧
      ∀ depth, RunsAbove c.returnsValue depth depth (instructionsOf code) (depth + count)) ∧
    (e.yield c.returnsValue = .ok 1 → ∀ target s code s',
      c.statement (.assign target e) s = .ok code s' →
        ∀ depth, RunsAbove c.returnsValue depth depth (instructionsOf code) depth) ∧
    ((c.leavesValue e = .ok true → e.yield c.returnsValue = .ok 1) → ∀ s code s',
      c.statement (.eval e) s = .ok code s' →
        ∀ depth, RunsAbove c.returnsValue depth depth (instructionsOf code) depth) := by
  have convert : c.config.converters.Convert := by
    obtain ⟨helperType, catalog, same⟩ := imported
    rw [same]
    exact Converters.convert_importFrom helperType catalog
  refine ⟨fun s code s' lowered => ?_, fun one target s code s' lowered depth => ?_,
    fun one s code s' lowered depth => ?_⟩
  · obtain ⟨count, yields⟩ := yield_of_expr lowered
    exact ⟨count, yields, runsAbove_expr convert nested yields lowered⟩
  · obtain ⟨a, s₁, operand, value, found, rfl, _⟩ := statement_eq_ok lowered
    refine runsAbove_push convert nested one value (.store found) ?_ depth
    cases target <;> rfl
  -- the statement keeps what its expression leaves, which is nothing, or drops the one value
  · rcases statement_eq_ok lowered with ⟨kept, value⟩ | ⟨dropped, a, s₁, value, rfl, _⟩
    · exact runsAbove_expr convert nested (yield_of_leavesValue nested kept) value depth
    · exact runsAbove_push convert nested (one dropped) value .drop rfl depth

end LowerContext

/-- The sum of a converted variable and a parameter. -/
def Expr.converting : Expr :=
  .apply ⟨[.plain .add], none, some CoreType.object.ref⟩
    [.unbox (.load (.var 0)) CoreType.exception.ref, .load (.arg 0)]

theorem Expr.nested_converting : converting.Nested false := by
  refine .apply rfl (by simp [Instruction.plain]) ?_ ?_
  · simpa using And.intro (Nested.unbox .load rfl) Nested.load
  · simp [yield]

/-- A context with one variable and one parameter. -/
def LowerContext.converting : LowerContext Unit :=
  .importing ⟨#[0], #[0]⟩ .ignoring

/-- The sum takes seven instructions, of which the last one stores it, and leaves four values alone
    that it finds on the stack. -/
theorem LowerContext.runsAbove_lowered_converting :
    (∃ helperType catalog,
      converting.config.converters = (Converters.importFrom helperType catalog).1) ∧
    Expr.converting.Nested converting.returnsValue ∧
    Expr.converting.yield converting.returnsValue = .ok 1 ∧
    ∃ code s', converting.statement (.assign (.var 0) .converting) ⟨.full, ()⟩ = .ok code s' ∧
      code.size = 7 ∧ RunsAbove false 4 4 (instructionsOf code) 4 := by
  have imported : ∃ helperType catalog,
      converting.config.converters = (Converters.importFrom helperType catalog).1 :=
    ⟨"Runtime", .initial, rfl⟩
  have exists_lowered : ∃ code s', converting.statement (.assign (.var 0) .converting) ⟨.full, ()⟩ =
      .ok code s' ∧ code.size = 7 := ⟨_, _, rfl, rfl⟩
  obtain ⟨code, s', lowered, size⟩ := exists_lowered
  have runs := (runsAbove_lowered imported Expr.nested_converting).2.1 rfl _ _ _ _ lowered 4
  exact ⟨imported, Expr.nested_converting, rfl, code, s', lowered, size, runs⟩

end Devirt
