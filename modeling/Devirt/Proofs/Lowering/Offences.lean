import Devirt.Proofs.Lowering.Effects
import Devirt.Proofs.Lowering.IgnoringFlags

/-!
# Expressions that Cannot be Lowered

What can be wrong with an expression is said for each expression by itself, whatever is wrong inside
it. Lowering meets the expressions inside an expression in one order: each one before its parts, and
the parts from left to right. So the error is that of the first expression in this order with which
something is wrong. The functions that update flags are not part of this; they are supposed never to
fail.

Main statements:
- `Expr.Offends`: what can be wrong with an expression itself.
- `LowerContext.endsWith_expr`: the induction on expressions.
- `LowerContext.expr_fails_first_offence`: when there is code, and which error there is otherwise.
-/

namespace Devirt

open Stateful

/-! ## §1 Expressions inside an expression -/

mutual
/-- The expression and all expressions inside: each before its parts, the parts from left to
    right. -/
def Expr.preorder : Expr → List Expr
  | .load ref => [.load ref]
  | .address ref => [.address ref]
  | .unbox value target => .unbox value target :: value.preorder
  | .apply template arguments => .apply template arguments :: Expr.preorders arguments
/-- The expressions and all expressions inside. -/
def Expr.preorders : List Expr → List Expr
  | [] => []
  | e :: es => e.preorder ++ Expr.preorders es
end

/-! ## §2 What can be wrong with an expression -/

/-- The variable or parameter has a place. -/
def Binding.Binds (b : Binding) : Ref → Prop
  | .var index => index < b.slots.size
  | .arg index => index < b.arguments.size

/-- The instructions find enough values on a stack that holds those of the arguments and no
    others. -/
def Template.Balances (returnsValue : Bool) (t : Template) (arguments : List Expr) : Prop :=
  ∃ depth, runDepth returnsValue t.instructions arguments.length = .ok depth

/-- Flags are updated by an operation with neither one argument nor two. -/
def Template.MissesArity (t : Template) (arguments : List Expr) : Prop :=
  t.flagsUpdate ≠ none ∧ arguments.length ≠ 1 ∧ arguments.length ≠ 2

instance (t : Template) (arguments : List Expr) : Decidable (t.MissesArity arguments) :=
  inferInstanceAs (Decidable (_ ∧ _ ∧ _))

/-- What is wrong with an expression itself. Of several reasons only the first one counts. -/
inductive Expr.Offends (b : Binding) (returnsValue : Bool) : Expr → LowerError → Prop where
  | load {ref : Ref} : ¬b.Binds ref → Offends b returnsValue (.load ref) (.unbound ref)
  | address {ref : Ref} : ¬b.Binds ref → Offends b returnsValue (.address ref) (.unbound ref)
  /-- An instruction takes more values than the instructions before it have left. -/
  | imbalance {template : Template} {arguments : List Expr} {i : Instruction} {depth : Nat} :
      Underflows returnsValue arguments.length template.instructions i depth →
      Offends b returnsValue (.apply template arguments)
        (.imbalance (Expr.apply template arguments).text i.text depth)
  /-- An operand has the wrong form, while those before it have the right one. -/
  | operandMismatch {template : Template} {arguments : List Expr} {before after : List Instruction}
      {i : Instruction} : template.Balances returnsValue arguments →
      template.instructions = before ++ i :: after → (∀ j ∈ before, j.isWellFormed = true) →
      i.isWellFormed = false →
      Offends b returnsValue (.apply template arguments)
        (.operandMismatch (Expr.apply template arguments).text i.text i.opcode.operandKind)
  | flagsArity {template : Template} {arguments : List Expr} :
      template.Balances returnsValue arguments →
      (∀ i ∈ template.instructions, i.isWellFormed = true) → template.MissesArity arguments →
      Offends b returnsValue (.apply template arguments)
        (.flagsArity (Expr.apply template arguments).text arguments.length)

/-- What is wrong with an expression itself, as the checks say one after the other. -/
def Expr.offence? (b : Binding) (returnsValue : Bool) : Expr → Option LowerError
  | .load ref | .address ref => Fallible.fault? (b.operand ref)
  | .unbox _ _ => none
  | .apply template arguments =>
    (Fallible.fault? (template.check arguments returnsValue)).or
      (if template.MissesArity arguments then
        some (.flagsArity (Expr.apply template arguments).text arguments.length)
      else none)

variable {b : Binding} {returnsValue : Bool} {cause : LowerError}

theorem Binding.fault?_operand {ref : Ref} :
    Fallible.fault? (b.operand ref) = some cause ↔ ¬b.Binds ref ∧ cause = .unbound ref := by
  cases ref with
  | var index =>
    by_cases inside : index < b.slots.size
    · simp [operand, Fallible.fault?, Binds, inside]
    · simp [operand, Fallible.fault?, Binds, inside, eq_comm]
  | arg index =>
    by_cases inside : index < b.arguments.size
    · simp [operand, Fallible.fault?, Binds, inside]
    · simp [operand, Fallible.fault?, Binds, inside, eq_comm]

namespace Template

variable {t : Template} {arguments : List Expr}

theorem fault?_checkBalance : Fallible.fault? (t.checkBalance arguments returnsValue) = some cause ↔
    ∃ i depth, Underflows returnsValue arguments.length t.instructions i depth ∧
      cause = .imbalance (Expr.apply t arguments).text i.text depth := by
  -- the check renames the fault of a run over the instructions
  simp only [← runDepth_eq_error_iff, checkBalance]
  cases runDepth returnsValue t.instructions arguments.length with
  | ok depth => simp [Fallible.fault?]
  | error found => simp [Fallible.fault?, eq_comm, Prod.ext_iff]

theorem fault?_checkBalance_eq_none :
    Fallible.fault? (t.checkBalance arguments returnsValue) = none ↔
      t.Balances returnsValue arguments := by
  rw [checkBalance, Balances]
  cases runDepth returnsValue t.instructions arguments.length <;> simp [Fallible.fault?]

theorem firstMismatch?_eq_some_iff {i : Instruction} : t.firstMismatch? = some i ↔
    ∃ before after, t.instructions = before ++ i :: after ∧
      (∀ j ∈ before, j.isWellFormed = true) ∧ i.isWellFormed = false := by
  simp only [firstMismatch?, List.find?_eq_some_iff_append, Bool.not_eq_true', Bool.not_not]
  constructor
  · rintro ⟨wrong, before, after, same, sound⟩
    exact ⟨before, after, same, sound, wrong⟩
  · rintro ⟨before, after, same, sound, wrong⟩
    exact ⟨wrong, before, after, same, sound⟩

theorem firstMismatch?_eq_none_iff :
    t.firstMismatch? = none ↔ ∀ i ∈ t.instructions, i.isWellFormed = true := by
  simp [firstMismatch?]

theorem fault?_checkOperands : Fallible.fault? (t.checkOperands arguments) = some cause ↔
    ∃ before i after, t.instructions = before ++ i :: after ∧
      (∀ j ∈ before, j.isWellFormed = true) ∧ i.isWellFormed = false ∧
      cause = .operandMismatch (Expr.apply t arguments).text i.text i.opcode.operandKind := by
  rw [checkOperands]
  constructor
  · intro fault
    cases found : t.firstMismatch? with
    | none =>
      rw [found] at fault
      cases fault
    | some i =>
      rw [found] at fault
      obtain ⟨before, after, same, sound, wrong⟩ := firstMismatch?_eq_some_iff.1 found
      exact ⟨before, i, after, same, sound, wrong, (Option.some.inj fault).symm⟩
  · rintro ⟨before, i, after, same, sound, wrong, rfl⟩
    rw [firstMismatch?_eq_some_iff.2 ⟨before, after, same, sound, wrong⟩]
    rfl

theorem fault?_checkOperands_eq_none : Fallible.fault? (t.checkOperands arguments) = none ↔
    ∀ i ∈ t.instructions, i.isWellFormed = true := by
  rw [← firstMismatch?_eq_none_iff, checkOperands]
  cases t.firstMismatch? <;> simp [Fallible.fault?]

/-- Balance is checked before operands. -/
theorem fault?_check (t : Template) (arguments : List Expr) (returnsValue : Bool) :
    Fallible.fault? (t.check arguments returnsValue) =
      (Fallible.fault? (t.checkBalance arguments returnsValue)).or
        (Fallible.fault? (t.checkOperands arguments)) := by
  rw [check]
  -- operands are not looked at where the values do not suffice
  cases t.checkBalance arguments returnsValue with
  | error e => rfl
  | ok depth => exact Fallible.fault?_bind_pure _ _

end Template

/-- The checks find exactly what is wrong. -/
theorem Expr.offence?_eq_some_iff {e : Expr} :
    e.offence? b returnsValue = some cause ↔ e.Offends b returnsValue cause := by
  -- the checks of each form of expression are the constructors for that form, in their order
  cases e with
  | load ref =>
    rw [offence?, Binding.fault?_operand]
    constructor
    · rintro ⟨unbound, rfl⟩
      exact .load unbound
    · intro offends
      cases offends with
      | load unbound => exact ⟨unbound, rfl⟩
  | address ref =>
    rw [offence?, Binding.fault?_operand]
    constructor
    · rintro ⟨unbound, rfl⟩
      exact .address unbound
    · intro offends
      cases offends with
      | address unbound => exact ⟨unbound, rfl⟩
  | unbox value target =>
    constructor
    · rintro ⟨⟩
    · rintro ⟨⟩
  | apply template arguments =>
    -- later checks count only if the earlier ones found nothing, as the constructors say
    simp only [offence?, Template.fault?_check, Option.or_eq_some_iff, Option.or_eq_none_iff,
      Template.fault?_checkBalance, Template.fault?_checkBalance_eq_none,
      Template.fault?_checkOperands, Template.fault?_checkOperands_eq_none]
    constructor
    · rintro ((⟨i, depth, lacks, rfl⟩ | ⟨balance, before, i, after, same, sound, wrong, rfl⟩) |
        ⟨⟨balance, sound⟩, arity⟩)
      · exact .imbalance lacks
      · exact .operandMismatch balance same sound wrong
      · split at arity
        next misses =>
          obtain rfl := Option.some.inj arity
          exact .flagsArity balance sound misses
        next => cases arity
    · intro offends
      cases offends with
      | imbalance lacks => exact .inl (.inl ⟨_, _, lacks, rfl⟩)
      | operandMismatch balance same sound wrong =>
        exact .inl (.inr ⟨balance, _, _, _, same, sound, wrong, rfl⟩)
      | flagsArity balance sound misses =>
        exact .inr ⟨⟨balance, sound⟩, if_pos misses⟩

theorem Expr.offence?_eq_none_iff {e : Expr} :
    e.offence? b returnsValue = none ↔ ∀ cause, ¬e.Offends b returnsValue cause := by
  simp only [Option.eq_none_iff_forall_ne_some, ne_eq, offence?_eq_some_iff]

/-! ## §3 Lowering step by step -/

/-- The functions that update flags never fail. -/
structure FlagsLowering.NeverFails {σ : Type} (flags : FlagsLowering σ) : Prop where
  unary : ∀ argument is mask, EndsWith none (flags.unary argument is mask)
  binary : ∀ left right is update, EndsWith none (flags.binary left right is update)

variable {σ : Type}

namespace Emit

theorem ofExcept_endsWith {α : Type} (x : Except LowerError α) :
    EndsWith (Fallible.fault? x) (ofExcept x : Emit σ α) := by
  cases x with
  | ok a => exact .pure a
  | error e => exact .throw e

theorem line_endsWith (i : Instruction) : EndsWith none (line i : Emit σ Line) :=
  fun _ => rfl

theorem lines_endsWith (is : List Instruction) : EndsWith none (lines is : Emit σ (Array Line)) :=
  .foldlM (fun i _ _ => (line_endsWith i).bind fun _ => .pure _) _

end Emit

theorem FlagsLowering.ignoring_neverFails : (ignoring : FlagsLowering σ).NeverFails where
  unary _ is _ := (Emit.lines_endsWith is).bind fun _ => .pure _
  binary _ _ _ _ := (Emit.lines_endsWith _).bind fun _ => .pure _

namespace LowerContext

variable {c : LowerContext σ}

theorem endsWith_onPlace (opcode : Opcode) (ref : Ref) :
    EndsWith (Fallible.fault? (c.binding.operand ref)) (c.onPlace opcode ref) :=
  (Emit.ofExcept_endsWith _).bind_none fun _ => Emit.line_endsWith _

theorem endsWith_naming {e : Expr} {x : Emit σ (Array Line)} (h : EndsWith none x) :
    EndsWith none (naming e x) := by
  intro s
  -- a fault would be renamed, and there is none
  obtain ⟨code, s', called⟩ := fault?_eq_none_iff.1 (h s)
  exact fault?_eq_none_iff.2 ⟨code, s', naming_eq_ok.2 called⟩

/-- What is wrong with the first of the expressions with which something is wrong. -/
def firstOffence? (c : LowerContext σ) (parts : List Expr) : Option LowerError :=
  parts.findSome? (Expr.offence? c.binding c.returnsValue)

theorem firstOffence?_cons (e : Expr) (parts : List Expr) : c.firstOffence? (e :: parts) =
    (e.offence? c.binding c.returnsValue).or (c.firstOffence? parts) := by
  rw [firstOffence?, List.findSome?_cons]
  cases e.offence? c.binding c.returnsValue <;> rfl

theorem firstOffence?_append (parts parts' : List Expr) : c.firstOffence? (parts ++ parts') =
    (c.firstOffence? parts).or (c.firstOffence? parts') :=
  List.findSome?_append

/-- The code of expressions fails as the first of them that fails. -/
theorem endsWith_exprs {es : List Expr}
    (each : ∀ e ∈ es, EndsWith (c.firstOffence? e.preorder) (c.expr e)) :
    EndsWith (c.firstOffence? (Expr.preorders es)) (c.exprs es) := by
  -- expressions are lowered in order, so the first fault is that of the first one with a fault
  induction es with
  | nil =>
    rw [exprs, Expr.preorders]
    exact .pure _
  | cons e es ih =>
    rw [exprs, Expr.preorders, firstOffence?_append]
    have rest := ih fun e mem => each e (List.mem_cons_of_mem _ mem)
    exact (each e List.mem_cons_self).bind fun _ => rest.bind_none fun _ => .pure _

/-- Whatever the state, the code of an expression fails as the first expression inside with which
    something is wrong. -/
theorem endsWith_expr (never : c.flags.NeverFails) (e : Expr) :
    EndsWith (c.firstOffence? e.preorder) (c.expr e) := by
  -- each expression is checked before its parts are lowered, which is the order of `preorder`
  induction e with
  | load ref =>
    rw [expr, Expr.preorder, firstOffence?_cons]
    exact (endsWith_onPlace _ ref).bind fun _ => .pure _
  | address ref =>
    rw [expr, Expr.preorder, firstOffence?_cons]
    exact (endsWith_onPlace _ ref).bind fun _ => .pure _
  | unbox value target ih =>
    rw [expr, Expr.preorder, firstOffence?_cons]
    exact ih.bind_none fun _ => (Emit.lines_endsWith _).bind_none fun _ => .pure _
  | apply template arguments ih =>
    rw [expr, Expr.preorder, firstOffence?_cons, Expr.offence?, Option.or_assoc]
    refine (Emit.ofExcept_endsWith _).bind fun _ => ?_
    cases update : template.flagsUpdate with
    | none =>
      rw [if_neg fun misses => misses.1 update]
      exact (endsWith_exprs ih).bind_none fun _ =>
        (Emit.lines_endsWith _).bind_none fun _ => .pure _
    | some update' =>
      -- one argument or two are lowered and handed over; other numbers are faults of the expression
      -- itself
      obtain _ | ⟨left, _ | ⟨right, _ | ⟨third, rest⟩⟩⟩ := arguments
      · rw [if_pos (by simp [Template.MissesArity, update])]
        exact .throw _
      · rw [if_neg (by simp [Template.MissesArity])]
        have parts : Expr.preorders [left] = left.preorder := by simp [Expr.preorders]
        rw [parts]
        exact (ih left (by simp)).bind_none fun _ => endsWith_naming (never.unary _ _ _)
      · rw [if_neg (by simp [Template.MissesArity])]
        have parts : Expr.preorders [left, right] = left.preorder ++ right.preorder := by
          simp [Expr.preorders]
        rw [parts, firstOffence?_append]
        exact (ih left (by simp)).bind fun _ =>
          (ih right (by simp)).bind_none fun _ => endsWith_naming (never.binary _ _ _ _)
      · rw [if_pos (by simp [Template.MissesArity, update])]
        exact .throw _

/-- There is code for an expression exactly if nothing is wrong with it or inside it. Otherwise the
    error is about the first expression with which something is wrong, where each expression comes
    before its parts, and the parts from left to right. -/
theorem expr_fails_first_offence (never : c.flags.NeverFails) (e : Expr) (s : Emission σ) :
    ((∃ code s', c.expr e s = .ok code s') ↔
      ∀ part ∈ e.preorder, ∀ cause, ¬part.Offends c.binding c.returnsValue cause) ∧
    ∀ cause, (∃ s', c.expr e s = .error cause s') ↔ ∃ before part after,
      e.preorder = before ++ part :: after ∧
      (∀ earlier ∈ before, ∀ cause', ¬earlier.Offends c.binding c.returnsValue cause') ∧
      part.Offends c.binding c.returnsValue cause := by
  -- both parts say what the first fault in preorder is
  have fault := endsWith_expr never e s
  refine ⟨?_, fun cause => ?_⟩
  · rw [← fault?_eq_none_iff, fault, firstOffence?, List.findSome?_eq_none_iff]
    exact forall₂_congr fun _ _ => Expr.offence?_eq_none_iff
  · rw [← fault?_eq_some_iff, fault, firstOffence?, List.findSome?_eq_some_iff]
    simp only [Expr.offence?_eq_none_iff, Expr.offence?_eq_some_iff]
    constructor
    · rintro ⟨before, part, after, order, offends, earlier⟩
      exact ⟨before, part, after, order, earlier, offends⟩
    · rintro ⟨before, part, after, order, earlier, offends⟩
      exact ⟨before, part, after, order, offends, earlier⟩

end LowerContext

/-- The sum of a variable and the result of an operation that takes a value too many. The sum
    updates flags, and is converted. -/
def Expr.doublyFaulty : Expr :=
  .unbox (.apply ⟨[.plain .add], some ⟨⟨1⟩, false⟩, some CoreType.object.ref⟩
    [.load (.var 5), .apply ⟨[.plain .neg], none, some CoreType.object.ref⟩ []])
    CoreType.object.ref

/-- A context without variables. -/
def LowerContext.withoutVariables : LowerContext Unit :=
  .importing ⟨#[], #[]⟩ .ignoring

/-- The conversion and the sum are sound, and the variable comes before the other operation. -/
theorem LowerContext.expr_fails_first_offence_doublyFaulty :
    withoutVariables.flags.NeverFails ∧
    ∃ s', withoutVariables.expr .doublyFaulty ⟨.full, ()⟩ = .error (.unbound (.var 5)) s' := by
  have never : withoutVariables.flags.NeverFails := FlagsLowering.ignoring_neverFails
  refine ⟨never, ?_⟩
  -- two expressions come before the variable, and one that offends as well comes after it
  refine ((expr_fails_first_offence never _ _).2 _).2 ⟨[_, _], .load (.var 5), [_], rfl, ?_, ?_⟩
  · simp only [List.forall_mem_cons, List.not_mem_nil, false_imp_iff, implies_true, and_true]
    exact ⟨Expr.offence?_eq_none_iff.1 rfl, Expr.offence?_eq_none_iff.1 rfl⟩
  · exact .load (Nat.not_lt_zero 5)

end Devirt
