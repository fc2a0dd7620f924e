import Devirt.Proofs.Lowering.Offences
import Devirt.Proofs.Lowering.Recording

/-!
# When Flags Are Updated

Templates are checked on the way down into an expression, and the functions that update flags are
called on the way up, with the code of the arguments. So the calls are made for the expressions that
update flags in the order in which the parts of each expression come before it, from left to right,
and a fault breaks the calls off without passing over any. This holds for every expression and every
statement, hence for a whole graph.

Main statements:
- `Expr.flagged`, `Graph.flagged`: the expressions that update flags, in order.
- `LowerContext.Requests`: what is asked for on behalf of an expression.
- `LowerContext.records_expr`: the induction on expressions.
- `LowerContext.follows_listing`: the calls that are made for a graph.
-/

namespace Devirt

open Stateful

variable {σ : Type}

/-! ## §1 Expressions that update flags -/

mutual
/-- The expression and all expressions inside: each behind its parts, the parts from left to
    right. -/
def Expr.postorder : Expr → List Expr
  | .load ref => [.load ref]
  | .address ref => [.address ref]
  | .unbox value target => value.postorder ++ [.unbox value target]
  | .apply template arguments => Expr.postorders arguments ++ [.apply template arguments]
/-- The expressions and all expressions inside. -/
def Expr.postorders : List Expr → List Expr
  | [] => []
  | e :: es => e.postorder ++ Expr.postorders es
end

namespace Expr

/-- Does the expression itself update flags? -/
def updatesFlags : Expr → Bool
  | .apply template _ => template.flagsUpdate.isSome
  | _ => false

/-- The expression and the expressions inside that update flags: each behind its parts, the parts
    from left to right. -/
def flagged (e : Expr) : List Expr :=
  e.postorder.filter updatesFlags

theorem flagged_unbox (value : Expr) (target : TypeRef) :
    (unbox value target).flagged = value.flagged := by
  simp [flagged, postorder, updatesFlags]

theorem filter_postorders (es : List Expr) :
    (postorders es).filter updatesFlags = es.flatMap flagged := by
  induction es with
  | nil => rfl
  | cons e es ih => rw [postorders, List.filter_append, ih, List.flatMap_cons, flagged]

theorem flagged_apply (template : Template) (arguments : List Expr) :
    (apply template arguments).flagged = arguments.flatMap flagged ++
      if template.flagsUpdate.isSome then [apply template arguments] else [] := by
  rw [flagged, postorder, List.filter_append, filter_postorders, List.filter_singleton,
    updatesFlags, cond_eq_ite]

end Expr

/-- The expressions of a graph that update flags, in the order of the nodes and statements. -/
def Graph.flagged (g : Graph) : List Expr :=
  g.nodes.toList.flatMap fun node => node.block.flatMap fun statement => statement.source.flagged

/-! ## §2 Where lowering comes to -/

namespace LowerContext

/-- Lowering an expression from an emission comes to lowering one of its parts from another
    emission. -/
inductive VisitsExpr (c : LowerContext σ) : Expr → Emission σ → Expr → Emission σ → Prop where
  | here {e : Expr} {s : Emission σ} : VisitsExpr c e s e s
  | value {value part : Expr} {target : TypeRef} {s s' : Emission σ} :
      VisitsExpr c value s part s' → VisitsExpr c (.unbox value target) s part s'
  /-- All checks have been passed, and the arguments before have been lowered. -/
  | argument {template : Template} {before after : List Expr} {e part : Expr} {depth : Nat}
      {given : Array Line} {s s₁ s' : Emission σ} :
      template.check (before ++ e :: after) c.returnsValue = .ok depth →
      ¬template.MissesArity (before ++ e :: after) →
      c.exprs before s = .ok given s₁ → VisitsExpr c e s₁ part s' →
      VisitsExpr c (.apply template (before ++ e :: after)) s part s'

/-- Lowering a statement comes to lowering a part of its expression. -/
inductive VisitsStatement (c : LowerContext σ) :
    Statement → Emission σ → Expr → Emission σ → Prop where
  | eval {e part : Expr} {drop : Bool} {s s' : Emission σ} : c.leavesValue e = .ok drop →
      c.VisitsExpr e s part s' → VisitsStatement c (.eval e) s part s'
  | assign {target : Ref} {value part : Expr} {s s' : Emission σ} :
      c.VisitsExpr value s part s' → VisitsStatement c (.assign target value) s part s'

/-- Lowering a block comes to lowering a part of an expression, the statements before being
    done. -/
def VisitsBlock (c : LowerContext σ) (anchor : Label) (statements : Block) (s : Emission σ)
    (part : Expr) (s' : Emission σ) : Prop :=
  ∃ before statement after code s₁, statements = before ++ statement :: after ∧
    c.block anchor before s = .ok code s₁ ∧ c.VisitsStatement statement s₁ part s'

/-- Lowering a graph comes to lowering a part of an expression, the nodes before being done. -/
def VisitsGraph (c : LowerContext σ) (g : Graph) (s : Emission σ) (part : Expr)
    (s' : Emission σ) : Prop :=
  ∃ before node after l s₁, g.nodes.toList = before ++ node :: after ∧
    before.foldlM c.appendNode .empty s = .ok l s₁ ∧
    c.VisitsBlock (Graph.anchorOf l.stretches.size) node.block s₁ part s'

/-- The call that is made for an expression when it is lowered from the given emission: with what
    the arguments are lowered to, with the instructions as they are, with the mask of the affected
    flags, and when the arguments are done. -/
inductive Requests (c : LowerContext σ) : Expr → Emission σ → FlagsCall σ → Prop where
  | unary {template : Template} {update : FlagsUpdate} {argument : Expr} {code : Array Line}
      {s s₁ : Emission σ} : template.flagsUpdate = some update →
      c.expr argument s = .ok code s₁ →
      Requests c (.apply template [argument]) s
        ⟨.unary code template.instructions (c.config.machine.mask update.affected), s₁⟩
  /-- The result stays if the expression has a type. -/
  | binary {template : Template} {update : FlagsUpdate} {left right : Expr}
      {code code' : Array Line} {s s₁ s₂ : Emission σ} : template.flagsUpdate = some update →
      c.expr left s = .ok code s₁ → c.expr right s₁ = .ok code' s₂ →
      Requests c (.apply template [left, right]) s
        ⟨.binary code code' template.instructions ⟨c.config.machine.mask update.affected,
          update.inverted, template.resultType.isSome⟩, s₂⟩

/-- The call is made for an expression when lowering has come to it. -/
def RequestsAt (c : LowerContext σ) (visits : Expr → Emission σ → Prop) (e : Expr)
    (call : FlagsCall σ) : Prop :=
  ∃ s, visits e s ∧ c.Requests e s call

variable {c : LowerContext σ} {s : Emission σ}

/-! ## §3 Calls of expressions -/

/-- Lowering something larger comes to wherever lowering a part of it does. -/
theorem records_within {α : Type} {visits visits' : Expr → Emission σ → Prop} {due : List Expr}
    {x : Emit σ α} {x' : Emit (σ × List (FlagsCall σ)) α}
    (h : Records c.flags due (c.RequestsAt visits) x x' s)
    (within : ∀ e s, visits e s → visits' e s) :
    Records c.flags due (c.RequestsAt visits') x x' s := by
  refine h.mono fun e call => ?_
  rintro ⟨s₀, visited, requests⟩
  exact ⟨s₀, within e s₀ visited, requests⟩

/-- The code of expressions calls for each of them in turn. -/
theorem records_exprs {Sound : Expr → FlagsCall σ → Prop} {es : List Expr}
    (each : ∀ before e after given s₁, es = before ++ e :: after →
      c.exprs before s = .ok given s₁ →
      Records c.flags e.flagged Sound (c.expr e) (c.recording.expr e) s₁) :
    Records c.flags (es.flatMap Expr.flagged) Sound (c.exprs es) (c.recording.exprs es) s := by
  -- the expressions already lowered move from `es` to `before`, so the emission has to be free
  induction es generalizing s with
  | nil =>
    rw [exprs, exprs]
    exact .pure _
  | cons e es ih =>
    rw [exprs, exprs, List.flatMap_cons]
    refine (each [] e es #[] s rfl (exprs_nil s)).bind fun a s₁ first => ?_
    refine (ih fun before e' after given s₂ split done => ?_).bind_quiet fun _ _ _ => .pure _
    exact each (e :: before) e' after (a ++ given) s₂ (by rw [split]; rfl)
      (exprs_cons_eq_ok.2 ⟨a, s₁, given, first, done, rfl⟩)

/-- The calls for an expression are made for the expressions inside that update flags. -/
theorem records_expr (e : Expr) (s : Emission σ) :
    Records c.flags e.flagged (c.RequestsAt (c.VisitsExpr e s)) (c.expr e) (c.recording.expr e)
      s := by
  induction e generalizing s with
  -- loading a reference asks for nothing, so all steps of it are quiet
  | load ref =>
    rw [expr, expr]
    exact ((Records.ofExcept _).quiet_bind fun _ _ _ => .line _).quiet_bind fun _ _ _ => .pure _
  | address ref =>
    rw [expr, expr]
    exact ((Records.ofExcept _).quiet_bind fun _ _ _ => .line _).quiet_bind fun _ _ _ => .pure _
  | unbox value target ih =>
    rw [expr, expr, Expr.flagged_unbox]
    exact (records_within (ih s) fun _ _ => .value).bind_quiet fun _ _ _ =>
      (Records.lines _).quiet_bind fun _ _ _ => .pure _
  | apply template arguments ih =>
    rw [expr, expr, Expr.flagged_apply]
    refine (Records.ofExcept _).quiet_bind fun depth s₁ checked => ?_
    obtain ⟨passed, rfl⟩ := Emit.ofExcept_eq_ok.1 checked
    -- arguments are lowered only if their number is right
    have inside : ∀ before e after given s₁, arguments = before ++ e :: after →
        ¬template.MissesArity arguments → c.exprs before s = .ok given s₁ →
        Records c.flags e.flagged (c.RequestsAt (c.VisitsExpr (.apply template arguments) s))
          (c.expr e) (c.recording.expr e) s₁ := by
      rintro before e after given s₁ rfl sound done
      exact records_within (ih e (by simp) s₁) fun _ _ => .argument passed sound done
    cases update : template.flagsUpdate with
    | none =>
      have sound : ¬template.MissesArity arguments := fun misses => misses.1 update
      rw [if_neg (by simp), List.append_nil]
      refine (records_exprs fun before e after given s₁ split done => ?_).bind_quiet fun _ _ _ =>
        (Records.lines _).quiet_bind fun _ _ _ => .pure _
      exact inside before e after given s₁ split sound done
    | some update' =>
      rw [if_pos Option.isSome_some]
      -- one or two arguments come with a call; any other number of them is a fault
      obtain _ | ⟨left, _ | ⟨right, _ | ⟨third, rest⟩⟩⟩ := arguments
      · exact .throw _
      · have sound : ¬template.MissesArity [left] := by simp [Template.MissesArity]
        rw [List.flatMap_singleton]
        refine (inside [] left [] #[] s rfl sound (exprs_nil s)).bind fun code s₁ lowered => ?_
        exact .call ⟨s, .here, .unary update lowered⟩
      · have sound : ¬template.MissesArity [left, right] := by simp [Template.MissesArity]
        have both : [left, right].flatMap Expr.flagged = left.flagged ++ right.flagged := by simp
        rw [both, List.append_assoc]
        refine (inside [] left [right] #[] s rfl sound (exprs_nil s)).bind
          fun code s₁ lowered => ?_
        have before := exprs_cons_eq_ok.2 ⟨code, s₁, #[], lowered, exprs_nil s₁, rfl⟩
        refine (inside [left] right [] _ s₁ rfl sound before).bind fun code' s₂ lowered' => ?_
        exact .call ⟨s, .here, .binary update lowered lowered'⟩
      · exact .throw _

/-! ## §4 Calls of graphs -/

theorem records_statement (statement : Statement) (s : Emission σ) :
    Records c.flags statement.source.flagged (c.RequestsAt (c.VisitsStatement statement s))
      (c.statement statement) (c.recording.statement statement) s := by
  cases statement with
  | eval e =>
    rw [LowerContext.statement, LowerContext.statement]
    refine (Records.ofExcept _).quiet_bind fun drop s₁ leaves => ?_
    obtain ⟨decided, rfl⟩ := Emit.ofExcept_eq_ok.1 leaves
    refine (records_within (records_expr e s) fun _ _ => .eval decided).bind_quiet
      fun code s₂ _ => ?_
    -- taking the value off again is a line, and asks for nothing either
    cases drop with
    | true => exact (Records.line _).quiet_bind fun _ _ _ => .pure _
    | false => exact .pure _
  | assign target value =>
    rw [LowerContext.statement, LowerContext.statement]
    refine (records_within (records_expr value s) fun _ _ => .assign).bind_quiet
      fun code s₂ _ => ?_
    exact ((Records.ofExcept _).quiet_bind fun _ _ _ => .line _).quiet_bind fun _ _ _ => .pure _

theorem records_block (anchor : Label) (statements : Block) (s : Emission σ) :
    Records c.flags (statements.flatMap fun statement => statement.source.flagged)
      (c.RequestsAt (c.VisitsBlock anchor statements s)) (c.block anchor statements)
      (c.recording.block anchor statements) s := by
  refine Records.foldlM fun before statement after code s₁ split done => ?_
  refine (records_within (records_statement statement s₁) fun _ _ visited => ?_).bind_quiet
    fun _ _ _ => .pure _
  exact ⟨before, statement, after, code, s₁, split, done, visited⟩

theorem records_listing (g : Graph) (s : Emission σ) :
    Records c.flags g.flagged (c.RequestsAt (c.VisitsGraph g s)) (c.listing g)
      (c.recording.listing g) s := by
  rw [listing, listing, ← Array.foldlM_toList, ← Array.foldlM_toList]
  refine Records.foldlM fun before node after l s₁ split done => ?_
  refine (records_within (records_block _ node.block s₁) fun _ _ visited => ?_).bind_quiet
    fun _ _ _ => .pure _
  exact ⟨before, node, after, l, s₁, split, done, visited⟩

/-- The calls that are made for a graph are made for the expressions that update flags, one call
    each, in order, until lowering fails. Each call asks for what lowering its arguments gave at
    that time. A call that fails is the last one, and then lowering fails with the fault of the
    call, in which the expression is named. -/
theorem follows_listing (c : LowerContext σ) (g : Graph) (s : Emission σ) :
    ∃ made : List (Expr × FlagsCall σ),
      c.recording.listing g (s.withCalls []) = withCalls (made.map Prod.snd) (c.listing g s) ∧
      Follows c.flags g.flagged (c.RequestsAt (c.VisitsGraph g s)) made (c.listing g s) := by
  obtain ⟨made, run, follows⟩ := records_listing (c := c) g s
  exact ⟨made, run [], follows⟩

end LowerContext

/-- A negation that updates flags. -/
def Expr.negation (e : Expr) : Expr :=
  .apply ⟨[.plain .neg], some ⟨⟨1⟩, false⟩, some CoreType.object.ref⟩ [e]

/-- A parameter that is negated three times. -/
def Graph.negating : Graph :=
  ⟨#[⟨0, [.assign (.var 0) (Expr.load (.arg 0)).negation.negation.negation]⟩], #[]⟩

/-- Functions that leave the code of arguments as it is, until they are called a second time. -/
def FlagsLowering.tiring : FlagsLowering Nat where
  unary argument _ _ := fun s =>
    if s.state = 0 then .ok argument ⟨s.supply, 1⟩ else .error (.body .tooManyLocals) s
  binary _ _ _ _ := fun s => .error (.body .tooManyLocals) s

/-- A context with one variable and one parameter. -/
def LowerContext.tiring : LowerContext Nat :=
  .importing ⟨#[0], #[0]⟩ .tiring

/-- The call for the second negation fails, and the fault names this one only, although it is inside
    the third one. -/
theorem LowerContext.follows_listing_tiring :
    ∃ s', tiring.listing .negating ⟨.full, 0⟩ =
      .error (.inExpr (Expr.load (.arg 0)).negation.negation.text (.body .tooManyLocals)) s' := by
  obtain ⟨made, run, follows⟩ := follows_listing tiring .negating ⟨.full, 0⟩
  have log : [_, _] = made.map Prod.snd :=
    congrArg (·.state.2) (EStateM.Result.error.inj run).2
  obtain ⟨⟨e, _⟩, _, rfl, rfl, behind⟩ := List.map_eq_cons_iff.1 log.symm
  obtain ⟨⟨e', _⟩, _, rfl, rfl, none⟩ := List.map_eq_cons_iff.1 behind
  obtain rfl := List.map_eq_nil_iff.1 none
  -- two of the three expressions that update flags
  have order : [e, e'] <+: [(Expr.load (.arg 0)).negation, (Expr.load (.arg 0)).negation.negation,
    (Expr.load (.arg 0)).negation.negation.negation] := follows.order
  obtain ⟨rfl, rfl⟩ : e = _ ∧ e' = _ := by simpa [List.cons_prefix_cons] using order
  exact ⟨_, (follows.stops [_] _ _ [] _ _ rfl rfl).2⟩

end Devirt
