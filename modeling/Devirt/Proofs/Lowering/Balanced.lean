import Devirt.Proofs.Lowering.Effects
import Devirt.Proofs.Lowering.Instructions
import Devirt.Proofs.Lowering.Labels
import Devirt.Proofs.StackDepth.Steady

/-!
# Balanced Statements

An expression is one-valued if its checks say that it leaves one value, and if control runs straight
through its code. A statement is balanced if it consumes the one value of its expression, or if it
applies a template to one-valued arguments and only the last instruction of the template does
anything about control. These are conditions on single templates. Together they make the code of a
whole graph steady: every statement starts and stops with an empty stack, and branches lead to the
anchors of nodes, where statements start.

Main statements:
- `Expr.OneValued`, `Statement.Balanced`: the conditions.
- `LowerContext.steady_statement`: the code of a balanced statement is steady.
- `LowerContext.steady_listing`: so is the code of a graph of balanced statements.
-/

namespace Devirt

open Stateful

variable {returnsValue : Bool}

/-! ## §1 Expressions that leave one value -/

/-- Control passes from the instruction to the next one and nowhere else. -/
def Instruction.Passive (i : Instruction) : Prop :=
  i.opcode.fallsThrough = true ∧ i.operand.targets = []

/-- Only opcodes that pass control on elsewhere empty the stack. -/
theorem Instruction.Passive.keepsBelow {i : Instruction} (h : i.Passive) : i.KeepsBelow := by
  have table : ∀ o : Opcode, o.fallsThrough = true → o.pops ≠ .everything := by
    intro o
    cases o <;> decide
  exact table _ h.1

theorem Instruction.Passive.isReturn_eq {i : Instruction} (h : i.Passive) : i.isReturn = false := by
  -- control does not fall through a return
  refine beq_eq_false_iff_ne.2 fun isReturn => ?_
  have falls := h.1
  rw [isReturn] at falls
  cases falls

/-- The expression leaves one value, and control runs straight through it. -/
inductive Expr.OneValued (returnsValue : Bool) : Expr → Prop where
  | load {ref : Ref} : OneValued returnsValue (.load ref)
  | address {ref : Ref} : OneValued returnsValue (.address ref)
  | unbox {value : Expr} {target : TypeRef} : OneValued returnsValue value →
      OneValued returnsValue (.unbox value target)
  /-- The check of the template has to come out at one value. -/
  | apply {template : Template} {arguments : List Expr} : template.flagsUpdate = none →
      (∀ e ∈ arguments, OneValued returnsValue e) → (∀ i ∈ template.instructions, i.Passive) →
      template.checkBalance arguments returnsValue = .ok 1 →
      OneValued returnsValue (.apply template arguments)

namespace Expr.OneValued

variable {e : Expr}

theorem leaves (h : e.OneValued returnsValue) : e.Leaves returnsValue 1 := by
  induction h with
  | load => exact .load
  | address => exact .address
  | unbox _ ih => exact .unbox ih
  | apply noUpdate _ passive balance ih =>
    exact .apply noUpdate (fun i mem => (passive i mem).keepsBelow) balance ih

theorem flagFree (h : e.OneValued returnsValue) : e.FlagFree := by
  induction h with
  | load => exact .load
  | address => exact .address
  | unbox _ ih => exact .unbox ih
  | apply noUpdate _ _ _ ih => exact .apply noUpdate ih

theorem passive_of_carries (h : e.OneValued returnsValue) {i : Instruction}
    (carries : e.Carries i) : i.Passive := by
  induction h with
  | load => cases carries
  | address => cases carries
  | unbox _ ih =>
    cases carries with
    | value inside => exact ih inside
  | apply _ _ passive _ ih =>
    cases carries with
    | here mem => exact passive i mem
    | argument mem inside => exact ih _ mem inside

end Expr.OneValued

/-! ## §2 Balanced statements -/

/-- The statement leaves the stack as it found it. -/
inductive Statement.Balanced (returnsValue : Bool) : Statement → Prop where
  /-- The value is stored. -/
  | assign {target : Ref} {value : Expr} : value.OneValued returnsValue →
      Balanced returnsValue (.assign target value)
  /-- The value is dropped. -/
  | drop {e : Expr} : e.OneValued returnsValue → Balanced returnsValue (.eval e)
  /-- There is no value. Only the last instruction may do something about control. -/
  | perform {template : Template} {arguments : List Expr} : template.flagsUpdate = none →
      template.resultType = none → (∀ e ∈ arguments, e.OneValued returnsValue) →
      (∀ i ∈ template.instructions.dropLast, i.Passive) →
      Balanced returnsValue (.eval (.apply template arguments))

theorem Statement.Balanced.flagFree {statement : Statement}
    (h : statement.Balanced returnsValue) : statement.source.FlagFree := by
  cases h with
  | assign one => exact one.flagFree
  | drop one => exact one.flagFree
  | perform noUpdate _ each _ => exact .apply noUpdate fun e mem => (each e mem).flagFree

namespace LowerContext

variable {σ : Type} {c : LowerContext σ} {s s' : Emission σ} {code : Array Line}

theorem Adds.passive {i : Instruction} (h : c.Adds i) : i.Passive := by
  refine ⟨?_, h.sound.2⟩
  cases h with
  | @load ref | @address ref | @store ref => cases ref <;> rfl
  | drop => rfl
  | convert mem =>
    unfold Converters.instructions at mem
    split at mem
    · obtain rfl := List.mem_singleton.1 mem
      rfl
    · simp only [List.mem_cons, List.not_mem_nil, or_false] at mem
      rcases mem with rfl | rfl | rfl <;> rfl

/-- A statement that evaluates a one-valued expression drops its value, or is not lowered. -/
theorem leavesValue_of_oneValued {e : Expr} (one : e.OneValued c.returnsValue) {drop : Bool}
    (h : c.leavesValue e = .ok drop) : drop = true := by
  -- the expression could only keep its value by the check saying that there is none
  cases one with
  | load | address | unbox => exact (Fallible.pure_eq_ok.1 h).symm
  | apply noUpdate _ _ balance =>
    simp only [leavesValue, noUpdate, Option.isSome_none, Bool.false_and, Bool.false_eq_true,
      if_false] at h
    split at h
    next => exact (Fallible.pure_eq_ok.1 h).symm
    next =>
      obtain ⟨depth, found, h⟩ := Fallible.bind_eq_ok.1 h
      obtain rfl := Except.ok.inj (found.symm.trans balance)
      cases h

/-- A statement without a result is lowered only if its check says that nothing is left. -/
theorem checkBalance_of_leavesValue {template : Template} {arguments : List Expr}
    (noUpdate : template.flagsUpdate = none) (noResult : template.resultType = none) {drop : Bool}
    (h : c.leavesValue (.apply template arguments) = .ok drop) :
    drop = false ∧ template.checkBalance arguments c.returnsValue = .ok 0 := by
  simp only [leavesValue, noResult, noUpdate, Option.isSome_none, Bool.false_and,
    Bool.false_eq_true, if_false] at h
  obtain ⟨depth, found, h⟩ := Fallible.bind_eq_ok.1 h
  cases depth with
  | zero => exact ⟨(Fallible.pure_eq_ok.1 h).symm, found⟩
  | succ depth => cases h

end LowerContext

/-! ## §3 Runs of emitted lines -/

section Runs

variable {resting : Label → Prop}

theorem Line.settles_of_passive {line : Line} (passive : line.instruction.Passive)
    (fresh : ¬resting line.label) {depth after : Nat}
    (behind : line.instruction.depthBehind? returnsValue depth = some after) :
    line.Settles resting returnsValue depth after := by
  obtain ⟨rest, enough, rfl⟩ := Option.map_eq_some_iff.1 behind
  -- no return, no targets and no resting point, so only the depth is left to tell
  refine ⟨depthAfter_eq_ok.2 ⟨rest, enough, fun isReturn => ?_, rfl⟩, fun target mem => ?_, ?_⟩
  · rw [passive.isReturn_eq] at isReturn
    cases isReturn
  · rw [passive.2] at mem
    cases mem
  · exact fun rests => absurd rests fresh

/-- Lines through which control runs straight are steady if their instructions can be run. -/
theorem Steady.of_passive {lines : List Line}
    (each : ∀ line ∈ lines, line.instruction.Passive ∧ ¬resting line.label) {depth stop : Nat}
    (run : runDepth returnsValue (lines.map Line.instruction) depth = .ok stop) :
    Steady resting returnsValue depth lines stop := by
  -- line by line, from the depth that the run has come to
  induction lines generalizing depth with
  | nil =>
    obtain rfl := Except.ok.inj run
    exact .nil
  | cons line lines ih =>
    obtain ⟨after, behind, run⟩ := runDepth_cons_eq_ok.1 run
    obtain ⟨passive, fresh⟩ := each line List.mem_cons_self
    exact .cons (Line.settles_of_passive passive fresh behind)
      (ih (fun line mem => each line (List.mem_cons_of_mem _ mem)) run)

/-- The last line may pass control on to resting points if the run leaves nothing. -/
theorem Steady.of_exit {lines : List Line} (fresh : ∀ line ∈ lines, ¬resting line.label)
    (targets : ∀ line ∈ lines, ∀ target ∈ line.instruction.operand.targets, resting target)
    (passive : ∀ line ∈ lines.dropLast, line.instruction.Passive) {depth : Nat}
    (run : runDepth returnsValue (lines.map Line.instruction) depth = .ok 0) :
    Steady resting returnsValue depth lines 0 := by
  -- the last line is taken off, since it alone need not settle by passing control on
  rcases List.eq_nil_or_concat' lines with rfl | ⟨init, last, rfl⟩
  · obtain rfl := Except.ok.inj run
    exact .nil
  · rw [List.dropLast_concat] at passive
    rw [List.map_append, runDepth_append_eq_ok] at run
    obtain ⟨between, run, exit⟩ := run
    obtain ⟨after, behind, done⟩ := runDepth_cons_eq_ok.1 exit
    obtain rfl := Except.ok.inj done
    obtain ⟨rest, enough, empty⟩ := Option.map_eq_some_iff.1 behind
    have inside : last ∈ init ++ [last] := by simp
    have before : Steady resting returnsValue depth init between :=
      .of_passive (fun line mem => ⟨passive line mem, fresh line (by simp [mem])⟩) run
    -- the last line leaves nothing, so it may return or go where the stack has to be empty
    refine before.append (.cons ⟨?_, ?_, ?_⟩ .nil)
    · exact Line.depthAfter_eq_ok.2 ⟨rest, enough, fun _ => by omega, empty.symm⟩
    · exact fun target mem => ⟨targets last inside target mem, rfl⟩
    · exact fun rests => absurd rests (fresh last inside)

end Runs

/-! ## §4 Code of balanced statements -/

/-- The label is the anchor of a node. -/
def Graph.IsAnchor (g : Graph) (label : Label) : Prop :=
  label.index < g.nodes.size

theorem Graph.LeadsToNodes.isAnchor {g : Graph} {i : Instruction} (h : g.LeadsToNodes i)
    {target : Label} (mem : target ∈ i.operand.targets) : g.IsAnchor target := by
  obtain ⟨node, inside, rfl⟩ := h target mem
  exact inside

namespace LowerContext

variable {σ : Type} {c : LowerContext σ} {g : Graph} {s s' : Emission σ} {code : Array Line}

/-- Labels that are handed out behind the anchors are no anchors. -/
theorem not_isAnchor_of_drawn (drawn : Drawn s code s') (behind : g.nodes.size ≤ s.level)
    {line : Line} (mem : line ∈ code.toList) : ¬g.IsAnchor line.label := by
  have fresh := (drawn.fresh line (Array.mem_toList_iff.1 mem)).1
  exact Nat.not_lt.2 (Nat.le_trans behind fresh)

/-- The code of a one-valued expression is steady and leaves one more value. -/
theorem steady_expr (convert : c.config.converters.Convert) (behind : g.nodes.size ≤ s.level)
    {e : Expr} (one : e.OneValued c.returnsValue) (lowered : c.expr e s = .ok code s')
    (below : Nat) :
    s.level ≤ s'.level ∧ Steady g.IsAnchor c.returnsValue below code.toList (below + 1) := by
  -- three inductions over one lowering: fresh labels, passive instructions and the depth of the run
  have drawn := Drawn.sequential.expr (fun _ _ => trivial) (.inl one.flagFree)
    (fun _ _ _ => trivial) lowered
  have passive := (sequential_forall Instruction.Passive).expr (fun _ => Adds.passive)
    (.inl one.flagFree) (fun _ carries _ => one.passive_of_carries carries) lowered
  have run := runDepth_expr convert one.leaves lowered below
  refine ⟨drawn.forward, .of_passive (fun line mem => ?_) run⟩
  exact ⟨passive line (Array.mem_toList_iff.1 mem), not_isAnchor_of_drawn drawn behind mem⟩

theorem steady_exprs (convert : c.config.converters.Convert) (behind : g.nodes.size ≤ s.level)
    {es : List Expr} (each : ∀ e ∈ es, e.OneValued c.returnsValue)
    (lowered : c.exprs es s = .ok code s') (below : Nat) :
    s.level ≤ s'.level ∧
      Steady g.IsAnchor c.returnsValue below code.toList (below + es.length) := by
  -- each value stays on the stack below those of the expressions behind it
  induction es generalizing s code below with
  | nil =>
    obtain ⟨rfl, rfl⟩ := exprs_nil_eq_ok.1 lowered
    exact ⟨Nat.le_refl _, .nil⟩
  | cons e es ih =>
    obtain ⟨a, s₁, b, first, rest, rfl⟩ := exprs_cons_eq_ok.1 lowered
    obtain ⟨forward, one⟩ := steady_expr convert behind (each e List.mem_cons_self) first below
    obtain ⟨forward', others⟩ := ih (Nat.le_trans behind forward)
      (fun e mem => each e (List.mem_cons_of_mem _ mem)) rest (below + 1)
    rw [Array.toList_append, List.length_cons, Nat.add_comm es.length, ← Nat.add_assoc]
    exact ⟨Nat.le_trans forward forward', one.append others⟩

/-- The code of a balanced statement starts and stops with an empty stack. -/
theorem steady_statement (convert : c.config.converters.Convert) {statement : Statement}
    (balanced : statement.Balanced c.returnsValue)
    (templates : ∀ i, statement.source.Carries i → g.LeadsToNodes i)
    (behind : g.nodes.size ≤ s.level) (lowered : c.statement statement s = .ok code s') :
    s.level ≤ s'.level ∧ Steady g.IsAnchor c.returnsValue 0 code.toList 0 := by
  have steps := statement_eq_ok lowered
  -- one more line behind a value, which takes the value
  have taken : ∀ (a : Array Line) (s₁ : Emission σ) (i : Instruction), c.Adds i →
      i.depthBehind? c.returnsValue 1 = some 0 →
      s.level ≤ s₁.level ∧ Steady g.IsAnchor c.returnsValue 0 a.toList 1 →
      s.level ≤ s₁.advance.level ∧
        Steady g.IsAnchor c.returnsValue 0 (a ++ #[(⟨s₁.supply.next, i⟩ : Line)]).toList 0 := by
    rintro a s₁ i added takes ⟨forward, steady⟩
    have fresh : ¬g.IsAnchor s₁.supply.next := Nat.not_lt.2 (Nat.le_trans behind forward)
    rw [Array.toList_append]
    exact ⟨Nat.le_succ_of_le forward,
      steady.append (.cons (Line.settles_of_passive added.passive fresh takes) .nil)⟩
  cases balanced with
  | @assign target value one =>
    obtain ⟨a, s₁, operand, value, found, rfl, rfl⟩ := steps
    refine taken a s₁ _ (.store found) ?_ (steady_expr convert behind one value 0)
    cases target <;> rfl
  | drop one =>
    rcases steps with ⟨kept, _⟩ | ⟨_, a, s₁, value, rfl, rfl⟩
    · cases leavesValue_of_oneValued one kept
    · exact taken a s₁ _ .drop rfl (steady_expr convert behind one value 0)
  -- the arguments leave their values, and the template consumes them as its check says
  | @perform template arguments noUpdate noResult each passive =>
    rcases steps with ⟨kept, lowered⟩ | ⟨dropped, _⟩
    · have empty := (checkBalance_of_leavesValue noUpdate noResult kept).2
      obtain ⟨_, given, s₁, _, evaluated, rest⟩ := expr_apply_eq_ok lowered
      obtain ⟨forward, before⟩ := steady_exprs convert behind each evaluated 0
      rcases rest with ⟨own, emitted, rfl⟩ | ⟨updates, _⟩
      · have drawn := Drawn.sequential.lines (fun _ _ => trivial) emitted
        have same := instructionsOf_lines emitted
        refine ⟨Nat.le_trans forward drawn.forward, ?_⟩
        rw [Array.toList_append]
        rw [Nat.zero_add] at before
        -- fresh labels, branches to anchors, passive up to the last instruction, and nothing left
        refine before.append (.of_exit ?_ ?_ ?_ ?_)
        · exact fun line mem => not_isAnchor_of_drawn drawn (Nat.le_trans behind forward) mem
        · intro line mem target inside
          have carried : line.instruction ∈ template.instructions :=
            same ▸ List.mem_map_of_mem mem
          exact (templates _ (.here carried)).isAnchor inside
        · intro line mem
          have carried : line.instruction ∈ template.instructions.dropLast := by
            rw [← same, instructionsOf, ← List.map_dropLast]
            exact List.mem_map_of_mem mem
          exact passive _ carried
        · have run := Template.checkBalance_eq_ok.1 empty
          rwa [← same] at run
      · exact absurd noUpdate updates
    · cases (checkBalance_of_leavesValue noUpdate noResult dropped).1

/-- The code of a graph of balanced statements starts and stops with an empty stack, and comes to
    every anchor with an empty stack. -/
theorem steady_listing (convert : c.config.converters.Convert)
    (balanced : ∀ node ∈ g.nodes, ∀ statement ∈ node.block, statement.Balanced c.returnsValue)
    (templates : ∀ i, g.Carries i → g.LeadsToNodes i) {l : Listing} {state : σ}
    (h : c.listing g ⟨g.supply, state⟩ = .ok l s') :
    Steady g.IsAnchor c.returnsValue 0 l.lines.toList 0 := by
  -- node by node, with the labels of the anchors behind the supply as an invariant
  refine (listing_induction (P := fun l s => g.nodes.size ≤ s.level ∧
    Steady g.IsAnchor c.returnsValue 0 l.lines.toList 0) h ⟨Nat.le_refl _, .nil⟩ ?_).1.2
  rintro l s node code s' mem _ ⟨behind, before⟩ lowered
  obtain ⟨rest, rfl, statements⟩ := block_of_statements
    (R := fun s code s' => g.nodes.size ≤ s.level →
      s.level ≤ s'.level ∧ Steady g.IsAnchor c.returnsValue 0 code.toList 0)
    (fun s _ => ⟨Nat.le_refl _, .nil⟩)
    (fun s a s₁ b s' first second behind => by
      obtain ⟨forward, steady⟩ := first behind
      obtain ⟨forward', steady'⟩ := second (Nat.le_trans behind forward)
      rw [Array.toList_append]
      exact ⟨Nat.le_trans forward forward', steady.append steady'⟩)
    (fun statement inside s code s' lowered behind => steady_statement convert
      (balanced node mem statement inside)
      (fun i carries => templates i ⟨node, mem, statement, inside, carries⟩) behind lowered)
    lowered
  obtain ⟨forward, steady⟩ := statements behind
  refine ⟨Nat.le_trans behind forward, ?_⟩
  -- the anchor is met with an empty stack, since the code before it stops with one
  have anchor : (⟨Graph.anchorOf l.stretches.size, .anchor⟩ : Line).Settles g.IsAnchor
      c.returnsValue 0 0 := ⟨rfl, by simp [Instruction.anchor, Instruction.plain, Operand.targets],
    fun _ => rfl⟩
  rw [Listing.append, Array.toList_append, Array.toList_append]
  exact before.append (.cons anchor steady)

end LowerContext

end Devirt
