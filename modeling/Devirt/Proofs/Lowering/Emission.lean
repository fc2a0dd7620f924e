import Devirt.Lowering.Listing
import Devirt.Proofs.Runs

/-!
# Emitted Code

Lowering puts code together in few ways: it gives single instructions fresh labels, it joins pieces
of code, and it lets the functions that update flags turn the code of arguments into other code. A
relation between the emissions before and after, and the code emitted in between, that survives
these ways holds of everything that is lowered. Facts about labels and about instructions of lowered
code are obtained from this one induction.

Main statements:
- `Expr.recursion`: induction on expressions.
- `LowerContext.expr_apply_eq_ok`, `LowerContext.statement_eq_ok`: all that lowering can do.
- `Sequential.expr`, `Compositional.block`: the induction.
-/

namespace Devirt

open Stateful

/-! ## §1 Steps of an emission -/

/-- The emission after a label has been handed out. -/
def Emission.advance {σ : Type} (s : Emission σ) : Emission σ :=
  { s with supply := s.supply.fresh.2 }

namespace Emit

variable {σ : Type} {s s' : Emission σ}

theorem line_eq_ok {i : Instruction} {line : Line} :
    Emit.line i s = .ok line s' ↔ line = ⟨s.supply.next, i⟩ ∧ s' = s.advance := by
  show EStateM.Result.ok _ _ = .ok line s' ↔ _
  simp [eq_comm, Emission.advance, LabelSupply.fresh]

theorem ofExcept_eq_ok {α : Type} {x : Except LowerError α} {a : α} :
    (ofExcept x : Emit σ α) s = .ok a s' ↔ x = .ok a ∧ s = s' := by
  cases x with
  | ok b =>
    show EStateM.Result.ok b s = .ok a s' ↔ _
    simp
  | error e =>
    show EStateM.Result.error e s = .ok a s' ↔ _
    simp

end Emit

/-- Naming the expression in a fault changes no success. -/
theorem LowerContext.naming_eq_ok {σ α : Type} {e : Expr} {x : Emit σ α} {s s' : Emission σ}
    {a : α} : naming e x s = .ok a s' ↔ x s = .ok a s' := by
  show EStateM.adaptExcept _ x s = _ ↔ _
  unfold EStateM.adaptExcept
  cases x s <;> simp

/-! ## §2 Induction on expressions -/

/-- What holds of an expression if it holds of its parts holds of all expressions. -/
@[elab_as_elim, induction_eliminator]
theorem Expr.recursion {motive : Expr → Prop} (load : ∀ ref, motive (.load ref))
    (address : ∀ ref, motive (.address ref))
    (unbox : ∀ value target, motive value → motive (.unbox value target))
    (apply : ∀ template arguments, (∀ argument ∈ arguments, motive argument) →
      motive (.apply template arguments)) (e : Expr) : motive e :=
  Expr.rec load address unbox apply (by simp) (fun _ _ here there => by simp [here]; exact there) e

/-! ## §3 What lowering can do -/

/-- The functions that update flags turn the code of arguments, in order, and the instructions of an
    operation into the whole code. -/
inductive FlagsLowering.Gives {σ : Type} (flags : FlagsLowering σ) : (given : Array Line) →
    List Instruction → Emission σ → Array Line → Emission σ → Prop where
  | unary {argument code : Array Line} {is : List Instruction} {mask : UInt8} {s s' : Emission σ} :
      flags.unary argument is mask s = .ok code s' → Gives flags argument is s code s'
  | binary {left right code : Array Line} {is : List Instruction} {update : BinaryUpdate}
      {s s' : Emission σ} :
      flags.binary left right is update s = .ok code s' → Gives flags (left ++ right) is s code s'

namespace LowerContext

variable {σ : Type} {c : LowerContext σ} {s s' : Emission σ} {code : Array Line}

theorem onPlace_eq_ok {opcode : Opcode} {ref : Ref} {line : Line} :
    c.onPlace opcode ref s = .ok line s' ↔ ∃ operand, c.binding.operand ref = .ok operand ∧
      line = ⟨s.supply.next, ⟨opcode, operand⟩⟩ ∧ s' = s.advance := by
  simp only [onPlace, bind_eq_ok, Emit.ofExcept_eq_ok, Emit.line_eq_ok]
  constructor
  · rintro ⟨operand, _, ⟨found, rfl⟩, done⟩
    exact ⟨operand, found, done⟩
  · rintro ⟨operand, found, done⟩
    exact ⟨operand, s, ⟨found, rfl⟩, done⟩

theorem singleton_onPlace_eq_ok {opcode : Opcode} {ref : Ref} :
    (do return #[← c.onPlace opcode ref] : Emit σ (Array Line)) s = .ok code s' ↔
      ∃ operand, c.binding.operand ref = .ok operand ∧
        code = #[⟨s.supply.next, ⟨opcode, operand⟩⟩] ∧ s' = s.advance := by
  simp only [bind_eq_ok, pure_eq_ok, onPlace_eq_ok]
  constructor
  · rintro ⟨_, _, ⟨operand, found, rfl, rfl⟩, rfl, rfl⟩
    exact ⟨operand, found, rfl, rfl⟩
  · rintro ⟨operand, found, rfl, rfl⟩
    exact ⟨_, _, ⟨operand, found, rfl, rfl⟩, rfl, rfl⟩

/-- Two pieces of code, one behind the other. -/
theorem append_eq_ok {x y : Emit σ (Array Line)} :
    (do let a ← x; return a ++ (← y)) s = .ok code s' ↔
      ∃ a s₁ b, x s = .ok a s₁ ∧ y s₁ = .ok b s' ∧ code = a ++ b := by
  simp only [bind_eq_ok, pure_eq_ok]
  constructor
  · rintro ⟨a, s₁, first, b, _, second, rfl, rfl⟩
    exact ⟨a, s₁, b, first, second, rfl⟩
  · rintro ⟨a, s₁, b, first, second, rfl⟩
    exact ⟨a, s₁, first, b, s', second, rfl, rfl⟩

theorem exprs_cons_eq_ok {e : Expr} {es : List Expr} : c.exprs (e :: es) s = .ok code s' ↔
    ∃ a s₁ b, c.expr e s = .ok a s₁ ∧ c.exprs es s₁ = .ok b s' ∧ code = a ++ b := by
  rw [exprs]
  exact append_eq_ok

theorem exprs_nil_eq_ok : c.exprs [] s = .ok code s' ↔ code = #[] ∧ s' = s := by
  rw [exprs, pure_eq_ok, eq_comm, eq_comm (a := s)]

theorem exprs_nil (s : Emission σ) : c.exprs [] s = .ok #[] s :=
  exprs_nil_eq_ok.2 ⟨rfl, rfl⟩

/-- An application of a template is checked; then its arguments are lowered, and its instructions
    follow, unless it updates flags. -/
theorem expr_apply_eq_ok {template : Template} {arguments : List Expr}
    (h : c.expr (.apply template arguments) s = .ok code s') :
    ∃ depth given s₁, template.check arguments c.returnsValue = .ok depth ∧
      c.exprs arguments s = .ok given s₁ ∧
      ((∃ own, Emit.lines template.instructions s₁ = .ok own s' ∧ code = given ++ own) ∨
        template.flagsUpdate ≠ none ∧ c.flags.Gives given template.instructions s₁ code s') := by
  -- the check needs nothing but the template, so it leaves the emission as it is
  rw [expr, bind_eq_ok] at h
  obtain ⟨depth, _, checked, h⟩ := h
  obtain ⟨passed, rfl⟩ := Emit.ofExcept_eq_ok.1 checked
  -- a template for flags takes one argument or two, and other numbers are faults
  cases update : template.flagsUpdate with
  | none =>
    rw [update] at h
    obtain ⟨given, s₁, own, lowered, emitted, rfl⟩ := append_eq_ok.1 h
    exact ⟨depth, given, s₁, passed, lowered, .inl ⟨own, emitted, rfl⟩⟩
  | some update =>
    rw [update] at h
    dsimp only at h
    split at h
    next argument =>
      -- the function gets the code of the argument, as if the arguments were lowered as a list
      obtain ⟨given, s₁, lowered, called⟩ := bind_eq_ok.1 h
      refine ⟨depth, given, s₁, passed, ?_, .inr ⟨by simp, .unary (naming_eq_ok.1 called)⟩⟩
      exact exprs_cons_eq_ok.2 ⟨given, s₁, #[], lowered, exprs_nil_eq_ok.2 ⟨rfl, rfl⟩, by simp⟩
    next left right =>
      obtain ⟨a, s₁, lowered, h⟩ := bind_eq_ok.1 h
      obtain ⟨b, s₂, lowered', called⟩ := bind_eq_ok.1 h
      refine ⟨depth, a ++ b, s₂, passed, ?_, .inr ⟨by simp, .binary (naming_eq_ok.1 called)⟩⟩
      exact exprs_cons_eq_ok.2 ⟨a, s₁, b, lowered, exprs_cons_eq_ok.2
        ⟨b, s₂, #[], lowered', exprs_nil_eq_ok.2 ⟨rfl, rfl⟩, by simp⟩, rfl⟩
    next => cases h

/-- A statement is an expression, perhaps with one line behind it. A value that is left is
    dropped. -/
theorem statement_eq_ok {statement : Statement} (h : c.statement statement s = .ok code s') :
    match statement with
    | .eval e => c.leavesValue e = .ok false ∧ c.expr e s = .ok code s' ∨
        c.leavesValue e = .ok true ∧ ∃ a s₁, c.expr e s = .ok a s₁ ∧
          code = a ++ #[⟨s₁.supply.next, .plain .pop⟩] ∧ s' = s₁.advance
    | .assign target value => ∃ a s₁ operand, c.expr value s = .ok a s₁ ∧
        c.binding.operand target = .ok operand ∧
        code = a ++ #[⟨s₁.supply.next, ⟨target.storeOpcode, operand⟩⟩] ∧ s' = s₁.advance := by
  cases statement with
  | eval e =>
    rw [LowerContext.statement, bind_eq_ok] at h
    obtain ⟨drop, _, leaves, h⟩ := h
    obtain ⟨decided, rfl⟩ := Emit.ofExcept_eq_ok.1 leaves
    obtain ⟨a, s₁, lowered, h⟩ := bind_eq_ok.1 h
    -- whether a value is left is decided before the expression is lowered
    cases drop with
    | true =>
      obtain ⟨line, _, emitted, done⟩ := bind_eq_ok.1 h
      obtain ⟨rfl, rfl⟩ := Emit.line_eq_ok.1 emitted
      obtain ⟨rfl, rfl⟩ := pure_eq_ok.1 done
      exact .inr ⟨decided, a, s₁, lowered, by simp, rfl⟩
    | false =>
      obtain ⟨rfl, rfl⟩ := pure_eq_ok.1 h
      exact .inl ⟨decided, lowered⟩
  | assign target value =>
    rw [LowerContext.statement, bind_eq_ok] at h
    obtain ⟨a, s₁, lowered, h⟩ := h
    obtain ⟨line, _, placed, done⟩ := bind_eq_ok.1 h
    obtain ⟨operand, found, rfl, rfl⟩ := onPlace_eq_ok.1 placed
    obtain ⟨rfl, rfl⟩ := pure_eq_ok.1 done
    exact ⟨a, s₁, operand, lowered, found, by simp, rfl⟩

end LowerContext

/-! ## §4 Instructions of lowered code -/

/-- The expression applies a template with the instruction, itself or somewhere inside. -/
inductive Expr.Carries (i : Instruction) : Expr → Prop where
  /-- In its own template. -/
  | here {template : Template} {arguments : List Expr} :
      i ∈ template.instructions → Carries i (.apply template arguments)
  /-- In an argument. -/
  | argument {template : Template} {arguments : List Expr} {e : Expr} :
      e ∈ arguments → Carries i e → Carries i (.apply template arguments)
  /-- In a value to convert. -/
  | value {value : Expr} {target : TypeRef} : Carries i value → Carries i (.unbox value target)

/-- Nothing in the expression updates flags. -/
inductive Expr.FlagFree : Expr → Prop where
  | load {ref : Ref} : FlagFree (.load ref)
  | address {ref : Ref} : FlagFree (.address ref)
  | unbox {value : Expr} {target : TypeRef} : FlagFree value → FlagFree (.unbox value target)
  /-- Neither the template nor an argument updates flags. -/
  | apply {template : Template} {arguments : List Expr} : template.flagsUpdate = none →
      (∀ e ∈ arguments, FlagFree e) → FlagFree (.apply template arguments)

/-- The expression that a statement evaluates. -/
def Statement.source : Statement → Expr
  | .eval e => e
  | .assign _ value => value

/-- A statement of the graph applies a template with the instruction. -/
def Graph.Carries (g : Graph) (i : Instruction) : Prop :=
  ∃ node ∈ g.nodes, ∃ statement ∈ node.block, statement.source.Carries i

/-- The instructions that lowering adds to those of templates. -/
inductive LowerContext.Adds {σ : Type} (c : LowerContext σ) : Instruction → Prop where
  | load {ref : Ref} {operand : Operand} :
      c.binding.operand ref = .ok operand → Adds c ⟨ref.loadOpcode, operand⟩
  | address {ref : Ref} {operand : Operand} :
      c.binding.operand ref = .ok operand → Adds c ⟨ref.addressOpcode, operand⟩
  | store {ref : Ref} {operand : Operand} :
      c.binding.operand ref = .ok operand → Adds c ⟨ref.storeOpcode, operand⟩
  | drop : Adds c (.plain .pop)
  | convert {target : TypeRef} {i : Instruction} :
      i ∈ c.config.converters.instructions target → Adds c i

/-- The instructions of a template that passes its check have operands of the right form. -/
theorem Template.isWellFormed_of_check {template : Template} {arguments : List Expr}
    {returnsValue : Bool} {depth : Nat} (h : template.check arguments returnsValue = .ok depth)
    {i : Instruction} (mem : i ∈ template.instructions) : i.isWellFormed = true := by
  obtain ⟨_, _, h⟩ := Fallible.bind_eq_ok.1 h
  obtain ⟨_, checked, _⟩ := Fallible.bind_eq_ok.1 h
  unfold checkOperands at checked
  split at checked
  next absent =>
    have all := List.find?_eq_none.1 absent i mem
    simpa using all
  next => cases checked

/-! ## §5 Induction on lowered code -/

variable {σ : Type}

/-- A relation between the emission before, the code and the emission after that survives the ways
    in which code is put in sequence, as long as the instructions satisfy `P`. -/
structure Sequential (P : Instruction → Prop) (R : Emission σ → Array Line → Emission σ → Prop) :
    Prop where
  nothing : ∀ s, R s #[] s
  /-- One instruction with a fresh label. -/
  line : ∀ s i, P i → R s #[⟨s.supply.next, i⟩] s.advance
  append : ∀ s a s₁ b s', R s a s₁ → R s₁ b s' → R s (a ++ b) s'

/-- The relation moreover survives what the functions that update flags make of code. -/
structure Compositional (flags : FlagsLowering σ) (P : Instruction → Prop)
    (R : Emission σ → Array Line → Emission σ → Prop) : Prop extends Sequential P R where
  /-- Code that is turned into other code. -/
  update : ∀ s given s₁ is code s', R s given s₁ → (∀ i ∈ is, P i) →
    flags.Gives given is s₁ code s' → R s code s'

variable {c : LowerContext σ} {P : Instruction → Prop}
  {R : Emission σ → Array Line → Emission σ → Prop} {s s' : Emission σ} {code : Array Line}

namespace Sequential

theorem push (h : Sequential P R) {a : Array Line} {s₁ : Emission σ} {i : Instruction}
    (before : R s a s₁) (sound : P i) : R s (a ++ #[⟨s₁.supply.next, i⟩]) s₁.advance :=
  h.append _ _ _ _ _ before (h.line s₁ i sound)

theorem lines (h : Sequential P R) {is : List Instruction} (sound : ∀ i ∈ is, P i)
    (emitted : Emit.lines is s = .ok code s') : R s code s' := by
  -- each instruction is one line more, with the label that is next by then
  refine foldlM_induction (P := fun _ code s' => R s code s') emitted (h.nothing s) ?_
  intro done i a s₁ b s₂ part before pushed
  obtain ⟨line, s₃, fresh, pushed⟩ := bind_eq_ok.1 pushed
  obtain ⟨rfl, rfl⟩ := Emit.line_eq_ok.1 fresh
  obtain ⟨rfl, rfl⟩ := pure_eq_ok.1 pushed
  simpa using h.push before (sound i (part.subset (by simp)))

/-- The code of expressions, if it holds of the code of each one. -/
theorem exprs (h : Sequential P R) {es : List Expr}
    (each : ∀ e ∈ es, ∀ s code s', c.expr e s = .ok code s' → R s code s')
    (lowered : c.exprs es s = .ok code s') : R s code s' := by
  -- the first expression is lowered from the given emission, and the others from the one it leaves
  induction es generalizing s code with
  | nil =>
    obtain ⟨rfl, rfl⟩ := LowerContext.exprs_nil_eq_ok.1 lowered
    exact h.nothing _
  | cons e es ih =>
    obtain ⟨a, s₁, b, first, rest, rfl⟩ := LowerContext.exprs_cons_eq_ok.1 lowered
    have rest := ih (fun e mem => each e (List.mem_cons_of_mem _ mem)) rest
    exact h.append _ _ _ _ _ (each e List.mem_cons_self _ _ _ first) rest

/-- The code of an expression. The functions that update flags matter only if something in the
    expression updates flags. -/
theorem expr (h : Sequential P R) (own : ∀ i, c.Adds i → P i) {e : Expr}
    (update : e.FlagFree ∨ Compositional c.flags P R)
    (sound : ∀ i, e.Carries i → i.isWellFormed = true → P i)
    (lowered : c.expr e s = .ok code s') : R s code s' := by
  -- parts are lowered one after the other, each from the emission that the one before it left
  induction e generalizing s code s' with
  | load ref =>
    rw [LowerContext.expr, LowerContext.singleton_onPlace_eq_ok] at lowered
    obtain ⟨operand, found, rfl, rfl⟩ := lowered
    exact h.line s _ (own _ (.load found))
  | address ref =>
    rw [LowerContext.expr, LowerContext.singleton_onPlace_eq_ok] at lowered
    obtain ⟨operand, found, rfl, rfl⟩ := lowered
    exact h.line s _ (own _ (.address found))
  | unbox value target ih =>
    rw [LowerContext.expr, LowerContext.append_eq_ok] at lowered
    obtain ⟨a, s₁, b, first, second, rfl⟩ := lowered
    have inner : value.FlagFree ∨ Compositional c.flags P R :=
      update.imp_left fun | .unbox free => free
    refine h.append _ _ _ _ _ (ih inner (fun i inside => sound i (.value inside)) first) ?_
    exact h.lines (fun i mem => own i (.convert mem)) second
  | apply template arguments ih =>
    obtain ⟨depth, given, s₁, passed, lowered, rest⟩ := LowerContext.expr_apply_eq_ok lowered
    -- instructions of a template are sound because the check looks at their operands
    have operator : ∀ i ∈ template.instructions, P i := fun i mem =>
      sound i (.here mem) (template.isWellFormed_of_check passed mem)
    have inner : ∀ e ∈ arguments, e.FlagFree ∨ Compositional c.flags P R :=
      fun e mem => update.imp_left fun | .apply _ free => free e mem
    have before : R s given s₁ := h.exprs (fun e mem s code s' =>
      ih e mem (inner e mem) fun i inside => sound i (.argument mem inside)) lowered
    rcases rest with ⟨own, emitted, rfl⟩ | ⟨updates, given⟩
    · exact h.append _ _ _ _ _ before (h.lines operator emitted)
    -- without updates of flags the function is never called
    · rcases update with free | update
      · cases free with
        | apply noUpdate => exact absurd noUpdate updates
      · exact update.update _ _ _ _ _ _ before operator given

end Sequential

/-- The code of a block is the anchor of its node, and the code of its statements. -/
theorem LowerContext.block_of_statements (nothing : ∀ s, R s #[] s)
    (append : ∀ s a s₁ b s', R s a s₁ → R s₁ b s' → R s (a ++ b) s') {anchor : Label}
    {statements : Block}
    (each : ∀ statement ∈ statements, ∀ s code s', c.statement statement s = .ok code s' →
      R s code s') (lowered : c.block anchor statements s = .ok code s') :
    ∃ rest, code = #[⟨anchor, .anchor⟩] ++ rest ∧ R s rest s' := by
  -- the anchor stays in front, and each statement adds to the code behind it
  refine foldlM_induction (P := fun _ code s' => ∃ rest, code = #[⟨anchor, .anchor⟩] ++ rest ∧
    R s rest s') lowered ⟨#[], rfl, nothing s⟩ ?_
  rintro done next _ s₁ code s₂ part ⟨rest, rfl, before⟩ step
  obtain ⟨a, s₃, lowered, appended⟩ := bind_eq_ok.1 step
  obtain ⟨rfl, rfl⟩ := pure_eq_ok.1 appended
  refine ⟨rest ++ a, Array.append_assoc, ?_⟩
  exact append _ _ _ _ _ before (each next (part.subset (by simp)) _ _ _ lowered)

namespace Compositional

theorem expr (h : Compositional c.flags P R) (own : ∀ i, c.Adds i → P i) {e : Expr}
    (sound : ∀ i, e.Carries i → i.isWellFormed = true → P i)
    (lowered : c.expr e s = .ok code s') : R s code s' :=
  h.toSequential.expr own (.inr h) sound lowered

theorem statement (h : Compositional c.flags P R) (own : ∀ i, c.Adds i → P i)
    {statement : Statement} (sound : ∀ i, statement.source.Carries i → i.isWellFormed = true → P i)
    (lowered : c.statement statement s = .ok code s') : R s code s' := by
  have steps := LowerContext.statement_eq_ok lowered
  cases statement with
  | eval e =>
    rcases steps with ⟨_, value⟩ | ⟨_, a, s₁, value, rfl, rfl⟩
    · exact h.expr own sound value
    · exact h.push (h.expr own sound value) (own _ .drop)
  | assign target value =>
    obtain ⟨a, s₁, operand, value, found, rfl, rfl⟩ := steps
    exact h.push (h.expr own sound value) (own _ (.store found))

theorem block (h : Compositional c.flags P R) (own : ∀ i, c.Adds i → P i) {anchor : Label}
    {statements : Block} (sound : ∀ statement ∈ statements, ∀ i, statement.source.Carries i →
      i.isWellFormed = true → P i) (lowered : c.block anchor statements s = .ok code s') :
    ∃ rest, code = #[⟨anchor, .anchor⟩] ++ rest ∧ R s rest s' :=
  LowerContext.block_of_statements h.nothing h.append
    (fun statement mem _ _ _ => h.statement own (sound statement mem)) lowered

end Compositional

end Devirt
