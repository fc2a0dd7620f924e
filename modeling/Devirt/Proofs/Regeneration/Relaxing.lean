import Devirt.Proofs.Regeneration.Success
import Devirt.Proofs.StackDepth.Widening

/-!
# Relaxation is Invisible

Whether branches are relaxed makes no difference to anything but the branches themselves. Lowering
does not look at the setting. Regions are resolved by label: the offsets that are searched change,
but the line that follows another one does not. The stack bound does not see the form of a branch.

Main statements:
- `LowerContext.listing_relaxing`: lowering is the same with and without relaxation.
- `RegionContext.handlers_relaxing`: so are the handlers.
- `Config.regenerate_relaxing`: a regeneration with relaxation does what it does without.
-/

namespace Devirt

variable {σ : Type}

/-- The settings with relaxation or without. -/
def Config.relaxing (config : Config) (relaxes : Bool) : Config :=
  { config with relaxBranches := relaxes }

/-! ## §1 Lowering -/

namespace LowerContext

/-- The same context for settings with relaxation or without. -/
def relaxing (c : LowerContext σ) (relaxes : Bool) : LowerContext σ :=
  { c with config := c.config.relaxing relaxes }

variable (c : LowerContext σ) (relaxes : Bool)

theorem exprs_relaxing {es : List Expr} (each : ∀ e ∈ es, (c.relaxing relaxes).expr e = c.expr e) :
    (c.relaxing relaxes).exprs es = c.exprs es := by
  induction es with
  | nil => rw [exprs, exprs]
  | cons e es ih =>
    have others := ih fun e mem => each e (List.mem_cons_of_mem _ mem)
    rw [exprs, exprs, each e List.mem_cons_self, others]

/-- The code of an expression does not depend on relaxation. -/
theorem expr_relaxing (e : Expr) : (c.relaxing relaxes).expr e = c.expr e := by
  -- converters and constants of the machine are the same in both settings
  induction e with
  | load ref | address ref =>
    rw [expr, expr]
    rfl
  | unbox value target ih =>
    rw [expr, expr, ih]
    rfl
  | apply template arguments ih =>
    rw [expr, expr, exprs_relaxing c relaxes ih]
    cases template.flagsUpdate with
    | none => rfl
    | some update =>
      -- one argument, two arguments, or a fault
      rcases arguments with _ | ⟨left, _ | ⟨right, _ | _⟩⟩
      · rfl
      · simp only [ih left (by simp)]
        rfl
      · simp only [ih left (by simp), ih right (by simp)]
        rfl
      · rfl

theorem statement_relaxing (statement : Statement) :
    (c.relaxing relaxes).statement statement = c.statement statement := by
  cases statement with
  | eval e =>
    simp only [LowerContext.statement, expr_relaxing]
    rfl
  | assign target value =>
    simp only [LowerContext.statement, expr_relaxing]
    rfl

/-- The listing of a graph does not depend on relaxation. -/
theorem listing_relaxing (g : Graph) : (c.relaxing relaxes).listing g = c.listing g := by
  have block : (c.relaxing relaxes).block = c.block := by
    funext anchor statements
    simp only [LowerContext.block, statement_relaxing]
  have append : (c.relaxing relaxes).appendNode = c.appendNode := by
    funext l node
    simp only [appendNode, block]
  rw [listing, listing, append]

end LowerContext

/-! ## §2 Regions -/

/-- The handlers of regions do not depend on relaxation, if the lines keep their labels. -/
theorem RegionContext.handlers_relaxing (config : Config) (graph : Graph)
    (stretches : Array Stretch) {b b' : Body} (wide : Widening b.lines b'.lines) (relaxes : Bool) :
    RegionContext.handlers ⟨graph, stretches, b', config.relaxing relaxes⟩ =
      RegionContext.handlers ⟨graph, stretches, b, config⟩ := by
  -- only the search for the following line sees the body
  have follows : b'.following? = b.following? := Body.following?_congr_labels wide.map_label
  have spans : RegionContext.span ⟨graph, stretches, b', config.relaxing relaxes⟩ =
      RegionContext.span ⟨graph, stretches, b, config⟩ := by
    funext region part nodes
    simp only [span, follows]
    rfl
  have each : RegionContext.handler ⟨graph, stretches, b', config.relaxing relaxes⟩ =
      RegionContext.handler ⟨graph, stretches, b, config⟩ := by
    funext index region
    simp only [handler, spans]
    rfl
  rw [handlers, handlers, each]

/-! ## §3 Completion -/

namespace Config

/-- Bodies whose lines differ in the form of branches get the same bound, or the same fault. -/
theorem boundBody_relaxing (config : Config) (b b' : Body) (wide : Widening b.lines b'.lines)
    (handlers : b.handlers = b'.handlers) (maxStack : b.maxStack = b'.maxStack)
    (returnsValue relaxes relaxes' : Bool) :
    (∃ e, (config.relaxing relaxes).boundBody returnsValue b = .error e ∧
      (config.relaxing relaxes').boundBody returnsValue b' = .error e) ∨
    ∃ bound, (config.relaxing relaxes).boundBody returnsValue b = .ok { b with maxStack := bound } ∧
      (config.relaxing relaxes').boundBody returnsValue b' = .ok { b' with maxStack := bound } := by
  unfold boundBody relaxing
  rw [Body.stackDepth_of_widening wide handlers]
  -- whether the stack is bounded does not depend on relaxation
  cases config.boundStack with
  | false => exact .inr ⟨b.maxStack, rfl, by rw [maxStack]; rfl⟩
  | true =>
    cases b'.stackDepth returnsValue with
    | error e => exact .inl ⟨.body e, rfl, rfl⟩
    | ok bound => exact .inr ⟨bound, rfl, rfl⟩

/-- With and without relaxation, a body is completed with the same fault, or with the same handlers
    and the same bound and with lines that differ in the form of branches. -/
theorem complete_relaxing (config : Config) (returnsValue : Bool) (graph : Graph) (l : Listing) :
    (∃ e, (config.relaxing false).complete returnsValue graph l = .error e ∧
      (config.relaxing true).complete returnsValue graph l = .error e) ∨
    ∃ b b', (config.relaxing false).complete returnsValue graph l = .ok b ∧
      (config.relaxing true).complete returnsValue graph l = .ok b' ∧
      Widening b.lines b'.lines ∧ b'.handlers = b.handlers ∧ b'.maxStack = b.maxStack := by
  have wide : Widening (Body.ofLines l.lines).lines (Body.ofLines (relax l.lines).1).lines := by
    rw [Body.lines_ofLines, Body.lines_ofLines]
    exact widening_relax l.lines
  have same : RegionContext.handlers ⟨graph, l.stretches, .ofLines (relax l.lines).1,
        config.relaxing true⟩ =
      RegionContext.handlers ⟨graph, l.stretches, .ofLines l.lines, config.relaxing false⟩ :=
    RegionContext.handlers_relaxing _ graph l.stretches wide true
  -- the regions are resolved first, and the stack is bounded with the handlers they give
  cases resolved : RegionContext.handlers ⟨graph, l.stretches, .ofLines l.lines,
      config.relaxing false⟩ with
  | error e =>
    rw [resolved] at same
    exact .inl ⟨e, Fallible.bind_eq_error.2 (.inl resolved), Fallible.bind_eq_error.2 (.inl same)⟩
  | ok handlers =>
    rw [resolved] at same
    have bounds := boundBody_relaxing config { Body.ofLines l.lines with handlers := handlers }
      { Body.ofLines (relax l.lines).1 with handlers := handlers } wide rfl rfl returnsValue
      false true
    rcases bounds with ⟨e, failed, failed'⟩ | ⟨bound, bounded, bounded'⟩
    · exact .inl ⟨e, Fallible.bind_eq_error.2 (.inr ⟨handlers, resolved, failed⟩),
        Fallible.bind_eq_error.2 (.inr ⟨handlers, same, failed'⟩)⟩
    · exact .inr ⟨_, _, Fallible.bind_eq_ok.2 ⟨handlers, resolved, bounded⟩,
        Fallible.bind_eq_ok.2 ⟨handlers, same, bounded'⟩, wide, rfl, rfl⟩

end Config

/-! ## §4 Regeneration -/

/-- The second body is the first one with some of its short branches in their long forms. All else
    is the same. -/
structure Regenerated.WidensTo (g g' : Regenerated) : Prop where
  widening : Widening g.body.lines g'.body.lines
  labels : g'.body.lines.map Line.label = g.body.lines.map Line.label
  operands : g'.body.lines.map (·.instruction.operand) = g.body.lines.map (·.instruction.operand)
  handlers : g'.body.handlers = g.body.handlers
  maxStack : g'.body.maxStack = g.body.maxStack
  stretches : g'.stretches = g.stretches
  binding : g'.binding = g.binding

/-- Two attempts at a body have the same fault, or the second body is the first one with some of its
    short branches in their long forms. -/
inductive SameButBranches : Except LowerError Regenerated → Except LowerError Regenerated → Prop
    where
  | failed {e : LowerError} : SameButBranches (.error e) (.error e)
  | finished {g g' : Regenerated} : g.WidensTo g' → SameButBranches (.ok g) (.ok g')

/-- With and without relaxation, a regeneration leaves the same method and the same state of the
    functions that update flags. It has the same fault, or its bodies differ in the form of branches
    only. -/
theorem Config.regenerate_relaxing (config : Config) (flags : FlagsLowering σ) (r : Routine)
    (m : Method) (state : σ) :
    let short := (config.relaxing false).regenerate flags r m state
    let relaxed := (config.relaxing true).regenerate flags r m state
    relaxed.method = short.method ∧ relaxed.state = short.state ∧
      SameButBranches short.result relaxed.result := by
  intro short relaxed
  simp only [short, relaxed, regenerate]
  -- both attempts bind and lower in the same way, and fail there or complete what they have
  cases r.bind m with
  | error e bound => exact ⟨rfl, rfl, .failed⟩
  | ok binding bound =>
    have lowers : (⟨config.relaxing true, binding, bound.returnsValue, flags⟩ :
          LowerContext σ).listing r.graph =
        (⟨config.relaxing false, binding, bound.returnsValue, flags⟩ : LowerContext σ).listing
          r.graph :=
      LowerContext.listing_relaxing ⟨config.relaxing false, _, _, _⟩ true r.graph
    simp only [lowers]
    cases LowerContext.listing ⟨config.relaxing false, binding, bound.returnsValue, flags⟩ r.graph
        ⟨r.graph.supply, state⟩ with
    | error e emission => exact ⟨rfl, rfl, .failed⟩
    | ok l emission =>
      rcases complete_relaxing config bound.returnsValue r.graph l with
        ⟨e, failed, failed'⟩ | ⟨b, b', completed, completed', wide, handlers, maxStack⟩
      · simp only [failed, failed']
        exact ⟨trivial, trivial, .failed⟩
      · simp only [completed, completed']
        exact ⟨trivial, trivial, .finished ⟨wide, wide.map_label, wide.map_operand, handlers,
          maxStack, rfl, rfl⟩⟩

end Devirt
