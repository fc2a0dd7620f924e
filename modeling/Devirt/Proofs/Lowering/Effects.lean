import Devirt.Proofs.Lowering.Emission
import Devirt.Proofs.StackDepth.Reachability

/-!
# Stack Effect of Lowered Expressions

The check of a template runs its instructions on a stack that holds nothing but the values of the
arguments. In lowered code the same instructions run above whatever is on the stack at that time,
and behind the code of the arguments. The two runs agree as long as no instruction empties the
stack: then a run does not see what is below the values that it was given.

Main statements:
- `RunsAbove.of_runDepth`, `runDepth_add`: a run above other values.
- `runDepth_eq_error_iff`: where a run fails.
- `Converters.convert_importFrom`: imported conversions turn one value into one value.
- `LowerContext.runDepth_expr`: the code of an expression leaves what its check says.
-/

namespace Devirt

open Stateful

variable {returnsValue : Bool}

/-! ## §1 Runs of instructions -/

theorem runDepth_cons_eq_ok {i : Instruction} {is : List Instruction} {depth stop : Nat} :
    runDepth returnsValue (i :: is) depth = .ok stop ↔
      ∃ after, i.depthBehind? returnsValue depth = some after ∧
        runDepth returnsValue is after = .ok stop := by
  rw [runDepth, Instruction.depthBehind?]
  cases (i.stackUse returnsValue).takes.remaining? depth <;> simp

/-- Instructions behind others start with the depth that those leave. -/
theorem runDepth_append (is js : List Instruction) (depth : Nat) :
    runDepth returnsValue (is ++ js) depth =
      runDepth returnsValue is depth >>= runDepth returnsValue js := by
  induction is generalizing depth with
  | nil => rfl
  | cons i is ih =>
    rw [List.cons_append, runDepth, runDepth]
    cases (i.stackUse returnsValue).takes.remaining? depth with
    | none => rfl
    | some left => exact ih _

theorem runDepth_append_eq_ok {is js : List Instruction} {depth stop : Nat} :
    runDepth returnsValue (is ++ js) depth = .ok stop ↔
      ∃ between, runDepth returnsValue is depth = .ok between ∧
        runDepth returnsValue js between = .ok stop := by
  rw [runDepth_append, Fallible.bind_eq_ok]

/-- The instruction leaves alone what is below the values that it takes. -/
def Instruction.KeepsBelow (i : Instruction) : Prop :=
  i.opcode.pops ≠ .everything

instance (i : Instruction) : Decidable i.KeepsBelow :=
  inferInstanceAs (Decidable (i.opcode.pops ≠ .everything))

/-- Number of values that a demand asks for, unless it is for all that are there. -/
def Demand.count : Demand → Nat
  | .slots count => count
  | .everything => 0

/-- Number of values that an instruction takes, unless it empties the stack. -/
def Instruction.taken (i : Instruction) (returnsValue : Bool) : Nat :=
  (i.stackUse returnsValue).takes.count

theorem Instruction.KeepsBelow.takes_eq {i : Instruction} (keeps : i.KeepsBelow) :
    (i.stackUse returnsValue).takes = .slots (i.taken returnsValue) := by
  unfold KeepsBelow at keeps
  unfold taken stackUse
  -- a number of values is asked for in all cases but the one excluded
  cases pops : i.opcode.pops with
  | exactly count => rfl
  | bySignature => rfl
  | everything => exact absurd pops keeps

theorem Demand.remaining?_slots_add (count below : Nat) :
    (Demand.slots count).remaining? (below + count) = some below := by
  simp [remaining?]

/-- What is below the values that an instruction takes stays there. -/
theorem Instruction.remaining?_add {i : Instruction} (keeps : i.KeepsBelow) {depth left : Nat}
    (h : (i.stackUse returnsValue).takes.remaining? depth = some left) (below : Nat) :
    (i.stackUse returnsValue).takes.remaining? (below + depth) = some (below + left) := by
  simp only [keeps.takes_eq, Demand.remaining?, Option.ite_none_right_eq_some,
    Option.some.injEq] at h ⊢
  omega

/-- The instructions run one after the other from a depth to another one, and none of them takes any
    of the lowest `floor` values. -/
inductive RunsAbove (returnsValue : Bool) (floor : Nat) : Nat → List Instruction → Nat → Prop where
  | nil {depth : Nat} : floor ≤ depth → RunsAbove returnsValue floor depth [] depth
  /-- The depth is smallest when values have been taken and none has been left yet. -/
  | cons {i : Instruction} {is : List Instruction} {depth left stop : Nat} :
      (i.stackUse returnsValue).takes.remaining? depth = some left → floor ≤ left →
      RunsAbove returnsValue floor (left + (i.stackUse returnsValue).leaves) is stop →
      RunsAbove returnsValue floor depth (i :: is) stop

theorem RunsAbove.runDepth_eq {floor depth stop : Nat} {is : List Instruction}
    (h : RunsAbove returnsValue floor depth is stop) :
    runDepth returnsValue is depth = .ok stop := by
  induction h with
  | nil => rfl
  | cons takes _ _ ih =>
    rw [runDepth, takes]
    exact ih

/-- A run does not touch what is below the values that it was given. -/
theorem RunsAbove.of_runDepth {is : List Instruction} (keep : ∀ i ∈ is, i.KeepsBelow)
    {depth stop : Nat} (h : runDepth returnsValue is depth = .ok stop) (below : Nat) :
    RunsAbove returnsValue below (below + depth) is (below + stop) := by
  -- an instruction that takes its values from the top alone has the same effect on a higher stack
  induction is generalizing depth with
  | nil =>
    obtain rfl := Except.ok.inj h
    exact .nil (Nat.le_add_right _ _)
  | cons i is ih =>
    obtain ⟨after, here, rest⟩ := runDepth_cons_eq_ok.1 h
    obtain ⟨left, enough, rfl⟩ := Option.map_eq_some_iff.1 here
    have behind := ih (fun j mem => keep j (List.mem_cons_of_mem i mem)) rest
    rw [← Nat.add_assoc] at behind
    exact .cons (Instruction.remaining?_add (keep i List.mem_cons_self) enough below)
      (Nat.le_add_right _ _) behind

/-- A run does not see what is below the values that it was given. -/
theorem runDepth_add {is : List Instruction} (keep : ∀ i ∈ is, i.KeepsBelow) {depth stop : Nat}
    (h : runDepth returnsValue is depth = .ok stop) (below : Nat) :
    runDepth returnsValue is (below + depth) = .ok (below + stop) :=
  (RunsAbove.of_runDepth keep h below).runDepth_eq

/-- The instruction takes more values than there are, while all instructions before it find enough.
    The depth is the number of values that it finds. -/
def Underflows (returnsValue : Bool) (start : Nat) (is : List Instruction) (i : Instruction)
    (depth : Nat) : Prop :=
  ∃ before after, is = before ++ i :: after ∧ runDepth returnsValue before start = .ok depth ∧
    (i.stackUse returnsValue).takes.remaining? depth = none

/-- A run fails at the first instruction that does not find enough values. -/
theorem runDepth_eq_error_iff {is : List Instruction} {start depth : Nat} {i : Instruction} :
    runDepth returnsValue is start = .error (i, depth) ↔
      Underflows returnsValue start is i depth := by
  constructor
  · intro failed
    -- up to the first instruction that lacks values the depth is that of the run before it
    induction is generalizing start with
    | nil => cases failed
    | cons j is ih =>
      rw [runDepth] at failed
      cases enough : (j.stackUse returnsValue).takes.remaining? start with
      | none =>
        rw [enough] at failed
        obtain ⟨rfl, rfl⟩ := Prod.mk.inj (Except.error.inj failed)
        exact ⟨[], is, rfl, rfl, enough⟩
      | some left =>
        rw [enough] at failed
        obtain ⟨before, after, rfl, run, lacks⟩ := ih failed
        refine ⟨j :: before, after, rfl, ?_, lacks⟩
        rw [runDepth, enough]
        exact run
  · rintro ⟨before, after, rfl, run, lacks⟩
    rw [runDepth_append, run, Fallible.ok_bind, runDepth, lacks]

theorem Template.checkBalance_eq_ok {t : Template} {arguments : List Expr} {depth : Nat} :
    t.checkBalance arguments returnsValue = .ok depth ↔
      runDepth returnsValue t.instructions arguments.length = .ok depth := by
  unfold checkBalance
  cases runDepth returnsValue t.instructions arguments.length <;> simp

/-! ## §2 Conversions -/

/-- The signatures say that the first method converts a value, the second one a value along with the
    description of a type, and the third one makes such a description from a handle. -/
structure Converters.Convert (c : Converters) : Prop where
  toObject : c.toObject.signature.argumentCount = 1 ∧ c.toObject.signature.resultCount = 1
  toType : c.toType.signature.argumentCount = 2 ∧ c.toType.signature.resultCount = 1
  typeFromHandle :
    c.typeFromHandle.signature.argumentCount = 1 ∧ c.typeFromHandle.signature.resultCount = 1

/-- Equal signatures take and leave equal numbers of values. -/
theorem Signature.counts_eq_of_beq {s s' : Signature} (same : (s == s') = true) :
    s.argumentCount = s'.argumentCount ∧ s.resultCount = s'.resultCount := by
  have parts : ((s.hasThis == s'.hasThis) && (s.parameters == s'.parameters) &&
    (s.returnType == s'.returnType)) = true := same
  simp only [Bool.and_eq_true, beq_iff_eq] at parts
  obtain ⟨⟨this, parameters⟩, returns⟩ := parts
  refine ⟨?_, ?_⟩
  · rw [argumentCount, argumentCount, List.length_eq_of_beq parameters, this]
  -- only whether there is a result counts, not its type
  · unfold resultCount
    cases returnType : s.returnType <;> cases returnType' : s'.returnType <;>
      rw [returnType, returnType'] at returns <;> first | rfl | cases returns

/-- A method that is imported has the signature that was asked for, or an equal one. -/
theorem Catalog.counts_of_importMethod {declaringType : TypeRef} {name : String}
    {signature : Signature} {catalog after : Catalog} {m : MethodRef}
    (h : importMethod declaringType name signature catalog = (m, after)) :
    m.signature.argumentCount = signature.argumentCount ∧
      m.signature.resultCount = signature.resultCount := by
  unfold importMethod at h
  split at h
  next known found =>
    cases h
    -- the method that is found has been compared by its signature
    have same := Array.find?_some found
    simp only [Bool.and_eq_true] at same
    exact Signature.counts_eq_of_beq same.2
  next =>
    cases h
    exact ⟨rfl, rfl⟩

/-- Imported conversions have the right signatures, whatever was imported before. -/
theorem Converters.convert_importFrom (helperType : String) (catalog : Catalog) :
    (importFrom helperType catalog).1.Convert := by
  unfold importFrom
  dsimp only [bind, StateT.bind, pure, StateT.pure]
  obtain ⟨helper, known⟩ := Catalog.importType helperType false catalog
  dsimp only
  -- all three methods are imported, each into what the catalogue is by then
  split
  next toObject _ first =>
    split
    next toType _ second =>
      split
      next typeFromHandle _ third =>
        exact ⟨Catalog.counts_of_importMethod first, Catalog.counts_of_importMethod second,
          Catalog.counts_of_importMethod third⟩

/-- A call takes its arguments and leaves its result. -/
theorem Instruction.depthBehind?_call (m : MethodRef) (below : Nat) :
    (call m).depthBehind? returnsValue (below + m.signature.argumentCount) =
      some (below + m.signature.resultCount) := by
  have takes : ((call m).stackUse returnsValue).takes = .slots m.signature.argumentCount := rfl
  have leaves : ((call m).stackUse returnsValue).leaves = m.signature.resultCount := rfl
  rw [depthBehind?, takes, leaves, Demand.remaining?_slots_add, Option.map_some]

/-- The instructions of a conversion turn one value into one value. -/
theorem Converters.runDepth_instructions {c : Converters} (convert : c.Convert) (target : TypeRef)
    (below : Nat) :
    runDepth returnsValue (c.instructions target) (below + 1) = .ok (below + 1) := by
  have calls : ∀ m below, (Instruction.call m).depthBehind? returnsValue
      (below + m.signature.argumentCount) = some (below + m.signature.resultCount) :=
    Instruction.depthBehind?_call
  unfold instructions
  split
  next =>
    have toObject := calls c.toObject below
    rw [convert.toObject.1, convert.toObject.2] at toObject
    exact runDepth_cons_eq_ok.2 ⟨_, toObject, rfl⟩
  -- the description of the type is made above the value that is converted
  next =>
    have token : (⟨.ldtoken, .member (.type target)⟩ : Instruction).depthBehind? returnsValue
        (below + 1) = some (below + 2) := rfl
    have handle := calls c.typeFromHandle (below + 1)
    rw [convert.typeFromHandle.1, convert.typeFromHandle.2] at handle
    have toType := calls c.toType below
    rw [convert.toType.1, convert.toType.2] at toType
    exact runDepth_cons_eq_ok.2 ⟨_, token, runDepth_cons_eq_ok.2 ⟨_, handle,
      runDepth_cons_eq_ok.2 ⟨_, toType, rfl⟩⟩⟩

/-! ## §3 Expressions -/

/-- The check of an expression says that it leaves so many values, and all expressions inside leave
    one value each. Nothing updates flags or empties the stack. -/
inductive Expr.Leaves (returnsValue : Bool) : Expr → Nat → Prop where
  | load {ref : Ref} : Leaves returnsValue (.load ref) 1
  | address {ref : Ref} : Leaves returnsValue (.address ref) 1
  | unbox {value : Expr} {target : TypeRef} : Leaves returnsValue value 1 →
      Leaves returnsValue (.unbox value target) 1
  | apply {template : Template} {arguments : List Expr} {count : Nat} :
      template.flagsUpdate = none → (∀ i ∈ template.instructions, i.KeepsBelow) →
      template.checkBalance arguments returnsValue = .ok count →
      (∀ e ∈ arguments, Leaves returnsValue e 1) →
      Leaves returnsValue (.apply template arguments) count

namespace LowerContext

variable {σ : Type} {c : LowerContext σ} {s s' : Emission σ} {code : Array Line}

/-- The instructions of a piece of code, in order. -/
def instructionsOf (code : Array Line) : List Instruction :=
  code.toList.map Line.instruction

/-- Lines are emitted for exactly the given instructions. -/
theorem instructionsOf_lines {is : List Instruction} (h : Emit.lines is s = .ok code s') :
    instructionsOf code = is := by
  refine foldlM_induction (P := fun done code _ => instructionsOf code = done) h rfl ?_
  rintro done i _ s₁ code s₂ _ rfl pushed
  obtain ⟨line, s₃, fresh, pushed⟩ := bind_eq_ok.1 pushed
  obtain ⟨rfl, rfl⟩ := Emit.line_eq_ok.1 fresh
  obtain ⟨rfl, rfl⟩ := pure_eq_ok.1 pushed
  simp [instructionsOf]

theorem instructionsOf_append (a b : Array Line) :
    instructionsOf (a ++ b) = instructionsOf a ++ instructionsOf b := by
  simp [instructionsOf]

/-- The code of expressions that leave one value each leaves as many values as there are
    expressions. -/
theorem runDepth_exprs {es : List Expr}
    (each : ∀ e ∈ es, ∀ s code s', c.expr e s = .ok code s' → ∀ below,
      runDepth c.returnsValue (instructionsOf code) below = .ok (below + 1))
    (lowered : c.exprs es s = .ok code s') (below : Nat) :
    runDepth c.returnsValue (instructionsOf code) below = .ok (below + es.length) := by
  induction es generalizing s code below with
  | nil =>
    obtain ⟨rfl, rfl⟩ := exprs_nil_eq_ok.1 lowered
    rfl
  | cons e es ih =>
    obtain ⟨a, s₁, b, first, rest, rfl⟩ := exprs_cons_eq_ok.1 lowered
    -- the value of the first expression stays below the others
    have one := each e List.mem_cons_self _ _ _ first below
    have others := ih (fun e mem => each e (List.mem_cons_of_mem _ mem)) rest (below + 1)
    rw [instructionsOf_append, runDepth_append_eq_ok]
    refine ⟨below + 1, one, ?_⟩
    rw [others, List.length_cons, Nat.add_assoc, Nat.add_comm 1]

/-- The code of an expression leaves as many values as its check says, whatever is below them. -/
theorem runDepth_expr (convert : c.config.converters.Convert) {e : Expr} {count : Nat}
    (leaves : e.Leaves c.returnsValue count) (lowered : c.expr e s = .ok code s') (below : Nat) :
    runDepth c.returnsValue (instructionsOf code) below = .ok (below + count) := by
  -- the check of each form is met by its code, with the depth below as a parameter
  induction leaves generalizing s code s' below with
  | @load ref =>
    rw [expr, singleton_onPlace_eq_ok] at lowered
    obtain ⟨operand, found, rfl, rfl⟩ := lowered
    cases ref <;> rfl
  | @address ref =>
    rw [expr, singleton_onPlace_eq_ok] at lowered
    obtain ⟨operand, found, rfl, rfl⟩ := lowered
    cases ref <;> rfl
  | @unbox value target _ ih =>
    rw [expr, append_eq_ok] at lowered
    obtain ⟨a, s₁, b, first, second, rfl⟩ := lowered
    rw [instructionsOf_append, runDepth_append_eq_ok, instructionsOf_lines second]
    exact ⟨below + 1, ih first below, Converters.runDepth_instructions convert target below⟩
  | @apply template arguments count noUpdate keep balance _ ih =>
    obtain ⟨depth, given, s₁, _, evaluated, rest⟩ := expr_apply_eq_ok lowered
    rcases rest with ⟨own, emitted, rfl⟩ | ⟨updates, _⟩
    · rw [instructionsOf_append, runDepth_append_eq_ok, instructionsOf_lines emitted]
      have arguments := runDepth_exprs (fun e mem s code s' => ih e mem) evaluated below
      -- the template runs above the values of the arguments and what is below them
      exact ⟨_, arguments, runDepth_add keep (Template.checkBalance_eq_ok.1 balance) below⟩
    · exact absurd noUpdate updates

end LowerContext

end Devirt
