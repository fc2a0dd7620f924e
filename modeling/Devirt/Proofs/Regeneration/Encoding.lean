import Devirt.Proofs.Body.EncodingFaults
import Devirt.Proofs.Lowering.IgnoringFlags
import Devirt.Proofs.Regeneration.Success

/-!
# Finished Bodies can be Encoded

Three of the faults of encoding do not occur in a finished body of moderate size. Operands have the
right form, since templates are checked before they are used. Short branches reach their targets,
since relaxation computes with the offsets of the layout. Long branches reach everything, since the
code is shorter than their reach. What is left are targets that the templates made up, and variables
whose number is too large for a short opcode.

Main statement: `Config.encode_regenerate`.
-/

namespace Devirt

open Numeric (fitsSigned)

/-! ## §1 Displacements -/

theorem fitsSigned_one_iff {n : Int} : fitsSigned 1 n = true ↔ -128 ≤ n ∧ n ≤ 127 := by
  simp [fitsSigned, Numeric.fieldCapacity]
  omega

theorem fitsSigned_four_iff {n : Int} :
    fitsSigned 4 n = true ↔ -0x80000000 ≤ n ∧ n ≤ 0x7fffffff := by
  simp [fitsSigned, Numeric.fieldCapacity]
  omega

/-- The operand of a short branch is a target. -/
theorem Instruction.exists_target {i : Instruction} (sound : i.isWellFormed = true)
    (short : i.opcode.operandKind = .shortBranch) : ∃ label, i.operand = .target label := by
  unfold isWellFormed at sound
  rw [short] at sound
  -- every other form of operand would have been refused
  cases operand : i.operand <;> rw [operand] at sound
  case target label => exact ⟨label, rfl⟩
  all_goals cases sound

/-- In code of moderate size, with its short branches in reach, all displacements fit. -/
theorem Body.fitsSigned_displacement {b : Body} (inReach : InReach b.lines)
    (size : b.codeSize ≤ 0x7fffffff) {i : Nat} {line : Line} (here : b.lines[i]? = some line)
    (sound : line.instruction.isWellFormed = true) {target : Label} {offset : Nat}
    (mem : target ∈ line.instruction.operand.targets) (found : b.offset? target = some offset) :
    fitsSigned line.instruction.opcode.operandKind.displacementWidth
      (Layout.displacement (totalWidth (b.lines.take (i + 1))) offset) = true := by
  rw [offset?_eq, Option.map_eq_some_iff] at found
  obtain ⟨j, position, rfl⟩ := found
  obtain ⟨line', there, rfl⟩ := getElem?_lines_of_position? position
  -- short branches are in reach, and no distance inside the code exceeds four bytes
  by_cases short : line.instruction.opcode.operandKind = .shortBranch
  · obtain ⟨label, operand⟩ := Instruction.exists_target sound short
    rw [operand] at mem
    obtain rfl := List.mem_singleton.1 mem
    rw [short]
    exact fitsSigned_one_iff.2 (inReach i j line line' here (beq_iff_eq.2 short) operand there)
  · have width : line.instruction.opcode.operandKind.displacementWidth = 4 := by
      unfold OperandKind.displacementWidth
      split
      next kind => exact absurd kind short
      next => rfl
    have before := totalWidth_take_le b.lines (i + 1)
    have after := totalWidth_take_le b.lines j
    rw [codeSize_eq] at size
    rw [width, fitsSigned_four_iff, Layout.displacement]
    omega

/-! ## §2 Encoding -/

variable {σ τ : Type} {config : Config} {flags : FlagsLowering σ} {r : Routine} {m : Method}
  {state : σ} {g : Regenerated}

/-- A finished body of moderate size that was relaxed can be encoded, whatever the tokens of its
    strings, unless an instruction refers to a line that is not there, or has a number too large
    for its field. If templates and the functions that update flags branch to nodes only, the
    second is the only reason. -/
theorem Config.encode_regenerate (relaxes : config.relaxBranches = true)
    (draws : flags.DrawsLabels) (sound : flags.Preserves (·.isWellFormed = true))
    (regenerated : (config.regenerate flags r m state).result = .ok g)
    (size : g.body.codeSize ≤ 0x7fffffff) {tokenOf : String → StateM τ UInt32} {t t' : τ}
    {e : BodyError} (failed : g.body.encode tokenOf t = .error e t') :
    ((∃ line ∈ g.body.lines, ∃ target ∈ line.instruction.operand.targets,
        g.body.position? target = none ∧ e = .unknownLine target) ∨
      ∃ line ∈ g.body.lines, line.instruction.HasLargeSlot ∧
        e = .operandOutOfRange line.label line.instruction.opcode) ∧
    (flags.Preserves r.graph.LeadsToNodes → (∀ i, r.graph.Carries i → r.graph.LeadsToNodes i) →
      ∃ line ∈ g.body.lines, line.instruction.HasLargeSlot ∧
        e = .operandOutOfRange line.label line.instruction.opcode) := by
  rcases Body.encode_eq_error failed with long | ⟨i, line, here, fault⟩
  · omega
  have mem := List.mem_of_getElem? here
  have form := isWellFormed_regenerate sound regenerated line mem
  -- only two of the four faults of a line can occur
  cases fault with
  | unknown inside absent =>
    refine ⟨.inl ⟨line, mem, _, inside, absent, rfl⟩, fun nodes templates => ?_⟩
    -- a target among the nodes is an anchor, and anchors are lines
    obtain ⟨node, known, rfl⟩ :=
      leadsToNodes_regenerate nodes templates regenerated line mem _ inside
    obtain ⟨position, found⟩ := exists_anchor_regenerate regenerated known
    rw [absent] at found
    cases found
  | far inside found far =>
    have inReach := inReach_regenerate relaxes draws regenerated
    rw [Body.fitsSigned_displacement inReach size here form inside found] at far
    cases far
  | large tooLarge => exact ⟨.inr ⟨line, mem, tooLarge, rfl⟩, fun _ _ => ⟨line, mem, tooLarge, rfl⟩⟩
  | mismatch wrong =>
    rw [form] at wrong
    cases wrong

/-- A routine that loads a variable by a short opcode, with a number too large for it. -/
def Routine.overreaching : Routine where
  vars := #[]
  parameters := #[]
  graph := ⟨#[⟨0, [.eval (.apply ⟨[⟨.ldlocS, .localSlot 300⟩, .plain .pop], none, none⟩ [])]⟩], #[]⟩

/-- The lines that the routine is lowered to. -/
def Routine.overreachingLines : Array Line :=
  #[⟨⟨0⟩, .anchor⟩, ⟨⟨1⟩, ⟨.ldlocS, .localSlot 300⟩⟩, ⟨⟨2⟩, .plain .pop⟩]

theorem Routine.regenerate_overreaching : ∃ g, (Config.unbounded.regenerate
    (.ignoring : FlagsLowering Unit) .overreaching default ()).result = .ok g ∧
      g.body = .ofLines overreachingLines := by
  have lowers : (⟨.unbounded, ⟨#[], #[]⟩, false, .ignoring⟩ : LowerContext Unit).listing
      overreaching.graph ⟨overreaching.graph.supply, ()⟩ =
        .ok ⟨overreachingLines, #[⟨0, ⟨0⟩, ⟨2⟩, 0, 3⟩]⟩ ⟨⟨⟨3⟩⟩, ()⟩ := rfl
  have binds : Routine.overreaching.bind default = _ := bind_of_no_declarations rfl rfl default
  exact ⟨_, Config.regenerate_unbounded binds lowers (by decide) (by decide) rfl, rfl⟩

/-- The load cannot be encoded, and its number is the only reason. -/
theorem Config.encode_regenerate_overreaching :
    ∃ g, (unbounded.regenerate (.ignoring : FlagsLowering Unit) .overreaching default ()).result =
        .ok g ∧ g.body.codeSize ≤ 0x7fffffff ∧
      ∃ e, g.body.encode (fun _ => pure 0 : String → StateM Unit UInt32) () = .error e () ∧
        ∃ line ∈ g.body.lines, line.instruction.HasLargeSlot ∧
          e = .operandOutOfRange line.label line.instruction.opcode := by
  obtain ⟨g, finished, body⟩ := Routine.regenerate_overreaching
  have size : g.body.codeSize ≤ 0x7fffffff := by
    rw [body]
    decide
  have failed : g.body.encode (fun _ => pure 0 : String → StateM Unit UInt32) () =
      .error (.operandOutOfRange ⟨1⟩ .ldlocS) () := by
    rw [body]
    rfl
  have drop : Routine.overreaching.graph.LeadsToNodes (.plain .pop) := by
    simp [Graph.LeadsToNodes, Instruction.plain, Operand.targets]
  -- the template has no targets at all
  have templates : ∀ i, Routine.overreaching.graph.Carries i →
      Routine.overreaching.graph.LeadsToNodes i := by
    rintro i ⟨node, mem, statement, inside, carried⟩
    obtain rfl := Array.mem_singleton.1 mem
    obtain rfl := List.mem_singleton.1 inside
    cases carried with
    | here operator =>
      rcases List.mem_pair.1 operator with rfl | rfl
      · simp [Graph.LeadsToNodes, Operand.targets]
      · exact drop
    | argument absent => cases absent
  refine ⟨g, finished, size, _, failed, ?_⟩
  exact (encode_regenerate rfl FlagsLowering.ignoring_drawsLabels
    (FlagsLowering.ignoring_preserves rfl) finished size failed).2
    (FlagsLowering.ignoring_preserves drop) templates

end Devirt
