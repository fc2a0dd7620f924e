import Devirt.Proofs.Body.Resolution
import Devirt.Relaxation
import Mathlib.Data.List.Forall2

/-!
# Widenings of Code

A widening of some code is the code with some of its short branches in their long forms. Widenings
are ordered by the branches that they lengthen, and this order moves targets apart: a branch never
gets closer to its target when other branches grow, neither forwards nor backwards. So a branch that
is out of reach in some code stays out of reach in every widening that leaves it short.

Main statements:
- `Line.WidensTo`, `Widening`: the order on lines and on code.
- `InReach`: no short branch is too far from its target, offsets being sums of widths.
- `OutOfReachAt.of_widening`: being out of reach is preserved.
- `Line.isOutOfReach_iff`: a round of relaxation finds exactly the branches out of reach.
-/

namespace Devirt

/-! ## §1 Long forms -/

namespace Opcode

/-- A long form has no long form itself. -/
theorem longForm?_of_longForm? {o long : Opcode} (h : o.longForm? = some long) :
    long.longForm? = none := by
  cases o <;> cases h <;> rfl

/-- A long form is one byte of opcode in front of four bytes of displacement. -/
theorem size_of_longForm? {o long : Opcode} (h : o.longForm? = some long) :
    o.size = 1 ∧ long.size = 1 := by
  cases o <;> cases h <;> exact ⟨rfl, rfl⟩

theorem operandKind_eq_shortBranch {o long : Opcode} (h : o.longForm? = some long) :
    o.operandKind = .shortBranch := by
  -- long forms are looked up by opcode, and exist exactly for short branches
  have short := o.isSome_longForm?
  rw [h] at short
  exact eq_of_beq short.symm

end Opcode

namespace Line

/-- The second line is the first one, or the first one with its short branch in the long form. -/
inductive WidensTo : Line → Line → Prop where
  | same {line : Line} : WidensTo line line
  /-- The branch gets its long form. -/
  | long {line : Line} {form : Opcode} : line.instruction.opcode.longForm? = some form →
      WidensTo line { line with instruction.opcode := form }

variable {line wide : Line}

theorem WidensTo.label_eq (h : line.WidensTo wide) : wide.label = line.label := by
  cases h <;> rfl

theorem WidensTo.operand_eq (h : line.WidensTo wide) :
    wide.instruction.operand = line.instruction.operand := by
  cases h <;> rfl

/-- The long form of a branch is three bytes longer. -/
theorem width_long {form : Opcode} (h : line.instruction.opcode.longForm? = some form) :
    width { line with instruction.opcode := form } = width line + 3 := by
  obtain ⟨short, long⟩ := Opcode.size_of_longForm? h
  have shortKind := Opcode.operandKind_eq_shortBranch h
  have longKind := Opcode.operandKind_of_longForm? h
  show form.size + line.instruction.operand.width form.operandKind =
    line.instruction.opcode.size + line.instruction.operand.width _ + 3
  rw [short, long, shortKind, longKind]
  -- the operand has the width of its kind, whether or not it is of that kind
  cases line.instruction.operand <;> rfl

/-- Only short branches have long forms. -/
theorem isShort_of_longForm? {form : Opcode} (h : line.instruction.opcode.longForm? = some form) :
    line.isShort = true := by
  rw [isShort, ← Opcode.isSome_longForm?, h]
  rfl

/-- A branch in its long form is not short. -/
theorem isShort_long {form : Opcode} (h : line.instruction.opcode.longForm? = some form) :
    isShort { line with instruction.opcode := form } = false := by
  rw [isShort, ← Opcode.isSome_longForm?, Opcode.longForm?_of_longForm? h]
  rfl

/-- The long form of a branch is another instruction. -/
theorem long_ne {form : Opcode} (h : line.instruction.opcode.longForm? = some form) :
    { line with instruction.opcode := form } ≠ line := by
  intro same
  have long := isShort_long h
  rw [same, isShort_of_longForm? h] at long
  cases long

theorem WidensTo.width_le (h : line.WidensTo wide) : width line ≤ width wide := by
  cases h with
  | same => exact Nat.le_refl _
  | long form =>
    rw [width_long form]
    exact Nat.le_add_right _ _

theorem WidensTo.trans {wider : Line} (h : line.WidensTo wide) (h' : wide.WidensTo wider) :
    line.WidensTo wider := by
  cases h with
  | same => exact h'
  | long form =>
    -- a long form has no long form, so a branch grows once at most
    cases h' with
    | same => exact .long form
    | long form' => simp [Opcode.longForm?_of_longForm? form] at form'

theorem WidensTo.antisymm (h : line.WidensTo wide) (h' : wide.WidensTo line) : wide = line := by
  cases h with
  | same => rfl
  | long form =>
    -- a line that has grown is too long to widen to what it was
    have grown := h'.width_le
    rw [width_long form] at grown
    omega

theorem WidensTo.eq_of_not_isShort (h : line.WidensTo wide) (long : line.isShort = false) :
    wide = line := by
  cases h with
  | same => rfl
  | long form =>
    rw [isShort_of_longForm? form] at long
    cases long

/-- A long form asks for the same form of operand as the short one. -/
theorem WidensTo.isWellFormed (h : line.WidensTo wide)
    (sound : line.instruction.isWellFormed = true) : wide.instruction.isWellFormed = true := by
  cases h with
  | same => exact sound
  | long form =>
    unfold Instruction.isWellFormed at sound ⊢
    -- short and long displacements are both given by one target
    rw [Opcode.operandKind_eq_shortBranch form] at sound
    rw [Opcode.operandKind_of_longForm? form]
    cases operand : line.instruction.operand <;> rw [operand] at sound <;> first | rfl | cases sound

end Line

/-! ## §2 Code -/

/-- The second list is the first one with some of its short branches in their long forms. -/
def Widening : List Line → List Line → Prop :=
  List.Forall₂ Line.WidensTo

namespace Widening

variable {lines code : List Line}

theorem refl (lines : List Line) : Widening lines lines :=
  List.forall₂_same.2 fun _ _ => .same

theorem trans {wider : List Line} (h : Widening lines code) (h' : Widening code wider) :
    Widening lines wider := by
  -- line by line, as the two lists are of one length
  induction h generalizing wider with
  | nil => exact h'
  | cons head _ ih =>
    cases h' with
    | cons head' tail' => exact .cons (head.trans head') (ih tail')

theorem antisymm (h : Widening lines code) (h' : Widening code lines) : code = lines := by
  induction h with
  | nil => rfl
  | cons head _ ih =>
    cases h' with
    | cons head' tail' => rw [head.antisymm head', ih tail']

/-- A widening compares lines of equal positions. -/
theorem iff_getElem? : Widening lines code ↔ lines.length = code.length ∧
    ∀ (i : Nat) (line wide : Line), lines[i]? = some line → code[i]? = some wide →
      line.WidensTo wide := by
  rw [Widening, List.forall₂_iff_get]
  refine and_congr_right fun same => ⟨fun h i line wide there there' => ?_, fun h i hi hi' => ?_⟩
  · obtain ⟨hi, rfl⟩ := List.getElem?_eq_some_iff.1 there
    obtain ⟨hi', rfl⟩ := List.getElem?_eq_some_iff.1 there'
    exact h i hi hi'
  · exact h i _ _ (List.getElem?_eq_getElem hi) (List.getElem?_eq_getElem hi')

theorem getElem? (h : Widening lines code) {i : Nat} {line : Line} (there : lines[i]? = some line) :
    ∃ wide, code[i]? = some wide ∧ line.WidensTo wide := by
  obtain ⟨same, pointwise⟩ := iff_getElem?.1 h
  have inside : i < code.length := same ▸ (List.getElem?_eq_some_iff.1 there).1
  exact ⟨_, List.getElem?_eq_getElem inside,
    pointwise _ _ _ there (List.getElem?_eq_getElem inside)⟩

theorem exists_widensTo (h : Widening lines code) {wide : Line} (mem : wide ∈ code) :
    ∃ line ∈ lines, line.WidensTo wide := by
  obtain ⟨same, pointwise⟩ := iff_getElem?.1 h
  obtain ⟨i, inside, rfl⟩ := List.mem_iff_getElem.1 mem
  have before : i < lines.length := same ▸ inside
  exact ⟨lines[i], List.getElem_mem before, pointwise i _ _ (List.getElem?_eq_getElem before)
    (List.getElem?_eq_getElem inside)⟩

theorem map_label (h : Widening lines code) : code.map Line.label = lines.map Line.label := by
  induction h with
  | nil => rfl
  | cons head _ ih => rw [List.map_cons, List.map_cons, head.label_eq, ih]

theorem map_operand (h : Widening lines code) :
    code.map (·.instruction.operand) = lines.map (·.instruction.operand) := by
  induction h with
  | nil => rfl
  | cons head _ ih => rw [List.map_cons, List.map_cons, head.operand_eq, ih]

theorem distinctLabels (h : Widening lines code) (distinct : DistinctLabels lines) :
    DistinctLabels code := by
  unfold DistinctLabels
  rwa [h.map_label]

theorem totalWidth_le (h : Widening lines code) : totalWidth lines ≤ totalWidth code := by
  induction h with
  | nil => exact Nat.le_refl _
  | cons head _ ih => exact Nat.add_le_add head.width_le ih

/-- The part between two positions does not shrink. -/
theorem between_le (h : Widening lines code) {i j : Nat} (le : i ≤ j) :
    totalWidth (lines.take j) + totalWidth (code.take i) ≤
      totalWidth (code.take j) + totalWidth (lines.take i) := by
  -- the lines between the positions are a widening of their own
  have part : Widening ((lines.take j).drop i) ((code.take j).drop i) :=
    List.forall₂_drop i (List.forall₂_take j h)
  have grown := part.totalWidth_le
  rw [totalWidth_take_add lines le, totalWidth_take_add code le]
  omega

end Widening

/-! ## §3 Reach -/

/-- Signed number of bytes from the end of the line at the first position to the start of the line
    at the second one. -/
def gap (code : List Line) (i j : Nat) : Int :=
  Layout.displacement (totalWidth (code.take (i + 1))) (totalWidth (code.take j))

/-- The line at a position is a short branch that is too far from the line with its target. -/
def OutOfReachAt (code : List Line) (i : Nat) : Prop :=
  ∃ j line target, code[i]? = some line ∧ line.isShort = true ∧
    line.instruction.operand = .target target.label ∧ code[j]? = some target ∧
    ¬(-128 ≤ gap code i j ∧ gap code i j ≤ 127)

/-- Every short branch to a line of the code has a displacement that fits in a signed byte. -/
def InReach (code : List Line) : Prop :=
  ∀ i j line target, code[i]? = some line → line.isShort = true →
    line.instruction.operand = .target target.label → code[j]? = some target →
    -128 ≤ gap code i j ∧ gap code i j ≤ 127

theorem inReach_iff {code : List Line} : InReach code ↔ ∀ i, ¬OutOfReachAt code i := by
  constructor
  · rintro sound i ⟨j, line, target, here, short, operand, there, far⟩
    exact far (sound i j line target here short operand there)
  · intro sound i j line target here short operand there
    by_contra far
    exact sound i ⟨j, line, target, here, short, operand, there, far⟩

/-- A branch that is out of reach and stays short is still out of reach when others grow. -/
theorem OutOfReachAt.of_widening {lines code : List Line} {i : Nat} (far : OutOfReachAt lines i)
    (h : Widening lines code) (same : code[i]? = lines[i]?) : OutOfReachAt code i := by
  obtain ⟨j, line, target, here, short, operand, there, far⟩ := far
  obtain ⟨target', there', wider⟩ := h.getElem? there
  refine ⟨j, line, target', same.trans here, short, wider.label_eq ▸ operand, there', ?_⟩
  unfold gap Layout.displacement at far ⊢
  -- what lies between the branch and its target has grown, on whichever side the target is
  rcases Nat.le_total (i + 1) j with forwards | backwards
  · have grown := h.between_le forwards
    have ahead := totalWidth_take_mono lines forwards
    omega
  · have grown := h.between_le backwards
    have behind := totalWidth_take_mono lines backwards
    omega

/-! ## §4 Offsets of labels -/

/-- Put the label of a line into a table of offsets, given the offset of the line. -/
def placeLabel (before : Std.HashMap Label Nat × Nat) (line : Line) : Std.HashMap Label Nat × Nat :=
  (before.1.insert line.label before.2, before.2 + width line)

theorem foldl_placeLabel_snd (lines : List Line) :
    (lines.foldl placeLabel (∅, 0)).2 = totalWidth lines := by
  -- the table is filled from the front, and the last line decides last
  induction lines using List.reverseRecOn with
  | nil => rfl
  | append_singleton lines line ih =>
    rw [List.foldl_append, totalWidth_append, ← ih]
    rfl

theorem getElem?_foldl_placeLabel (lines : List Line) (label : Label) :
    (lines.foldl placeLabel (∅, 0)).1[label]? =
      (positionsOf lines)[label]?.map fun i => totalWidth (lines.take i) := by
  induction lines using List.reverseRecOn with
  | nil => simp [positionsOf]
  | append_singleton lines line ih =>
    simp only [List.foldl_append, List.foldl_cons, List.foldl_nil, placeLabel,
      foldl_placeLabel_snd]
    rw [positionsOf_append_singleton, Std.HashMap.getElem?_insert, Std.HashMap.getElem?_insert]
    -- the last line takes over its label, and leaves all others where they were
    split
    next => simp
    next =>
      rw [ih]
      -- the offsets of earlier lines do not depend on the last one
      refine Option.map_congr fun i found => ?_
      have inside := (positionsOf_eq_some_iff.1 found).lt_length
      rw [List.take_append_of_le_length (Nat.le_of_lt inside)]

/-- Relaxation gives a label the offset of the last line that carries it. -/
theorem labelOffsets_eq (lines : Array Line) (label : Label) :
    (labelOffsets lines)[label]? =
      (positionsOf lines.toList)[label]?.map fun i => totalWidth (lines.toList.take i) := by
  rw [labelOffsets, ← Array.foldl_toList]
  exact getElem?_foldl_placeLabel lines.toList label

/-- With distinct labels, a label has the offset of the line that carries it. -/
theorem labelOffsets_eq_some_iff {lines : Array Line} (distinct : DistinctLabels lines.toList)
    {label : Label} {offset : Nat} :
    (labelOffsets lines)[label]? = some offset ↔ ∃ (i : Nat) (line : Line),
      lines.toList[i]? = some line ∧ line.label = label ∧
        totalWidth (lines.toList.take i) = offset := by
  rw [labelOffsets_eq, Option.map_eq_some_iff]
  simp only [positionsOf_eq_some_iff, distinct.isLastAt_iff, Option.map_eq_some_iff]
  constructor
  · rintro ⟨i, ⟨line, there, same⟩, rfl⟩
    exact ⟨i, line, there, same, rfl⟩
  · rintro ⟨i, line, there, same, rfl⟩
    exact ⟨i, ⟨line, there, same⟩, rfl⟩

/-- With distinct labels, the displacement of a branch is the gap between its end and its target. -/
theorem Line.displacement?_eq_some_iff {lines : Array Line} (distinct : DistinctLabels lines.toList)
    {i : Nat} {line : Line} (here : lines.toList[i]? = some line) {displacement : Int} :
    line.displacement? (labelOffsets lines) = some displacement ↔
      ∃ (j : Nat) (target : Line), line.instruction.operand = .target target.label ∧
        lines.toList[j]? = some target ∧ displacement = gap lines.toList i j := by
  -- the offset of the branch is looked up by its label too, which finds the branch itself
  have start : (labelOffsets lines)[line.label]? = some (totalWidth (lines.toList.take i)) :=
    (labelOffsets_eq_some_iff distinct).2 ⟨i, line, here, rfl, rfl⟩
  unfold displacement? gap
  rw [totalWidth_take_succ here]
  split
  next label operand =>
    simp only [start, bind, Option.bind_some, Option.bind_eq_some_iff, pure, Option.some.injEq,
      labelOffsets_eq_some_iff distinct, operand, Operand.target.injEq]
    constructor
    · rintro ⟨_, ⟨j, target, there, rfl, rfl⟩, rfl⟩
      exact ⟨j, target, rfl, there, rfl⟩
    · rintro ⟨j, target, rfl, there, rfl⟩
      exact ⟨_, ⟨j, target, there, rfl, rfl⟩, rfl⟩
  next noTarget =>
    simp only [reduceCtorEq, false_iff]
    rintro ⟨j, target, operand, _⟩
    exact noTarget _ operand

/-- A round replaces the short branches with displacements that do not fit in a signed byte. -/
theorem Line.isOutOfReach_eq_true_iff {offsets : Std.HashMap Label Nat} {line : Line} :
    line.isOutOfReach offsets = true ↔ line.isShort = true ∧
      ∃ displacement, line.displacement? offsets = some displacement ∧
        ¬(-128 ≤ displacement ∧ displacement ≤ 127) := by
  have far : ∀ displacement, ¬(-128 ≤ displacement ∧ displacement ≤ 127) ↔
      inShortReach displacement = false := by
    intro displacement
    simp [inShortReach]
  simp only [far]
  unfold isOutOfReach neededForm?
  rw [isShort, ← Opcode.isSome_longForm?]
  -- a line is replaced if it has a long form, a displacement, and the displacement does not fit
  cases line.instruction.opcode.longForm? with
  | none => simp
  | some form =>
    cases line.displacement? offsets with
    | none => simp
    | some displacement => cases h : inShortReach displacement <;> simp [h]

/-- With distinct labels, the branches that a round replaces are exactly those out of reach. -/
theorem Line.isOutOfReach_iff {lines : Array Line} (distinct : DistinctLabels lines.toList)
    {i : Nat} {line : Line} (here : lines.toList[i]? = some line) :
    line.isOutOfReach (labelOffsets lines) = true ↔ OutOfReachAt lines.toList i := by
  -- labels being different, the round sees the same displacements as the definition of reach
  simp only [isOutOfReach_eq_true_iff, displacement?_eq_some_iff distinct here]
  constructor
  · rintro ⟨short, _, ⟨j, target, operand, there, rfl⟩, far⟩
    exact ⟨j, line, target, here, short, operand, there, far⟩
  · rintro ⟨j, line', target, here', short, operand, there, far⟩
    obtain rfl := Option.some.inj (here.symm.trans here')
    exact ⟨short, _, ⟨j, target, operand, there, rfl⟩, far⟩

end Devirt
