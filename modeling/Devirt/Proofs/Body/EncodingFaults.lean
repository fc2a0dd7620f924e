import Devirt.Proofs.Body.Fields
import Mathlib.Data.Nat.Find

/-!
# Faults of Encoding

Encoding a body fails if the code is too long, or as the encoding of one of its lines. A line can
fail in four ways, each of which shows in the line and the layout alone: a target is unknown or too
far away, the number of a variable is too large for its field, or the operand has the wrong form.
The strings of a body and the state of the caller play no part.

Which fault is met first is a matter of order: lines come in the order of the layout, and within a
line the form of the operand comes before its targets. The tokens of the strings before the line
that fails have been asked for, and no others.

Main statements:
- `Line.Unencodable`: the four ways.
- `Line.fault?`, `Body.fault?_operandField`: the first fault of a line.
- `Body.encode_of_sound`, `Body.encode_of_faultAt?`: without faults a body is encoded, and otherwise
  encoding fails with the fault of the first line that has one.
- `Body.encode_fails_first_fault`: when encoding fails, with which error, and in which state.
- `Body.encode_eq_error`: what it means that encoding fails.
-/

namespace Devirt

open Numeric (fitsSigned)

/-! ## §1 Faults of lines -/

/-- Number of bytes of a displacement behind an opcode with the given kind of operand. -/
def OperandKind.displacementWidth : OperandKind → Nat
  | .shortBranch => 1
  | _ => 4

/-- The instruction has a field of one byte for the number of a variable, and the number is too
    large for it. -/
inductive Instruction.HasLargeSlot (i : Instruction) : Prop where
  | variable {index : UInt16} : i.opcode.operandKind = .shortLocalSlot →
      i.operand = .localSlot index → 255 < index.toNat → HasLargeSlot i
  | argument {index : UInt16} : i.opcode.operandKind = .shortArgumentSlot →
      i.operand = .argumentSlot index → 255 < index.toNat → HasLargeSlot i

/-- The reasons why a line that ends at `stop` cannot be encoded. -/
inductive Line.Unencodable (b : Body) (line : Line) (stop : Nat) : BodyError → Prop where
  /-- No line carries the label of a target. -/
  | unknown {target : Label} : target ∈ line.instruction.operand.targets →
      b.position? target = none → Unencodable b line stop (.unknownLine target)
  /-- The displacement to a target does not fit in its field. -/
  | far {target : Label} {offset : Nat} : target ∈ line.instruction.operand.targets →
      b.offset? target = some offset →
      fitsSigned line.instruction.opcode.operandKind.displacementWidth
        (Layout.displacement stop offset) = false →
      Unencodable b line stop (.branchOutOfRange line.label (Layout.displacement stop offset))
  /-- The number of a variable does not fit in its field. -/
  | large : line.instruction.HasLargeSlot →
      Unencodable b line stop (.operandOutOfRange line.label line.instruction.opcode)
  /-- The operand does not have the form that the opcode asks for. -/
  | mismatch : line.instruction.isWellFormed = false →
      Unencodable b line stop (.invalidOperand line.label line.instruction.opcode)

namespace Body

variable {b : Body} {line : Line} {stop : Nat} {e : BodyError}

theorem offset?_eq_none_iff {label : Label} :
    b.offset? label = none ↔ b.position? label = none := by
  rw [offset?_eq, Option.map_eq_none_iff]

end Body

/-! ## §2 The first fault of a line -/

/-- What keeps a line that ends at `stop` from leading to a target, if anything does: the target is
    unknown, or too far away. -/
def Body.targetFault? (b : Body) (line : Line) (stop : Nat) (target : Label) : Option BodyError :=
  match b.offset? target with
  | none => some (.unknownLine target)
  | some offset =>
    let n := Layout.displacement stop offset
    if fitsSigned line.instruction.opcode.operandKind.displacementWidth n then none
    else some (.branchOutOfRange line.label n)

/-- Is the operand the number of a variable that is too large for a field of one byte? -/
def Operand.overflows : Operand → OperandKind → Bool
  | .localSlot index, .shortLocalSlot | .argumentSlot index, .shortArgumentSlot =>
    255 < index.toNat
  | _, _ => false

/-- What keeps a line that ends at `stop` from being encoded, if anything does. The form of the
    operand is looked at first, then the targets in order, then the number of a variable. -/
def Line.fault? (b : Body) (line : Line) (stop : Nat) : Option BodyError :=
  let i := line.instruction
  if i.isWellFormed then
    (i.operand.targets.findSome? (b.targetFault? line stop)).or
      (if i.operand.overflows i.opcode.operandKind then
        some (.operandOutOfRange line.label i.opcode) else none)
  else some (.invalidOperand line.label i.opcode)

theorem Instruction.hasLargeSlot_of_overflows {i : Instruction}
    (h : i.operand.overflows i.opcode.operandKind = true) : i.HasLargeSlot := by
  unfold Operand.overflows at h
  split at h
  next index kind operand => exact .variable operand kind (of_decide_eq_true h)
  next index kind operand => exact .argument operand kind (of_decide_eq_true h)
  next => cases h

/-- The first fault of a line is one of the reasons why it cannot be encoded. -/
theorem Line.unencodable_of_fault? {b : Body} {line : Line} {stop : Nat} {e : BodyError}
    (h : line.fault? b stop = some e) : line.Unencodable b stop e := by
  unfold fault? at h
  dsimp only at h
  split at h
  next =>
    -- targets are looked at before numbers of variables
    rcases Option.or_eq_some_iff.1 h with target | ⟨_, slot⟩
    · obtain ⟨target, mem, fault⟩ := List.exists_of_findSome?_eq_some target
      unfold Body.targetFault? at fault
      split at fault
      next absent =>
        obtain rfl := Option.some.inj fault
        exact .unknown mem (Body.offset?_eq_none_iff.1 absent)
      next offset found =>
        dsimp only at fault
        obtain ⟨far, rfl⟩ := (Option.ite_none_left_eq_some.1 fault).imp id Option.some.inj
        exact .far mem found (by simpa using far)
    · obtain ⟨large, rfl⟩ := (Option.ite_none_right_eq_some.1 slot).imp id Option.some.inj
      exact .large (Instruction.hasLargeSlot_of_overflows large)
  next wrong =>
    obtain rfl := Option.some.inj h
    exact .mismatch (by simpa using wrong)

namespace Body

variable {b : Body} {line : Line} {stop : Nat} {e : BodyError}

theorem fault?_branchField {target : Label} {bytes : Nat}
    (width : line.instruction.opcode.operandKind.displacementWidth = bytes) :
    Fallible.fault? (b.branchField line.label stop bytes target) =
      b.targetFault? line stop target := by
  -- the same search for the target and the same test of its distance
  subst width
  unfold branchField distance targetFault?
  cases b.offset? target with
  | none => rfl
  | some offset =>
    rw [Fallible.ok_bind]
    dsimp only
    split <;> rfl

/-- An operand that is not a string fails to be encoded with the first fault of its line. -/
theorem fault?_operandField (noString : ∀ value, line.instruction.opcode.operandKind = .string →
      line.instruction.operand ≠ .string value) :
    Fallible.fault? (b.operandField line stop) = line.fault? b stop := by
  have shape {kind : OperandKind} {operand : Operand}
      (hk : line.instruction.opcode.operandKind = kind) (ho : line.instruction.operand = operand) :
      line.fault? b stop = if operand.fits kind then
          (operand.targets.findSome? (b.targetFault? line stop)).or
            (if operand.overflows kind then
              some (.operandOutOfRange line.label line.instruction.opcode) else none)
        else some (.invalidOperand line.label line.instruction.opcode) := by
    subst hk ho
    rfl
  unfold operandField
  dsimp only
  split
  -- the two kinds of branches, then switches, whose first displacement that fails decides
  case h_2 target kind operand | h_3 target kind operand =>
    rw [fault?_branchField (by rw [kind]; rfl), shape kind operand]
    simp [Operand.fits, Operand.targets, Operand.overflows]
  case h_4 targets kind operand =>
    have each : (fun target => Fallible.fault? (b.branchField line.label stop 4 target)) =
        b.targetFault? line stop :=
      funext fun target => fault?_branchField (by rw [kind]; rfl)
    rw [Fallible.fault?_bind_pure, Fallible.fault?_mapM, each, shape kind operand]
    simp [Operand.fits, Operand.targets, Operand.overflows]
  -- fields of one byte for the number of a local variable or an argument
  case h_17 index kind operand | h_18 index kind operand =>
    rw [shape kind operand]
    split
    next small =>
      have fits : decide (255 < index.toNat) = false := decide_eq_false (by omega)
      simp only [Operand.overflows, fits]
      rfl
    next large =>
      have exceeds : decide (255 < index.toNat) = true := decide_eq_true (by omega)
      simp only [Operand.overflows, exceeds]
      rfl
  -- every other operand is a string or has the wrong form
  case h_19 =>
    have wrong : line.instruction.operand.fits line.instruction.opcode.operandKind = false := by
      unfold Operand.fits
      split <;> simp_all
    rw [shape rfl rfl, wrong]
    rfl
  -- constants and references always fit
  all_goals
    rw [shape ‹_› ‹_›]
    rfl

/-! ## §3 Encoding of lines -/

variable {σ : Type} (tokenOf : String → StateM σ UInt32)

/-- A line without a fault is encoded, and the token of its string is asked for. A line with a fault
    fails with it, and leaves the state as it is. -/
theorem encodeLine_cases (b : Body) (line : Line) (offset : Nat) (s : σ) :
    line.fault? b (offset + width line) = none ∧
      (∃ bytes, b.encodeLine tokenOf offset line s =
        .ok bytes (line.instruction.strings.mapM tokenOf s).2) ∨
    ∃ e, line.fault? b (offset + width line) = some e ∧
      b.encodeLine tokenOf offset line s = .error e s := by
  unfold encodeLine
  dsimp only
  -- strings are set apart, since only they ask for a token
  split
  next value kind operand =>
    refine .inl ⟨?_, _, by rw [Instruction.strings_of_string kind operand]; rfl⟩
    simp [Line.fault?, Instruction.isWellFormed, kind, operand, Operand.fits, Operand.targets,
      Operand.overflows]
  next noString =>
    have fault : Fallible.fault? (b.operandField line (offset + width line)) =
        line.fault? b (offset + width line) :=
      fault?_operandField fun value kind operand => noString value kind operand
    cases written : b.operandField line (offset + width line) with
    | ok field =>
      rw [written] at fault
      exact .inl ⟨fault.symm, _, by rw [Instruction.strings_of_no_string noString]; rfl⟩
    | error e =>
      rw [written] at fault
      exact .inr ⟨e, fault.symm, rfl⟩

/-- Lines without faults are encoded one after the other, and tokens are asked for their strings in
    order. -/
theorem encodeFrom_of_sound {lines : List Line} {offset : Nat} (code : Array UInt8) (s : σ)
    (sound : ∀ place ∈ placeFrom offset lines, place.2.fault? b (place.1 + width place.2) = none) :
    ∃ code', b.encodeFrom tokenOf offset lines code s =
      .ok code' ((stringsOf lines).mapM tokenOf s).2 := by
  -- the code so far and the state so far change along the lines
  induction lines generalizing offset code s with
  | nil => exact ⟨code, rfl⟩
  | cons line lines ih =>
    obtain ⟨here, others⟩ := List.forall_mem_cons.1 sound
    rcases encodeLine_cases tokenOf b line offset s with ⟨_, bytes, written⟩ | ⟨e, fault, _⟩
    · obtain ⟨code', rest⟩ := ih (code ++ bytes) (line.instruction.strings.mapM tokenOf s).2 others
      refine ⟨code', ?_⟩
      rw [mapM_stringsOf_cons, encodeFrom, Stateful.bind_of_ok written]
      exact rest
    · rw [fault] at here
      cases here

/-! ## §4 Faults of bodies -/

/-- What keeps the line at a position from being encoded, if there is such a line and anything
    does. -/
def faultAt? (b : Body) (i : Nat) : Option BodyError :=
  (b.layout.at? i).bind fun (offset, line) => line.fault? b (offset + width line)

theorem faultAt?_eq (b : Body) (i : Nat) :
    b.faultAt? i = b.lines[i]?.bind fun line =>
      line.fault? b (totalWidth (b.lines.take i) + width line) := by
  rw [faultAt?, Layout.at?_eq, Option.bind_map]
  rfl

/-- The lines before a position have no faults if the positions before it have none. -/
theorem fault?_eq_none_of_mem {i : Nat} (sound : ∀ j < i, b.faultAt? j = none)
    {place : Nat × Line} (mem : place ∈ placeFrom 0 (b.lines.take i)) :
    place.2.fault? b (place.1 + width place.2) = none := by
  obtain ⟨j, here⟩ := List.getElem?_of_mem mem
  rw [placeFrom_getElem?, Option.map_eq_some_iff] at here
  obtain ⟨line, there, rfl⟩ := here
  -- a line among the first ones stands at the same position and offset in the whole code
  have before : j < i :=
    Nat.lt_of_lt_of_le (List.getElem?_eq_some_iff.1 there).1 (List.length_take_le i b.lines)
  have none := sound j before
  rw [List.getElem?_take_of_lt before] at there
  rw [faultAt?_eq, there, Option.bind_some] at none
  rwa [Nat.zero_add, List.take_take, Nat.min_eq_left (Nat.le_of_lt before)]

variable {tokenOf}

/-- Without faults, a body is encoded. -/
theorem encode_of_sound (small : b.codeSize < 0x100000000) (s : σ)
    (sound : ∀ i, b.faultAt? i = none) :
    ∃ code, b.encode tokenOf s = .ok code ((stringsOf b.lines).mapM tokenOf s).2 := by
  rw [encode_eq small]
  refine encodeFrom_of_sound tokenOf #[] s fun place mem => ?_
  exact fault?_eq_none_of_mem (i := b.lines.length) (fun j _ => sound j) (by rwa [List.take_length])

/-- Encoding fails with the fault of the first line that has one, after tokens have been asked for
    the strings before it. -/
theorem encode_of_faultAt? (small : b.codeSize < 0x100000000) (s : σ) {i : Nat}
    (fault : b.faultAt? i = some e) (first : ∀ j < i, b.faultAt? j = none) :
    b.encode tokenOf s = .error e ((stringsOf (b.lines.take i)).mapM tokenOf s).2 := by
  rw [faultAt?_eq, Option.bind_eq_some_iff] at fault
  obtain ⟨line, here, fault⟩ := fault
  obtain ⟨inside, rfl⟩ := List.getElem?_eq_some_iff.1 here
  have split : b.lines = b.lines.take i ++ b.lines[i] :: b.lines.drop (i + 1) := by
    rw [← List.drop_eq_getElem_cons inside, List.take_append_drop]
  obtain ⟨code, before⟩ :=
    encodeFrom_of_sound tokenOf #[] s fun place mem => fault?_eq_none_of_mem first mem
  -- the line with the fault is met in the state that the lines before it have left
  rcases encodeLine_cases tokenOf b b.lines[i] (totalWidth (b.lines.take i))
    ((stringsOf (b.lines.take i)).mapM tokenOf s).2 with ⟨sound, _⟩ | ⟨e', fault', failed⟩
  · rw [fault] at sound
    cases sound
  · obtain rfl := Option.some.inj (fault.symm.trans fault')
    -- the lines before have been encoded by then, and those behind are not looked at
    rw [encode_eq small]
    conv_lhs => rw [split]
    rw [encodeFrom_append, Stateful.bind_of_ok before, Nat.zero_add, encodeFrom,
      Stateful.bind_of_error failed]

/-- If any position has a fault, then one of them has the first fault. -/
theorem exists_first_fault {b : Body} (faulty : ¬∀ i, b.faultAt? i = none) :
    ∃ i e, b.faultAt? i = some e ∧ ∀ j < i, b.faultAt? j = none := by
  obtain ⟨i, fault, first⟩ := Nat.findX (not_forall.1 faulty)
  obtain ⟨e, fault⟩ := Option.ne_none_iff_exists'.1 fault
  exact ⟨i, e, fault, fun j lt => not_not.1 (first j lt)⟩

/-- Encoding fails exactly if there is a first line with a fault, and with that fault. -/
theorem encode_eq_error_iff (small : b.codeSize < 0x100000000) {s s' : σ} :
    b.encode tokenOf s = .error e s' ↔ ∃ i, b.faultAt? i = some e ∧
      (∀ j < i, b.faultAt? j = none) ∧ s' = ((stringsOf (b.lines.take i)).mapM tokenOf s).2 := by
  constructor
  · intro failed
    -- a failure needs a line with a fault, and of those the first one decides
    by_cases sound : ∀ i, b.faultAt? i = none
    · obtain ⟨code, encoded⟩ : ∃ code, b.encode tokenOf s = .ok code _ :=
        encode_of_sound small s sound
      rw [encoded] at failed
      cases failed
    · obtain ⟨i, e', fault, first⟩ := exists_first_fault sound
      rw [encode_of_faultAt? small s fault first] at failed
      obtain ⟨rfl, rfl⟩ := EStateM.Result.error.inj failed
      exact ⟨i, fault, first, rfl⟩
  · rintro ⟨i, fault, first, rfl⟩
    exact encode_of_faultAt? small s fault first

/-- The fault at a position is a reason why the line there cannot be encoded. -/
theorem unencodable_of_faultAt? {i : Nat} (h : b.faultAt? i = some e) :
    ∃ line, b.lines[i]? = some line ∧
      line.Unencodable b (totalWidth (b.lines.take (i + 1))) e := by
  rw [faultAt?_eq, Option.bind_eq_some_iff] at h
  obtain ⟨line, here, fault⟩ := h
  refine ⟨line, here, ?_⟩
  rw [totalWidth_take_succ here]
  exact Line.unencodable_of_fault? fault

/-- Code that is not too long is refused exactly if some line has a fault. The error is the fault of
    the first line that has one, by which time tokens have been asked for the strings before that
    line, in order, and no others. Nothing is ever wrong with the delivery of the bytes. -/
theorem encode_fails_first_fault (small : b.codeSize < 0x100000000)
    (tokenOf : String → StateM σ UInt32) (s : σ) :
    ((∃ e s', b.encode tokenOf s = .error e s') ↔ ∃ i e, b.faultAt? i = some e) ∧
    (∀ e s', b.encode tokenOf s = .error e s' ↔ ∃ i, b.faultAt? i = some e ∧
      (∀ j < i, b.faultAt? j = none) ∧ s' = ((stringsOf (b.lines.take i)).mapM tokenOf s).2) ∧
    ∀ reason s', b.encode tokenOf s ≠ .error (.delivery reason) s' := by
  refine ⟨⟨?_, ?_⟩, fun e s' => encode_eq_error_iff small, ?_⟩
  · rintro ⟨e, s', failed⟩
    obtain ⟨i, fault, _⟩ := (encode_eq_error_iff small).1 failed
    exact ⟨i, e, fault⟩
  · rintro ⟨i, e, fault⟩
    have faulty : ¬∀ i, b.faultAt? i = none := fun sound => by cases (sound i).symm.trans fault
    obtain ⟨i, e, fault, first⟩ := exists_first_fault faulty
    exact ⟨e, _, encode_of_faultAt? small s fault first⟩
  · intro reason s' failed
    obtain ⟨i, fault, _⟩ := (encode_eq_error_iff small).1 failed
    obtain ⟨line, _, unencodable⟩ := unencodable_of_faultAt? fault
    -- no reason why a line cannot be encoded is about delivery
    cases unencodable

/-- Code with a string, a table whose last target is unknown, and a variable whose number is too
    large. -/
def straying : Body :=
  .ofLines #[⟨⟨0⟩, ⟨.ldstr, .string "hi"⟩⟩, ⟨⟨1⟩, ⟨.switch, .switch [⟨0⟩, ⟨7⟩]⟩⟩,
    ⟨⟨2⟩, ⟨.ldlocS, .localSlot 300⟩⟩]

theorem faultAt?_straying : straying.faultAt? 0 = none ∧
    straying.faultAt? 1 = some (.unknownLine ⟨7⟩) := by
  have first : straying.offset? ⟨0⟩ = some 0 := by
    have position : straying.position? ⟨0⟩ = some 0 := by
      rw [straying, position?_eq_some_iff_of_distinct (by rw [lines_ofLines]; decide),
        lines_ofLines]
      rfl
    rw [offset?_eq, position]
    rfl
  have absent : straying.offset? ⟨7⟩ = none := by
    rw [offset?_eq_none_iff, position?_eq_none_iff, straying, lines_ofLines]
    decide
  have targets : [⟨0⟩, ⟨7⟩].findSome?
      (straying.targetFault? ⟨⟨1⟩, ⟨.switch, .switch [⟨0⟩, ⟨7⟩]⟩⟩ 18) =
        some (.unknownLine ⟨7⟩) := by
    simp only [List.findSome?, targetFault?, first, absent]
    rfl
  refine ⟨by rw [faultAt?_eq, straying, lines_ofLines]; rfl, ?_⟩
  rw [faultAt?_eq]
  exact congrArg (Option.or · none) targets

/-- The unknown target is found before the variable, when the token of the string has been asked
    for. -/
theorem encode_fails_first_fault_straying :
    straying.codeSize = 20 ∧
    straying.encode (fun value asked => (0x70000001, asked ++ [value])) [] =
      .error (.unknownLine ⟨7⟩) ["hi"] := by
  obtain ⟨sound, fault⟩ := faultAt?_straying
  refine ⟨rfl, ((encode_fails_first_fault (by decide) _ []).2.1 (.unknownLine ⟨7⟩) ["hi"]).2
    ⟨1, fault, fun j lt => ?_, rfl⟩⟩
  obtain rfl := Nat.lt_one_iff.1 lt
  exact sound

/-- Encoding fails if the code is too long, or as the encoding of the line at some position. -/
theorem encode_eq_error {s s' : σ} (h : b.encode tokenOf s = .error e s') :
    0x100000000 ≤ b.codeSize ∨ ∃ (i : Nat) (line : Line), b.lines[i]? = some line ∧
      line.Unencodable b (totalWidth (b.lines.take (i + 1))) e := by
  by_cases small : b.codeSize < 0x100000000
  · obtain ⟨i, fault, _⟩ := (encode_eq_error_iff small).1 h
    exact .inr ⟨i, unencodable_of_faultAt? fault⟩
  · exact .inl (Nat.not_lt.1 small)

end Body

end Devirt
