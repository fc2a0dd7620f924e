import Devirt.Proofs.Body.Fields

/-!
# Slices of Encoded Code

The width of a line and the bytes of a line come from different functions. They agree: the bytes of
a line fill exactly the slice that the layout reserves for it, so no line moves the lines behind it,
and every displacement counts from the place where its line ends. Tokens are asked for once for each
string, in the order of the lines. Since the bytes of a line tell how many they are, the lines can
be read off the code again.

Main statements:
- `Body.SpellsAll`: what the bytes of consecutive lines say.
- `Body.spellsAll_of_encode`: encoding writes such bytes, and asks for such tokens.
- `Body.encode_slices`: the slice of every line.
- `Body.encode_uniquely_decodable`: equal code comes from lines that agree.
-/

namespace Devirt

open Numeric

namespace Body

variable {b : Body} {σ : Type} {tokenOf : String → StateM σ UInt32}

/-! ## §1 Consecutive lines -/

/-- The bytes of consecutive lines, the first of which starts at the offset. The answers are the
    tokens of their strings. -/
inductive SpellsAll (b : Body) : Nat → List Line → List UInt32 → List UInt8 → Prop where
  | nil {offset : Nat} : SpellsAll b offset [] [] []
  | cons {offset : Nat} {line : Line} {lines : List Line} {own answers : List UInt32}
      {bytes rest : List UInt8} : own.length = line.instruction.strings.length →
      b.Spells offset line own.head? bytes → SpellsAll b (offset + width line) lines answers rest →
      SpellsAll b offset (line :: lines) (own ++ answers) (bytes ++ rest)

theorem SpellsAll.length_bytes {offset : Nat} {lines : List Line} {answers : List UInt32}
    {bytes : List UInt8} (h : b.SpellsAll offset lines answers bytes) :
    bytes.length = totalWidth lines := by
  induction h with
  | nil => rfl
  | cons _ spells _ ih => rw [List.length_append, spells.2.1, ih, totalWidth]

theorem SpellsAll.length_answers {offset : Nat} {lines : List Line} {answers : List UInt32}
    {bytes : List UInt8} (h : b.SpellsAll offset lines answers bytes) :
    answers.length = (stringsOf lines).length := by
  induction h with
  | nil => rfl
  | cons own _ _ ih => rw [stringsOf_cons, List.length_append, List.length_append, own, ih]

/-- An operand that is no string is resolved in the same way with a token. -/
theorem resolved?_of_none {operand : Operand} {value : ResolvedOperand}
    (h : b.resolved? none operand = some value) (answer : Option UInt32) :
    b.resolved? answer operand = some value := by
  cases operand <;> first | exact h | cases h

theorem Spells.of_none {offset : Nat} {line : Line} {bytes : List UInt8}
    (h : b.Spells offset line none bytes) (answer : Option UInt32) :
    b.Spells offset line answer bytes := by
  obtain ⟨form, length, value, field, resolved, denotes, same⟩ := h
  exact ⟨form, length, value, field, resolved?_of_none resolved answer, denotes, same⟩

/-- The bytes of the line at a position start behind those of the lines before it, and the answer
    for its string stands behind those for the lines before it. -/
theorem SpellsAll.at_position {offset : Nat} {lines : List Line} {answers : List UInt32}
    {bytes : List UInt8} (h : b.SpellsAll offset lines answers bytes) {i : Nat} {line : Line}
    (here : lines[i]? = some line) :
    b.Spells (offset + totalWidth (lines.take i)) line answers[(stringsOf (lines.take i)).length]?
      ((bytes.drop (totalWidth (lines.take i))).take (width line)) := by
  induction h generalizing i with
  | nil => cases here
  | @cons offset first lines own answers bytes rest asked spells others ih =>
    cases i with
    | zero =>
      obtain rfl := Option.some.inj here
      have slice : (bytes ++ rest).take (width first) = bytes := List.take_left' spells.2.1
      simp only [List.take_zero, totalWidth, Nat.add_zero, List.drop_zero, slice, stringsOf,
        List.flatMap_nil, List.length_nil]
      -- a line without a string does not look at the answer
      cases own with
      | nil => exact spells.of_none _
      | cons answer own => exact spells
    | succ i =>
      have behind := ih (i := i) here
      have answer : (own ++ answers)[(stringsOf ((first :: lines).take (i + 1))).length]? =
          answers[(stringsOf (lines.take i)).length]? := by
        rw [List.take_succ_cons, stringsOf_cons, List.length_append, ← asked,
          List.getElem?_append_right (Nat.le_add_right _ _), Nat.add_sub_cancel_left]
      have slice : (bytes ++ rest).drop (totalWidth ((first :: lines).take (i + 1))) =
          rest.drop (totalWidth (lines.take i)) := by
        rw [List.take_succ_cons, totalWidth, ← spells.2.1, ← List.drop_drop, List.drop_left]
      rw [answer, slice, List.take_succ_cons, totalWidth, ← Nat.add_assoc]
      exact behind

/-! ## §2 Encoding -/

/-- Lines that are encoded one after the other add such bytes to the code. -/
theorem spellsAll_of_encodeFrom {offset : Nat} {lines : List Line} {code code' : Array UInt8}
    {s s' : σ} (small : totalWidth lines < 0x100000000)
    (h : b.encodeFrom tokenOf offset lines code s = .ok code' s') :
    ∃ answers bytes, (stringsOf lines).mapM tokenOf s = (answers, s') ∧
      b.SpellsAll offset lines answers bytes ∧ code'.toList = code.toList ++ bytes := by
  -- the code so far and the state so far change along the lines
  induction lines generalizing offset code s with
  | nil =>
    obtain ⟨rfl, rfl⟩ := Stateful.pure_eq_ok.1 h
    exact ⟨[], [], rfl, .nil, (List.append_nil _).symm⟩
  | cons line lines ih =>
    rw [totalWidth] at small
    obtain ⟨bytes, s₁, written, others⟩ := Stateful.bind_eq_ok.1 h
    obtain ⟨own, asked, length, spells⟩ := spells_of_encodeLine (by omega) written
    obtain ⟨answers, rest, askedLater, spellsLater, longer⟩ := ih (by omega) others
    refine ⟨own ++ answers, bytes ++ rest, ?_, .cons length spells spellsLater, ?_⟩
    · rw [mapM_stringsOf_cons, asked]
      simp only [askedLater]
    · simpa [List.append_assoc] using longer

/-- Encoded code consists of the bytes of the lines. -/
theorem spellsAll_of_encode {code : Array UInt8} {s s' : σ}
    (h : b.encode tokenOf s = .ok code s') :
    ∃ answers, (stringsOf b.lines).mapM tokenOf s = (answers, s') ∧
      b.SpellsAll 0 b.lines answers code.toList := by
  -- code that does not fit in four bytes is refused at once, so no table is too large below
  have small : b.codeSize < 0x100000000 := by
    by_contra large
    rw [encode, if_pos (Nat.not_lt.1 large)] at h
    cases h
  rw [encode_eq small] at h
  obtain ⟨answers, bytes, asked, spells, rfl⟩ :=
    spellsAll_of_encodeFrom (by rwa [← b.codeSize_eq]) h
  exact ⟨answers, asked, spells⟩

/-- Encoded code is as long as the layout says, and tokens are asked for once for each string, in
    the order of the lines. The slice of a line consists of the value of its opcode and a field that
    says what its operand is, branches being counted from the end of the line. -/
theorem encode_slices {code : Array UInt8} {s s' : σ}
    (encoded : b.encode tokenOf s = .ok code s') :
    code.size = b.codeSize ∧
    ∃ answers, (stringsOf b.lines).mapM tokenOf s = (answers, s') ∧
      answers.length = (stringsOf b.lines).length ∧
      ∀ i offset line, b.layout.at? i = some (offset, line) →
        line.instruction.isWellFormed = true ∧
        ∃ value field,
          b.resolved? answers[(stringsOf (b.lines.take i)).length]? line.instruction.operand =
            some value ∧
          FieldDenotes (offset + width line) line.instruction.opcode.operandKind value field ∧
          (code.extract offset (offset + width line)).toList =
            (if line.instruction.opcode.value ≤ 0xff then
                [UInt8.ofNat line.instruction.opcode.value]
              else [0xfe, UInt8.ofNat (line.instruction.opcode.value % 256)]) ++ field := by
  obtain ⟨answers, asked, spells⟩ := spellsAll_of_encode encoded
  refine ⟨?_, answers, asked, spells.length_answers, fun i offset line here => ?_⟩
  · rw [← Array.length_toList, spells.length_bytes, codeSize_eq]
  · rw [Layout.at?_eq, Option.map_eq_some_iff] at here
    obtain ⟨line, there, same⟩ := here
    cases same
    obtain ⟨form, _, value, field, resolved, denotes, slice⟩ := spells.at_position there
    rw [Nat.zero_add] at denotes
    refine ⟨form, value, field, resolved, denotes, ?_⟩
    rw [← Opcode.encoding_eq, ← slice, Array.toList_extract, List.extract_eq_take_drop,
      Nat.add_sub_cancel_left]
    rfl

/-- Code that loads a string and starts again. -/
def starting (first second third : Label) (text : String) : Body :=
  .ofLines #[⟨first, .anchor⟩, ⟨second, ⟨.ldstr, .string text⟩⟩, ⟨third, ⟨.brS, .target first⟩⟩]

/-- Such code takes eight bytes, of which only the token depends on the string. -/
theorem encode_starting {first second third : Label} (distinct : [first, second, third].Nodup)
    {text : String} {s s' : σ} {token : UInt32} (asked : tokenOf text s = (token, s')) :
    (starting first second third text).encode tokenOf s =
      .ok ((0 :: 0x72 :: littleEndian 4 token.toNat) ++ [0x2b, 0xf8]).toArray s' := by
  have lines : (starting first second third text).lines = [⟨first, .anchor⟩,
      ⟨second, ⟨.ldstr, .string text⟩⟩, ⟨third, ⟨.brS, .target first⟩⟩] := lines_ofLines _
  have start : (starting first second third text).offset? first = some 0 := by
    have position : (starting first second third text).position? first = some 0 := by
      rw [position?_eq_some_iff_of_distinct (by rw [lines]; exact distinct), lines]
      rfl
    rw [offset?_eq, position, lines]
    rfl
  have anchor : (starting first second third text).encodeLine tokenOf 0 ⟨first, .anchor⟩ s =
      .ok [0] s := rfl
  have load : (starting first second third text).encodeLine tokenOf 1
      ⟨second, ⟨.ldstr, .string text⟩⟩ s = .ok (0x72 :: littleEndian 4 token.toNat) s' :=
    encodeLine_of_string rfl rfl asked
  -- the branch ends behind the eighth byte, and leads back to the first one
  have displacement : (starting first second third text).operandField
      ⟨third, ⟨.brS, .target first⟩⟩ 8 = .ok [0xf8] := by
    show (starting first second third text).branchField third 8 1 first = _
    rw [branchField, distance, start]
    rfl
  have branch : (starting first second third text).encodeLine tokenOf 6
      ⟨third, ⟨.brS, .target first⟩⟩ s' = .ok [0x2b, 0xf8] s' :=
    encodeLine_of_no_string (show Opcode.brS.operandKind ≠ .string by decide) displacement s'
  have one : 0 + width (⟨first, .anchor⟩ : Line) = 1 := rfl
  have six : 1 + width (⟨second, ⟨.ldstr, .string text⟩⟩ : Line) = 6 := rfl
  rw [encode_eq (by rw [codeSize_eq, lines]; show 8 < _; decide), lines, encodeFrom,
    Stateful.bind_of_ok anchor, one, encodeFrom, Stateful.bind_of_ok load, six, encodeFrom,
    Stateful.bind_of_ok branch, encodeFrom]
  exact Stateful.pure_eq_ok.2 ⟨by simp, rfl⟩

/-- Code that loads a greeting and starts again. -/
def greeting : Body :=
  .starting ⟨0⟩ ⟨1⟩ ⟨2⟩ "hi"

/-- Number strings in the order in which they are asked for. -/
def numbering (_ : String) : StateM Nat UInt32 := fun n => (UInt32.ofNat (0x70000001 + n), n + 1)

theorem encode_greeting :
    greeting.encode numbering 0 = .ok #[0, 0x72, 1, 0, 0, 0x70, 0x2b, 0xf8] 1 := by
  have distinct : [(⟨0⟩ : Label), ⟨1⟩, ⟨2⟩].Nodup := by decide
  have asked : numbering "hi" 0 = (0x70000001, 1) := rfl
  exact encode_starting distinct asked

/-- The branch of this code takes the last two of its eight bytes, and one token is asked for. -/
theorem encode_slices_greeting :
    greeting.encode numbering 0 = .ok #[0, 0x72, 1, 0, 0, 0x70, 0x2b, 0xf8] 1 ∧
    greeting.codeSize = 8 ∧
    ∃ answers, (stringsOf greeting.lines).mapM numbering 0 = (answers, 1) ∧
      ∃ value field, greeting.resolved? answers[1]? (.target ⟨0⟩) = some value ∧
        FieldDenotes 8 .shortBranch value field ∧
        (#[0, 0x72, 1, 0, 0, 0x70, 0x2b, 0xf8].extract 6 8).toList = [0x2b] ++ field := by
  have placed : greeting.layout.at? 2 = some (6, ⟨⟨2⟩, ⟨.brS, .target ⟨0⟩⟩⟩) := rfl
  obtain ⟨size, answers, asked, _, slices⟩ := encode_slices encode_greeting
  obtain ⟨_, value, field, resolved, denotes, slice⟩ := slices 2 6 _ placed
  exact ⟨encode_greeting, size.symm, answers, asked, value, field, resolved, denotes, slice⟩

/-! ## §3 Equal code -/

/-- Equal bytes come from lines of equal widths. -/
theorem SpellsAll.widths_eq {b' : Body} {offset : Nat} {lines lines' : List Line}
    {answers answers' : List UInt32} {bytes bytes' : List UInt8}
    (h : b.SpellsAll offset lines answers bytes) (h' : b'.SpellsAll offset lines' answers' bytes')
    (same : bytes = bytes') : lines.map width = lines'.map width := by
  -- bytes are left exactly as long as lines are left, since no line is empty
  induction h generalizing lines' answers' bytes' with
  | nil =>
    cases h' with
    | nil => rfl
    | @cons _ line _ _ _ _ _ _ spells _ =>
      have nonempty := width_pos line
      rw [← spells.2.1, (List.append_eq_nil_iff.1 same.symm).1] at nonempty
      cases nonempty
  | @cons _ line _ _ _ _ _ _ spells _ ih =>
    cases h' with
    | nil =>
      have nonempty := width_pos line
      rw [← spells.2.1, (List.append_eq_nil_iff.1 same).1] at nonempty
      cases nonempty
    | cons _ spells' others' =>
      obtain ⟨_, widths, behind, _⟩ := spells.append_inj spells' same
      rw [List.map_cons, List.map_cons, widths, ih (widths ▸ others') behind]

/-- The lines at a position of equal code start at the same offset and agree in the opcode and in
    what the operand is resolved to. -/
theorem SpellsAll.agree_at {b' : Body} {lines lines' : List Line} {answers answers' : List UInt32}
    {bytes : List UInt8} (h : b.SpellsAll 0 lines answers bytes)
    (h' : b'.SpellsAll 0 lines' answers' bytes) {i : Nat} {line line' : Line}
    (here : lines[i]? = some line) (here' : lines'[i]? = some line') :
    totalWidth (lines.take i) = totalWidth (lines'.take i) ∧
      line.instruction.opcode = line'.instruction.opcode ∧
      ∃ value,
        b.resolved? answers[(stringsOf (lines.take i)).length]? line.instruction.operand =
          some value ∧
        b'.resolved? answers'[(stringsOf (lines'.take i)).length]? line'.instruction.operand =
          some value := by
  have widths := h.widths_eq h' rfl
  have before : totalWidth (lines.take i) = totalWidth (lines'.take i) := by
    rw [totalWidth_eq_foldr, totalWidth_eq_foldr, List.map_take, List.map_take, widths]
  have wide : width line = width line' := by
    have same := congrArg (·[i]?) widths
    simpa [here, here'] using same
  -- both lines have the same slice of the code
  have slice := h.at_position here
  have slice' := h'.at_position here'
  rw [← before, ← wide] at slice'
  obtain ⟨opcode, _, _, value, resolved, resolved'⟩ :=
    slice.append_inj slice' (show _ ++ [] = _ ++ [] from rfl)
  exact ⟨before, opcode, value, resolved, resolved'⟩

/-- Code determines the lines that it was encoded from up to the choice of labels and references:
    their number, their offsets, their opcodes and what their operands are resolved to. -/
theorem encode_uniquely_decodable {b' : Body} {τ : Type} {tokenOf' : String → StateM τ UInt32}
    {code : Array UInt8} {s s' : σ} {t t' : τ} (encoded : b.encode tokenOf s = .ok code s')
    (encoded' : b'.encode tokenOf' t = .ok code t') :
    b.length = b'.length ∧
    ∃ answers answers', (stringsOf b.lines).mapM tokenOf s = (answers, s') ∧
      (stringsOf b'.lines).mapM tokenOf' t = (answers', t') ∧
      ∀ i offset line offset' line', b.layout.at? i = some (offset, line) →
        b'.layout.at? i = some (offset', line') →
        offset = offset' ∧ line.instruction.opcode = line'.instruction.opcode ∧
        ∃ value,
          b.resolved? answers[(stringsOf (b.lines.take i)).length]? line.instruction.operand =
            some value ∧
          b'.resolved? answers'[(stringsOf (b'.lines.take i)).length]? line'.instruction.operand =
            some value := by
  obtain ⟨answers, asked, spells⟩ := spellsAll_of_encode encoded
  obtain ⟨answers', asked', spells'⟩ := spellsAll_of_encode encoded'
  refine ⟨?_, answers, answers', asked, asked', fun i offset line offset' line' here here' => ?_⟩
  -- as many widths as lines
  · have widths := congrArg List.length (spells.widths_eq spells' rfl)
    rwa [List.length_map, List.length_map, lines, lines, Layout.length_elements,
      Layout.length_elements] at widths
  · rw [Layout.at?_eq, Option.map_eq_some_iff] at here here'
    obtain ⟨_, there, same⟩ := here
    obtain ⟨_, there', same'⟩ := here'
    cases same
    cases same'
    exact spells.agree_at spells' there there'

/-- The same greeting in other words and with other labels. -/
def farewell : Body :=
  .starting ⟨7⟩ ⟨5⟩ ⟨9⟩ "bye"

/-- If both strings get the same token, both bodies have the same code, and both branches lead to
    the same offset. -/
theorem encode_uniquely_decodable_farewell :
    greeting.encode numbering 0 = .ok #[0, 0x72, 1, 0, 0, 0x70, 0x2b, 0xf8] 1 ∧
    farewell.encode (fun _ => pure 0x70000001 : String → StateM Unit UInt32) () =
      .ok #[0, 0x72, 1, 0, 0, 0x70, 0x2b, 0xf8] () ∧
    ∃ answers answers', (stringsOf greeting.lines).mapM numbering 0 = (answers, 1) ∧
      (stringsOf farewell.lines).mapM (fun _ => pure 0x70000001 : String → StateM Unit UInt32) () =
        (answers', ()) ∧
      ∃ value, greeting.resolved? answers[1]? (.target ⟨0⟩) = some value ∧
        farewell.resolved? answers'[1]? (.target ⟨7⟩) = some value := by
  have encoded' : farewell.encode (fun _ => pure 0x70000001 : String → StateM Unit UInt32) () =
      .ok #[0, 0x72, 1, 0, 0, 0x70, 0x2b, 0xf8] () := by
    have distinct : [(⟨7⟩ : Label), ⟨5⟩, ⟨9⟩].Nodup := by decide
    exact @encode_starting _ (fun _ => pure 0x70000001) _ _ _ distinct "bye" () () 0x70000001 rfl
  have placed : greeting.layout.at? 2 = some (6, ⟨⟨2⟩, ⟨.brS, .target ⟨0⟩⟩⟩) := rfl
  have placed' : farewell.layout.at? 2 = some (6, ⟨⟨9⟩, ⟨.brS, .target ⟨7⟩⟩⟩) := rfl
  obtain ⟨_, answers, answers', asked, asked', agree⟩ :=
    encode_uniquely_decodable encode_greeting encoded'
  obtain ⟨_, _, value, resolved, resolved'⟩ := agree 2 6 _ 6 _ placed placed'
  exact ⟨encode_greeting, encoded', answers, answers', asked, asked', value, resolved, resolved'⟩

end Body

end Devirt
