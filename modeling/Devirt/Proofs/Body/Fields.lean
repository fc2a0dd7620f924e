import Devirt.Body.Encoding
import Devirt.Proofs.Body.Resolution
import Devirt.Proofs.Numeric.SignedFields
import Devirt.Proofs.Opcode.PrefixCode
import Devirt.Proofs.Runs

/-!
# Fields of Encoded Lines

What the bytes of an encoded line say, read off the bytes and not off the function that writes them.
An operand is resolved before it is written: labels become offsets, and members, signatures and
strings become tokens. The field behind an opcode holds the resolved operand with its least
significant byte first, and branches count from the end of their line.

Main statements:
- `ResolvedOperand`, `Body.resolved?`: operands as encoded code has them.
- `FieldDenotes`, `Body.Spells`: what a field says, and what the bytes of a line say.
- `Body.spells_of_encodeLine`: an encoded line says what the line is.
- `Body.encode_eq`: code is encoded line by line.
- `Body.Spells.append_inj`: the bytes of a line are found again at the start of longer code.
-/

namespace Devirt

open Numeric

/-! ## §1 Resolved operands -/

/-- An operand as encoded code has it. -/
inductive ResolvedOperand where
  | nothing
  /-- Where a branch leads. -/
  | offset (target : Nat)
  /-- Where the entries of a jump table lead. -/
  | offsets (targets : List Nat)
  | int8 (value : Int8)
  | int32 (value : Int32)
  | int64 (value : Int64)
  | float32 (bits : UInt32)
  | float64 (bits : UInt64)
  /-- What stands for a member, a signature or a string. -/
  | token (token : UInt32)
  /-- The number of a local variable or an argument. -/
  | slot (index : UInt16)
  deriving DecidableEq, Repr

/-- Resolve the labels and references of an operand. The token of a string is given, if there is
    one. -/
def Body.resolved? (b : Body) (answer : Option UInt32) : Operand → Option ResolvedOperand
  | .none => some .nothing
  | .target label => (b.offset? label).map .offset
  | .switch labels => (labels.mapM b.offset?).map .offsets
  | .int8 value => some (.int8 value)
  | .int32 value => some (.int32 value)
  | .int64 value => some (.int64 value)
  | .float32 bits => some (.float32 bits)
  | .float64 bits => some (.float64 bits)
  | .string _ => answer.map .token
  | .member m => some (.token m.token)
  | .signature s => some (.token s.token)
  | .localSlot index | .argumentSlot index => some (.slot index)

/-! ## §2 What fields say -/

/-- The field has so many bytes and holds the number. -/
def Holds (width n : Nat) (field : List UInt8) : Prop :=
  field.length = width ∧ ofLittleEndian field = n

/-- The field has so many bytes and holds the signed number. -/
def HoldsSigned (width : Nat) (n : Int) (field : List UInt8) : Prop :=
  field.length = width ∧ ofSignedLittleEndian field = n

/-- The field has so many bytes and holds the displacement from one offset to another. -/
def Leads (width source target : Nat) (field : List UInt8) : Prop :=
  field.length = width ∧ (source : Int) + ofSignedLittleEndian field = target

/-- Does the kind of operand ask for a token? -/
def OperandKind.isReference : OperandKind → Bool
  | .field | .method | .type | .token | .signature | .string => true
  | _ => false

/-- Number of bytes for the number of a local variable or an argument. -/
def OperandKind.slotWidth? : OperandKind → Option Nat
  | .localSlot | .argumentSlot => some 2
  | .shortLocalSlot | .shortArgumentSlot => some 1
  | _ => Option.none

/-- The field behind an opcode with the given kind of operand, in a line that ends at `stop`, says
    what the operand is. -/
inductive FieldDenotes (stop : Nat) : OperandKind → ResolvedOperand → List UInt8 → Prop where
  | nothing : FieldDenotes stop .none .nothing []
  /-- Displacements count from the end of the line. -/
  | shortBranch {target : Nat} {field : List UInt8} : Leads 1 stop target field →
      FieldDenotes stop .shortBranch (.offset target) field
  | branch {target : Nat} {field : List UInt8} : Leads 4 stop target field →
      FieldDenotes stop .branch (.offset target) field
  /-- A table starts with the number of its entries, and all of them count from its end. -/
  | switch {targets : List Nat} {count : List UInt8} {entries : List (List UInt8)} :
      Holds 4 targets.length count → List.Forall₂ (Leads 4 stop) targets entries →
      FieldDenotes stop .switch (.offsets targets) (count ++ entries.flatten)
  | int8 {value : Int8} {field : List UInt8} : HoldsSigned 1 value.toInt field →
      FieldDenotes stop .int8 (.int8 value) field
  | int32 {value : Int32} {field : List UInt8} : HoldsSigned 4 value.toInt field →
      FieldDenotes stop .int32 (.int32 value) field
  | int64 {value : Int64} {field : List UInt8} : HoldsSigned 8 value.toInt field →
      FieldDenotes stop .int64 (.int64 value) field
  | float32 {bits : UInt32} {field : List UInt8} : Holds 4 bits.toNat field →
      FieldDenotes stop .float32 (.float32 bits) field
  | float64 {bits : UInt64} {field : List UInt8} : Holds 8 bits.toNat field →
      FieldDenotes stop .float64 (.float64 bits) field
  | token {kind : OperandKind} {token : UInt32} {field : List UInt8} : kind.isReference = true →
      Holds 4 token.toNat field → FieldDenotes stop kind (.token token) field
  | slot {kind : OperandKind} {width : Nat} {index : UInt16} {field : List UInt8} :
      kind.slotWidth? = some width → Holds width index.toNat field →
      FieldDenotes stop kind (.slot index) field

/-! ## §3 Widths of fields -/

theorem OperandKind.baseWidth_of_isReference {kind : OperandKind} (h : kind.isReference = true) :
    kind.baseWidth = 4 := by
  cases kind <;> first | rfl | cases h

theorem OperandKind.baseWidth_of_slotWidth? {kind : OperandKind} {width : Nat}
    (h : kind.slotWidth? = some width) : kind.baseWidth = width := by
  cases kind <;> cases h <;> rfl

theorem OperandKind.slotWidth?_of_isReference {kind : OperandKind} (h : kind.isReference = true) :
    kind.slotWidth? = Option.none := by
  cases kind <;> first | rfl | cases h

/-- A field that is no table has the width that belongs to its kind. -/
theorem FieldDenotes.length_of_ne_switch {stop : Nat} {kind : OperandKind} {value : ResolvedOperand}
    {field : List UInt8} (denotes : FieldDenotes stop kind value field) (fixed : kind ≠ .switch) :
    field.length = kind.baseWidth := by
  cases denotes with
  | nothing => rfl
  | shortBranch leads | branch leads => exact leads.1
  | int8 holds | int32 holds | int64 holds | float32 holds | float64 holds => exact holds.1
  | switch => exact absurd rfl fixed
  | token reference holds => rw [holds.1, OperandKind.baseWidth_of_isReference reference]
  | slot width holds => rw [holds.1, OperandKind.baseWidth_of_slotWidth? width]

/-- The entries of a table are four bytes each. -/
theorem length_flatten_of_leads {stop : Nat} {targets : List Nat} {entries : List (List UInt8)}
    (leads : List.Forall₂ (Leads 4 stop) targets entries) :
    entries.flatten.length = 4 * targets.length := by
  induction leads with
  | nil => rfl
  | cons here _ ih =>
    rw [List.flatten_cons, List.length_append, here.1, ih, List.length_cons]
    omega

/-- Number of bytes of the field that some bytes start with. A table tells the number of its
    entries. -/
def OperandKind.extent (kind : OperandKind) (bytes : List UInt8) : Nat :=
  match kind with
  | .switch => 4 + 4 * ofLittleEndian (bytes.take 4)
  | kind => kind.baseWidth

theorem OperandKind.extent_of_ne_switch {kind : OperandKind} (fixed : kind ≠ .switch)
    (bytes : List UInt8) : kind.extent bytes = kind.baseWidth := by
  unfold extent
  split
  next => exact absurd rfl fixed
  next => rfl

/-- What follows a field does not matter for its width. -/
theorem FieldDenotes.extent_append {stop : Nat} {kind : OperandKind} {value : ResolvedOperand}
    {field : List UInt8} (denotes : FieldDenotes stop kind value field) (rest : List UInt8) :
    kind.extent (field ++ rest) = field.length := by
  by_cases table : kind = .switch
  · cases denotes with
    | switch count leads =>
      rw [OperandKind.extent, List.append_assoc, List.take_left' count.1, count.2,
        List.length_append, count.1, length_flatten_of_leads leads]
    -- the kind of a table denotes nothing else
    | token reference => rw [table] at reference; cases reference
    | slot width => rw [table] at width; cases width
    | _ => cases table
  · rw [OperandKind.extent_of_ne_switch table, denotes.length_of_ne_switch table]

theorem Operand.width_of_ne_switch {kind : OperandKind} (operand : Operand)
    (fixed : kind ≠ .switch) : operand.width kind = kind.baseWidth := by
  unfold width
  split
  next => exact absurd rfl fixed
  next => rfl

/-- A field is as wide as the operand that it denotes. -/
theorem FieldDenotes.length_eq {b : Body} {answer : Option UInt32} {operand : Operand}
    {kind : OperandKind} {stop : Nat} {value : ResolvedOperand} {field : List UInt8}
    (denotes : FieldDenotes stop kind value field) (fits : operand.fits kind = true)
    (resolved : b.resolved? answer operand = some value) : field.length = operand.width kind := by
  by_cases table : kind = .switch
  · subst table
    cases operand <;> cases fits
    obtain ⟨offsets, found, rfl⟩ := Option.map_eq_some_iff.1 resolved
    have length := (Optional.mapM_eq_some.1 found).length_eq
    cases denotes with
    | switch count leads =>
      rw [List.length_append, count.1, length_flatten_of_leads leads, ← length, Operand.width]
  · rw [denotes.length_of_ne_switch table, operand.width_of_ne_switch table]

/-! ## §4 Fields that are written -/

theorem holds_littleEndian {width n : Nat} (fits : n < fieldCapacity width) :
    Holds width n (littleEndian width n) :=
  ⟨length_littleEndian width n, ofLittleEndian_of_lt fits⟩

namespace Body

variable {b : Body}

/-- The displacement of a branch leads to the offset of its target. -/
theorem leads_of_branchField {label target : Label} {stop bytes : Nat} {field : List UInt8}
    (h : b.branchField label stop bytes target = .ok field) :
    ∃ offset, b.offset? target = some offset ∧ Leads bytes stop offset field := by
  obtain ⟨n, known, written⟩ := Fallible.bind_eq_ok.1 h
  unfold distance at known
  split at known
  next offset found =>
    obtain rfl := Except.ok.inj known
    split at written
    next fits =>
      obtain rfl := Fallible.pure_eq_ok.1 written
      refine ⟨offset, found, length_signedLittleEndian bytes _, ?_⟩
      -- the check has made sure that the displacement is read back as it was
      rw [ofSignedLittleEndian_signedLittleEndian fits, Layout.displacement]
      omega
    next => cases written
  next => cases known

/-- The displacements of a table lead to the offsets of its targets. -/
theorem leads_of_mapM_branchField {label : Label} {targets : List Label} {stop : Nat}
    {entries : List (List UInt8)} (h : targets.mapM (b.branchField label stop 4) = .ok entries) :
    ∃ offsets, targets.mapM b.offset? = some offsets ∧
      List.Forall₂ (Leads 4 stop) offsets entries := by
  have each := Fallible.mapM_eq_ok.1 h
  simp only [Optional.mapM_eq_some]
  clear h
  -- on targets and entries side by side: each entry brings its offset along
  induction each with
  | nil => exact ⟨[], .nil, .nil⟩
  | cons here _ ih =>
    obtain ⟨offset, found, leads⟩ := leads_of_branchField here
    obtain ⟨offsets, known, rest⟩ := ih
    exact ⟨offset :: offsets, .cons found known, .cons leads rest⟩

/-- A line with a table is wider than the table has entries. -/
theorem length_targets_lt_width {line : Line} {targets : List Label}
    (kind : line.instruction.opcode.operandKind = .switch)
    (operand : line.instruction.operand = .switch targets) : targets.length < width line := by
  show targets.length < line.instruction.opcode.size +
    line.instruction.operand.width line.instruction.opcode.operandKind
  rw [kind, operand, Operand.width]
  omega

/-- A field that is written says what the operand is. Strings are not its business. -/
theorem denotes_of_operandField {line : Line} {stop : Nat} {field : List UInt8}
    (small : width line < 0x100000000) (h : b.operandField line stop = .ok field)
    (answer : Option UInt32) :
    line.instruction.isWellFormed = true ∧
      ∃ value, b.resolved? answer line.instruction.operand = some value ∧
        FieldDenotes stop line.instruction.opcode.operandKind value field := by
  unfold operandField at h
  dsimp only at h
  unfold Instruction.isWellFormed
  split at h
  case h_1 kind operand =>
    obtain rfl := Fallible.pure_eq_ok.1 h
    rw [kind, operand]
    exact ⟨rfl, _, rfl, .nothing⟩
  -- branches, and tables of them
  case h_2 target kind operand =>
    obtain ⟨offset, found, leads⟩ := leads_of_branchField h
    rw [kind, operand, resolved?, found]
    exact ⟨rfl, _, rfl, .shortBranch leads⟩
  case h_3 target kind operand =>
    obtain ⟨offset, found, leads⟩ := leads_of_branchField h
    rw [kind, operand, resolved?, found]
    exact ⟨rfl, _, rfl, .branch leads⟩
  case h_4 targets kind operand =>
    obtain ⟨entries, written, h⟩ := Fallible.bind_eq_ok.1 h
    obtain rfl := Fallible.pure_eq_ok.1 h
    obtain ⟨offsets, found, leads⟩ := leads_of_mapM_branchField written
    rw [kind, operand, resolved?, found]
    -- a line of that width has room for the number of entries
    have length : offsets.length = targets.length :=
      leads.length_eq.trans (Fallible.mapM_eq_ok.1 written).length_eq.symm
    have entriesFit := Nat.lt_trans (length_targets_lt_width kind operand) small
    exact ⟨rfl, _, rfl, .switch (length.symm ▸ holds_littleEndian entriesFit) leads⟩
  -- constants
  case h_5 value kind operand =>
    obtain rfl := Fallible.pure_eq_ok.1 h
    rw [kind, operand]
    exact ⟨rfl, _, rfl, .int8 ⟨length_littleEndian _ _, ofSignedLittleEndian_int8 value⟩⟩
  case h_6 value kind operand =>
    obtain rfl := Fallible.pure_eq_ok.1 h
    rw [kind, operand]
    exact ⟨rfl, _, rfl, .int32 ⟨length_littleEndian _ _, ofSignedLittleEndian_int32 value⟩⟩
  case h_7 value kind operand =>
    obtain rfl := Fallible.pure_eq_ok.1 h
    rw [kind, operand]
    exact ⟨rfl, _, rfl, .int64 ⟨length_littleEndian _ _, ofSignedLittleEndian_int64 value⟩⟩
  case h_8 bits kind operand =>
    obtain rfl := Fallible.pure_eq_ok.1 h
    rw [kind, operand]
    exact ⟨rfl, _, rfl, .float32 (holds_littleEndian bits.toNat_lt)⟩
  case h_9 bits kind operand =>
    obtain rfl := Fallible.pure_eq_ok.1 h
    rw [kind, operand]
    exact ⟨rfl, _, rfl, .float64 (holds_littleEndian bits.toNat_lt)⟩
  -- references
  case h_10 m kind operand | h_11 m kind operand | h_12 m kind operand | h_13 m kind operand =>
    obtain rfl := Fallible.pure_eq_ok.1 h
    rw [kind, operand]
    exact ⟨rfl, _, rfl, .token rfl (holds_littleEndian m.token.toNat_lt)⟩
  case h_14 signature kind operand =>
    obtain rfl := Fallible.pure_eq_ok.1 h
    rw [kind, operand]
    exact ⟨rfl, _, rfl, .token rfl (holds_littleEndian signature.token.toNat_lt)⟩
  -- numbers of variables
  case h_15 index kind operand | h_16 index kind operand =>
    obtain rfl := Fallible.pure_eq_ok.1 h
    rw [kind, operand]
    exact ⟨rfl, _, rfl, .slot rfl (holds_littleEndian index.toNat_lt)⟩
  case h_17 index kind operand | h_18 index kind operand =>
    split at h
    next small =>
      obtain rfl := Fallible.pure_eq_ok.1 h
      rw [kind, operand]
      exact ⟨rfl, _, rfl, .slot rfl (holds_littleEndian small)⟩
    next => cases h
  case h_19 => cases h

end Body

/-! ## §5 Lines -/

/-- The strings that an instruction asks tokens for. -/
def Instruction.strings (i : Instruction) : List String :=
  match i.operand with
  | .string value => if i.opcode = .ldstr then [value] else []
  | _ => []

/-- Operands that are strings belong to one opcode. -/
theorem Opcode.operandKind_eq_string_iff {o : Opcode} : o.operandKind = .string ↔ o = .ldstr := by
  have table : ∀ o ∈ all, o.operandKind = .string ↔ o = .ldstr := by decide +kernel
  exact table o o.mem_all

theorem Instruction.strings_of_string {i : Instruction} {value : String}
    (kind : i.opcode.operandKind = .string) (operand : i.operand = .string value) :
    i.strings = [value] := by
  simp [strings, operand, Opcode.operandKind_eq_string_iff.1 kind]

theorem Instruction.strings_of_no_string {i : Instruction}
    (absent : ∀ value, i.opcode.operandKind = .string → i.operand = .string value → False) :
    i.strings = [] := by
  unfold strings
  split
  next value operand =>
    exact if_neg fun same => absent value (Opcode.operandKind_eq_string_iff.2 same) operand
  next => rfl

/-- The strings that code asks tokens for, in order. -/
def stringsOf (lines : List Line) : List String :=
  lines.flatMap fun line => line.instruction.strings

theorem stringsOf_cons (line : Line) (lines : List Line) :
    stringsOf (line :: lines) = line.instruction.strings ++ stringsOf lines :=
  List.flatMap_cons

namespace Body

/-- The bytes of a line that starts at the offset: those of its opcode, then a field that says what
    its operand is. The token of a string is given, if there is one. -/
def Spells (b : Body) (offset : Nat) (line : Line) (answer : Option UInt32) (bytes : List UInt8) :
    Prop :=
  line.instruction.isWellFormed = true ∧ bytes.length = width line ∧
    ∃ value field, b.resolved? answer line.instruction.operand = some value ∧
      FieldDenotes (offset + width line) line.instruction.opcode.operandKind value field ∧
      bytes = line.instruction.opcode.encoding ++ field

variable {b : Body} {σ : Type} {tokenOf : String → StateM σ UInt32}

/-- Tokens are asked for the strings of a line before those of the lines behind it. -/
theorem mapM_stringsOf_cons (line : Line) (lines : List Line) (s : σ) :
    (stringsOf (line :: lines)).mapM tokenOf s =
      let (own, s₁) := line.instruction.strings.mapM tokenOf s
      let (answers, s₂) := (stringsOf lines).mapM tokenOf s₁
      (own ++ answers, s₂) := by
  rw [stringsOf_cons, List.mapM_append]
  rfl

/-- The field of a line with a string is the token that is asked for. -/
theorem encodeLine_of_string {line : Line} {offset : Nat} {value : String} {s s' : σ}
    {token : UInt32} (kind : line.instruction.opcode.operandKind = .string)
    (operand : line.instruction.operand = .string value) (asked : tokenOf value s = (token, s')) :
    b.encodeLine tokenOf offset line s =
      .ok (line.instruction.opcode.encoding ++ littleEndian 4 token.toNat) s' := by
  simp only [encodeLine, kind, operand, asked]

/-- All other lines have fields that depend on nothing but the body. -/
theorem encodeLine_of_no_string {line : Line} {offset : Nat} {field : List UInt8}
    (noString : line.instruction.opcode.operandKind ≠ .string)
    (written : b.operandField line (offset + width line) = .ok field) (s : σ) :
    b.encodeLine tokenOf offset line s = .ok (line.instruction.opcode.encoding ++ field) s := by
  unfold encodeLine
  dsimp only
  split
  next value kind operand => exact absurd kind noString
  next => rw [written]

/-- The bytes of a line say what the line is. A token is asked for exactly if there is a string. -/
theorem spells_of_encodeLine {line : Line} {offset : Nat} {bytes : List UInt8} {s s' : σ}
    (small : width line < 0x100000000)
    (h : b.encodeLine tokenOf offset line s = .ok bytes s') :
    ∃ answers, line.instruction.strings.mapM tokenOf s = (answers, s') ∧
      answers.length = line.instruction.strings.length ∧
      b.Spells offset line answers.head? bytes := by
  -- the opcode is written in the same way whatever follows it
  have spells : ∀ answer field value, line.instruction.isWellFormed = true →
      b.resolved? answer line.instruction.operand = some value →
      FieldDenotes (offset + width line) line.instruction.opcode.operandKind value field →
      b.Spells offset line answer (line.instruction.opcode.encoding ++ field) := by
    intro answer field value form resolved denotes
    refine ⟨form, ?_, value, field, resolved, denotes, rfl⟩
    rw [List.length_append, Opcode.length_encoding, denotes.length_eq form resolved]
    rfl
  unfold encodeLine at h
  dsimp only at h
  split at h
  next value kind operand =>
    obtain ⟨rfl, rfl⟩ := EStateM.Result.ok.inj h
    have form : line.instruction.isWellFormed = true := by
      rw [Instruction.isWellFormed, kind, operand]
      rfl
    rw [Instruction.strings_of_string kind operand]
    refine ⟨[(tokenOf value s).1], rfl, rfl, ?_⟩
    refine spells _ _ (.token (tokenOf value s).1) form (by rw [operand]; rfl) ?_
    rw [kind]
    exact .token rfl (holds_littleEndian (tokenOf value s).1.toNat_lt)
  next noString =>
    split at h
    next field written =>
      obtain ⟨rfl, rfl⟩ := EStateM.Result.ok.inj h
      obtain ⟨form, value, resolved, denotes⟩ := denotes_of_operandField small written none
      rw [Instruction.strings_of_no_string noString]
      exact ⟨[], rfl, rfl, spells _ _ value form resolved denotes⟩
    next => cases h

/-- Encode lines one behind the other, the first of which starts at the offset. -/
def encodeFrom (b : Body) (tokenOf : String → StateM σ UInt32) :
    (offset : Nat) → List Line → Array UInt8 → EStateM BodyError σ (Array UInt8)
  | _, [], code => pure code
  | offset, line :: lines, code => do
    let bytes ← b.encodeLine tokenOf offset line
    b.encodeFrom tokenOf (offset + width line) lines (code ++ bytes)

theorem encodeFrom_append {offset : Nat} (lines lines' : List Line) (code : Array UInt8) :
    b.encodeFrom tokenOf offset (lines ++ lines') code =
      b.encodeFrom tokenOf offset lines code >>=
        b.encodeFrom tokenOf (offset + totalWidth lines) lines' := by
  induction lines generalizing offset code with
  | nil => simp [encodeFrom, totalWidth]
  | cons line lines ih =>
    simp only [List.cons_append, encodeFrom, ih, bind_assoc, totalWidth, Nat.add_assoc]

/-- Code that is not too long is encoded line by line. -/
theorem encode_eq (small : b.codeSize < 0x100000000) :
    b.encode tokenOf = b.encodeFrom tokenOf 0 b.lines #[] := by
  have fold (offset : Nat) (lines : List Line) (code : Array UInt8) :
      (placeFrom offset lines).foldlM (fun code place => do
        return code ++ (← b.encodeLine tokenOf place.1 place.2)) code =
          b.encodeFrom tokenOf offset lines code := by
    induction lines generalizing offset code with
    | nil => rfl
    | cons line lines ih =>
      simp only [placeFrom, List.foldlM_cons, encodeFrom, bind_assoc, pure_bind, ih]
  have entries : b.layout.entries.toList = placeFrom 0 b.lines := b.layout.entries_eq
  rw [← fold, ← entries, Array.foldlM_toList, encode, if_neg (Nat.not_le.2 small)]

end Body

/-! ## §6 Fields that are read -/

/-- Displacements from one place lead to one target. -/
theorem Leads.target_eq {width source target target' : Nat} {field : List UInt8}
    (h : Leads width source target field) (h' : Leads width source target' field) :
    target = target' :=
  Int.natCast_inj.1 (h.2.symm.trans h'.2)

/-- The entries of a table are found again in its bytes. -/
theorem targets_eq_of_leads {stop : Nat} {targets targets' : List Nat}
    {entries entries' : List (List UInt8)} (leads : List.Forall₂ (Leads 4 stop) targets entries)
    (leads' : List.Forall₂ (Leads 4 stop) targets' entries')
    (same : entries.flatten = entries'.flatten) : targets = targets' := by
  induction leads generalizing targets' entries' with
  | nil =>
    -- no bytes, no entries
    have empty := length_flatten_of_leads leads'
    rw [← same, List.flatten_nil, List.length_nil] at empty
    exact (List.eq_nil_of_length_eq_zero (by omega)).symm
  | cons here rest ih =>
    cases leads' with
    | nil =>
      -- an entry has four bytes, so it is missed
      have four := here.1
      rw [List.flatten_cons, List.flatten_nil, List.append_eq_nil_iff] at same
      rw [same.1] at four
      cases four
    | cons here' rest' =>
      rw [List.flatten_cons, List.flatten_cons] at same
      obtain ⟨rfl, behind⟩ := List.append_inj same (here.1.trans here'.1.symm)
      rw [here.target_eq here', ih rest' behind]

/-- A field denotes one operand only. -/
theorem FieldDenotes.unique {stop : Nat} {kind : OperandKind} {value value' : ResolvedOperand}
    {field field' : List UInt8} (h : FieldDenotes stop kind value field)
    (h' : FieldDenotes stop kind value' field') (same : field = field') : value = value' := by
  cases h <;> cases h'
  case nothing.nothing => rfl
  case shortBranch.shortBranch leads _ leads' | branch.branch leads _ leads' =>
    rw [leads.target_eq (same ▸ leads')]
  case switch.switch count leads _ _ _ count' leads' =>
    obtain ⟨_, same⟩ := List.append_inj same (count.1.trans count'.1.symm)
    rw [targets_eq_of_leads leads leads' same]
  -- equal fields hold equal numbers
  case int8.int8 holds _ holds' => rw [Int8.toInt_inj.1 (holds.2.symm.trans (same ▸ holds'.2))]
  case int32.int32 holds _ holds' => rw [Int32.toInt_inj.1 (holds.2.symm.trans (same ▸ holds'.2))]
  case int64.int64 holds _ holds' => rw [Int64.toInt_inj.1 (holds.2.symm.trans (same ▸ holds'.2))]
  case float32.float32 holds _ holds' =>
    rw [UInt32.toNat_inj.1 (holds.2.symm.trans (same ▸ holds'.2))]
  case float64.float64 holds _ holds' =>
    rw [UInt64.toNat_inj.1 (holds.2.symm.trans (same ▸ holds'.2))]
  case token.token holds _ _ holds' =>
    rw [UInt32.toNat_inj.1 (holds.2.symm.trans (same ▸ holds'.2))]
  case slot.slot holds _ _ _ holds' =>
    rw [UInt16.toNat_inj.1 (holds.2.symm.trans (same ▸ holds'.2))]
  -- no kind asks for two forms of operands
  case token.slot reference _ _ _ width _ =>
    simp [OperandKind.slotWidth?_of_isReference reference] at width
  case slot.token width _ _ reference _ =>
    simp [OperandKind.slotWidth?_of_isReference reference] at width
  all_goals simp_all [OperandKind.isReference, OperandKind.slotWidth?]

namespace Body

/-- The bytes of a line are found again at the start of longer code: they tell the opcode, the width
    and the operand of the line. -/
theorem Spells.append_inj {b b' : Body} {offset : Nat} {line line' : Line}
    {answer answer' : Option UInt32} {bytes bytes' rest rest' : List UInt8}
    (h : b.Spells offset line answer bytes) (h' : b'.Spells offset line' answer' bytes')
    (same : bytes ++ rest = bytes' ++ rest') :
    line.instruction.opcode = line'.instruction.opcode ∧ width line = width line' ∧ rest = rest' ∧
      ∃ value, b.resolved? answer line.instruction.operand = some value ∧
        b'.resolved? answer' line'.instruction.operand = some value := by
  obtain ⟨_, length, value, field, resolved, denotes, rfl⟩ := h
  obtain ⟨_, length', value', field', resolved', denotes', rfl⟩ := h'
  rw [List.append_assoc, List.append_assoc] at same
  obtain ⟨opcode, same⟩ := Opcode.encoding_append_inj same
  -- the same opcode asks for fields of the same kind, and so of the same extent
  rw [← opcode] at denotes' length'
  have extent : field.length = field'.length := by
    rw [← denotes.extent_append rest, ← denotes'.extent_append rest', same]
  obtain ⟨rfl, rfl⟩ := List.append_inj same extent
  have width := length.symm.trans length'
  rw [← width] at denotes'
  obtain rfl := denotes.unique denotes' rfl
  exact ⟨opcode, width, rfl, value, resolved, resolved'⟩

end Body

end Devirt
