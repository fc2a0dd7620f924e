import Devirt.Body.Basic
import Devirt.Body.Error
import Devirt.Numeric.LittleEndian

/-!
# Encoding Code

The code of a body is encoded line by line: the bytes of the opcode, then the operand with its
least significant byte first. Branch displacements count from the end of the branch. References
are encoded by their tokens; the token of a string comes from the caller, who may keep state
between strings, and that state outlives a failure.

Encoding stops at the first line that cannot be encoded.
-/

namespace Devirt

open Numeric (fitsSigned littleEndian signedLittleEndian)

namespace Body

/-- Signed number of bytes from the given offset to a line. -/
def distance (b : Body) (source : Nat) (target : Label) : Except BodyError Int :=
  match b.offset? target with
  | some offset => .ok (Layout.displacement source offset)
  | none => .error (.unknownLine target)

/-- The displacement field of a branch that ends at `stop`. -/
def branchField (b : Body) (label : Label) (stop bytes : Nat) (target : Label) :
    Except BodyError (List UInt8) := do
  let n ← b.distance stop target
  if fitsSigned bytes n then
    return signedLittleEndian bytes n
  else
    throw (.branchOutOfRange label n)

/-- The operand field of a line that ends at `stop`, if it does not carry a string. -/
def operandField (b : Body) (line : Line) (stop : Nat) : Except BodyError (List UInt8) :=
  let opcode := line.instruction.opcode
  match opcode.operandKind, line.instruction.operand with
  | .none, .none => return []
  | .shortBranch, .target target => b.branchField line.label stop 1 target
  | .branch, .target target => b.branchField line.label stop 4 target
  | .switch, .switch targets => do
    -- entries count from the end of the whole table
    let entries ← targets.mapM (b.branchField line.label stop 4)
    return littleEndian 4 targets.length ++ entries.flatten
  | .int8, .int8 value => return littleEndian 1 value.toUInt8.toNat
  | .int32, .int32 value => return littleEndian 4 value.toUInt32.toNat
  | .int64, .int64 value => return littleEndian 8 value.toUInt64.toNat
  | .float32, .float32 bits => return littleEndian 4 bits.toNat
  | .float64, .float64 bits => return littleEndian 8 bits.toNat
  | .field, .member m | .method, .member m | .type, .member m | .token, .member m =>
    return littleEndian 4 m.token.toNat
  | .signature, .signature s => return littleEndian 4 s.token.toNat
  | .localSlot, .localSlot index | .argumentSlot, .argumentSlot index =>
    return littleEndian 2 index.toNat
  | .shortLocalSlot, .localSlot index | .shortArgumentSlot, .argumentSlot index =>
    -- slots have numbers of 16 bits, of which a short form has room for eight
    if index.toNat < 256 then
      return littleEndian 1 index.toNat
    else
      throw (.operandOutOfRange line.label opcode)
  | _, _ => throw (.invalidOperand line.label opcode)

/-- The bytes of a line that starts at `offset`. -/
def encodeLine {σ : Type} (b : Body) (tokenOf : String → StateM σ UInt32) (offset : Nat)
    (line : Line) : EStateM BodyError σ (List UInt8) := fun s =>
  let opcode := line.instruction.opcode
  match opcode.operandKind, line.instruction.operand with
  | .string, .string value =>
    -- only strings change the state
    let (token, s) := tokenOf value s
    .ok (opcode.encoding ++ littleEndian 4 token.toNat) s
  | _, _ =>
    match b.operandField line (offset + width line) with
    | .ok field => .ok (opcode.encoding ++ field) s
    | .error e => .error e s

/-- Encode the code of a body. Its size has to fit in 32 bits. -/
def encode {σ : Type} (b : Body) (tokenOf : String → StateM σ UInt32) :
    EStateM BodyError σ (Array UInt8) := do
  if 0x100000000 ≤ b.codeSize then
    throw (.codeTooLong b.codeSize)
  b.layout.entries.foldlM (fun code (offset, line) => do
    return code ++ (← b.encodeLine tokenOf offset line)) #[]

end Body

end Devirt
