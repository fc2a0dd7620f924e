/-!
# Little-Endian Fields

Every multi-byte field of an encoded method body is stored with its least significant byte first.
`littleEndian w n` is the field of `w` bytes that holds `n` modulo its capacity, and
`ofLittleEndian` reads such a field back. Signed numbers are stored in two's complement.
-/

namespace Devirt.Numeric

/-- How many numbers a field of so many bytes can tell apart. -/
def fieldCapacity : (width : Nat) → Nat
  | 0 => 1
  | width + 1 => 256 * fieldCapacity width

/-- The `width` low-order bytes of `n`, least significant byte first. -/
def littleEndian : (width : Nat) → (n : Nat) → List UInt8
  | 0, _ => []
  | width + 1, n => UInt8.ofNat n :: littleEndian width (n / 256)

/-- The number that a field of bytes holds, least significant byte first. -/
def ofLittleEndian : List UInt8 → Nat
  | [] => 0
  | byte :: rest => byte.toNat + 256 * ofLittleEndian rest

/-- A field is exactly as wide as asked for. -/
@[simp] theorem length_littleEndian (width n : Nat) : (littleEndian width n).length = width := by
  induction width generalizing n with
  | zero => rfl
  | succ width ih => simp [littleEndian, ih]

/-- Reading a field back gives the number modulo the capacity of the field. -/
theorem ofLittleEndian_littleEndian (width n : Nat) :
    ofLittleEndian (littleEndian width n) = n % fieldCapacity width := by
  induction width generalizing n with
  | zero => simp [littleEndian, ofLittleEndian, fieldCapacity, Nat.mod_one]
  | succ width ih =>
    rw [littleEndian, ofLittleEndian, ih, fieldCapacity, Nat.mod_mul]
    rfl

/-- Does a signed number fit in a field of so many bytes? -/
def fitsSigned (width : Nat) (n : Int) : Bool :=
  let half : Int := fieldCapacity width / 2
  decide (-half ≤ n) && decide (n < half)

/-- A signed number in two's complement. -/
def signedLittleEndian (width : Nat) (n : Int) : List UInt8 :=
  littleEndian width (n % fieldCapacity width).toNat

end Devirt.Numeric
