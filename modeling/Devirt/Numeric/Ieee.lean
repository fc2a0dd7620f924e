/-!
# Binary Floating-Point Words

Floating-point constants travel through a method body as bit patterns: they are encoded unchanged,
compared by value and printed in decimal. This module says what a word of one of the two
interchange formats denotes, and when two words denote equal numbers.
-/

namespace Devirt.Numeric

/-- A binary interchange format: the widths of its fraction and exponent fields. -/
structure FloatFormat where
  /-- Number of bits of the fraction field. -/
  fractionBits : Nat
  /-- Number of bits of the exponent field. -/
  exponentBits : Nat
  deriving DecidableEq, Repr

namespace FloatFormat

/-- The 32-bit format. -/
def single : FloatFormat := ⟨23, 8⟩

/-- The 64-bit format. -/
def double : FloatFormat := ⟨52, 11⟩

end FloatFormat

/-- A finite number `significand * 2 ^ exponent`, as a format stores it. -/
structure Finite where
  /-- Is the sign bit set? A zero has a sign as well. -/
  negative : Bool
  /-- Integer significand, with the implicit leading bit of normal numbers. -/
  significand : Nat
  /-- Power of two that scales the significand. -/
  exponent : Int
  /-- Is the next smaller magnitude of the format only half as far away as the next larger one?
      This happens at powers of two, where the exponent field steps. -/
  halfGapBelow : Bool
  deriving DecidableEq, Repr

/-- What a floating-point word denotes. -/
inductive Datum where
  /-- Not a number, whatever the sign and the payload. -/
  | nan
  /-- An infinity of the given sign. -/
  | infinite (negative : Bool)
  /-- An ordinary number. -/
  | finite (value : Finite)
  deriving DecidableEq, Repr

namespace FloatFormat

/-- Decode a word of the format, given as a natural number. -/
def decode (format : FloatFormat) (word : Nat) : Datum :=
  let fractions := Nat.pow 2 format.fractionBits
  let exponents := Nat.pow 2 format.exponentBits
  let fraction := word % fractions
  let stored := word / fractions % exponents
  let negative := word / fractions / exponents % 2 == 1
  let bias : Int := exponents / 2 - 1 + format.fractionBits
  -- the greatest stored exponent is that of infinities and of words that are not numbers, the
  -- least one that of numbers without the implicit leading bit
  if stored = exponents - 1 then
    if fraction = 0 then .infinite negative else .nan
  else if stored = 0 then
    .finite ⟨negative, fraction, 1 - bias, false⟩
  else
    .finite ⟨negative, fractions + fraction, stored - bias,
      fraction == 0 && decide (1 < stored)⟩

/-- Do two words denote equal numbers? A word that is not a number equals nothing, not even
    itself, and the two zeros are equal. Other numbers have one word each. -/
def sameValue (format : FloatFormat) (a b : Nat) : Bool :=
  match format.decode a, format.decode b with
  | .nan, _ | _, .nan => false
  | .finite x, .finite y => (x.significand == 0 && y.significand == 0) || x == y
  | x, y => x == y

end FloatFormat

end Devirt.Numeric
