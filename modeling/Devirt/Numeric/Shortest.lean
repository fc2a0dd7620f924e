import Devirt.Numeric.Ieee

/-!
# Shortest Decimals

The decimal numeral of a floating-point number has the fewest significant digits that still read
back as the same number, and among the numerals with that many digits it is the nearest one (of
two that are equally near, the larger).

All numbers in between are exact. The reals that round to a number `x` form an interval around it,
half a gap wide on each side, which contains its ends exactly if the significand is even. For one
digit, two digits and so on, the two neighbours of `x` on that decimal grid are tested against
the interval, and the first grid with a hit gives the digits. If any point of a grid lies in the
interval, one of the two neighbours does.
-/

namespace Devirt.Numeric

/-- A positive decimal `coefficient * 10 ^ exponent`. -/
structure Decimal where
  /-- Integer coefficient. -/
  coefficient : Nat
  /-- Power of ten that scales the coefficient. -/
  exponent : Int
  deriving DecidableEq, Repr

/-- The reals that round to a given number, as fractions over one common denominator. -/
structure RoundingInterval where
  /-- Numerator of the lower end. -/
  low : Nat
  /-- Numerator of the number itself. -/
  middle : Nat
  /-- Numerator of the upper end. -/
  high : Nat
  /-- Common denominator. -/
  denominator : Nat
  /-- Do the ends belong to the interval? -/
  closed : Bool
  deriving Repr

namespace RoundingInterval

/-- The interval around a number, in quarters of the unit of its significand. -/
def ofFinite (x : Finite) : RoundingInterval :=
  let scale := Nat.pow 2 (x.exponent - 2).toNat
  let quarters := 4 * x.significand
  -- half a gap is two quarters, but only one below the least number with some exponent
  { low := (quarters - if x.halfGapBelow then 1 else 2) * scale
    middle := quarters * scale
    high := (quarters + 2) * scale
    denominator := Nat.pow 2 (2 - x.exponent).toNat
    closed := x.significand % 2 == 0 }

/-- Does the decimal lie in the interval? -/
def contains (i : RoundingInterval) (d : Decimal) : Bool :=
  let point := d.coefficient * Nat.pow 10 d.exponent.toNat * i.denominator
  let unit := Nat.pow 10 (-d.exponent).toNat
  if i.closed then
    decide (i.low * unit ≤ point) && decide (point ≤ i.high * unit)
  else
    decide (i.low * unit < point) && decide (point < i.high * unit)

/-- The largest point of the grid of multiples of `10 ^ exponent` that does not exceed the middle,
    along with the answer to whether the next point is at least as near. -/
def neighbour (i : RoundingInterval) (exponent : Int) : Nat × Bool :=
  let numerator := i.middle * Nat.pow 10 (-exponent).toNat
  let denominator := i.denominator * Nat.pow 10 exponent.toNat
  let below := numerator / denominator
  (below, decide (denominator ≤ 2 * (numerator - below * denominator)))

/-- The hit of the grid of multiples of `10 ^ exponent`, if there is one. -/
def hit? (i : RoundingInterval) (exponent : Int) : Option Decimal :=
  let (below, aboveIsNear) := i.neighbour exponent
  let lower : Decimal := ⟨below, exponent⟩
  let upper : Decimal := ⟨below + 1, exponent⟩
  match i.contains lower, i.contains upper with
  | true, true => some (if aboveIsNear then upper else lower)
  | true, false => some lower
  | false, true => some upper
  | false, false => none

/-- Search the grids from `10 ^ exponent` downwards. Seventeen digits always suffice for the
    formats in use, so the last grid is never missed. -/
def search (i : RoundingInterval) : (grids : Nat) → (exponent : Int) → Decimal
  | 0, exponent => ⟨(i.neighbour exponent).1, exponent⟩
  | grids + 1, exponent =>
    match i.hit? exponent with
    | some d => d
    | none => i.search grids (exponent - 1)

/-- The exponent of the leading decimal digit of the middle, for numbers below one: the least `k`
    such that the middle is at least `10 ^ -k`, looked for among the next `bound` values. -/
def leadingBelowOne (i : RoundingInterval) : (bound : Nat) → (k : Nat) → Nat
  | 0, k => k
  | bound + 1, k =>
    if i.denominator ≤ i.middle * Nat.pow 10 k then k else i.leadingBelowOne bound (k + 1)

/-- The exponent of the leading decimal digit of the middle. -/
def leadingExponent (i : RoundingInterval) : Int :=
  if i.denominator ≤ i.middle then
    (Nat.toDigits 10 (i.middle / i.denominator)).length - 1
  else
    -(i.leadingBelowOne 400 1 : Int)

end RoundingInterval

/-- Drop the trailing zeros of a coefficient, of which there are fewer than `bound`. -/
def Decimal.trim : (bound : Nat) → Decimal → Decimal
  | 0, d => d
  | bound + 1, d =>
    if d.coefficient % 10 = 0 then Decimal.trim bound ⟨d.coefficient / 10, d.exponent + 1⟩ else d

/-- The shortest decimal that reads back as the magnitude of `x`, without trailing zeros. The
    number must not be zero. -/
def shortest (x : Finite) : Decimal :=
  let i := RoundingInterval.ofFinite x
  (i.search 17 i.leadingExponent).trim 20

end Devirt.Numeric
