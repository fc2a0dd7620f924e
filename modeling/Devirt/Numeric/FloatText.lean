import Devirt.Numeric.Shortest

/-!
# Text of Floating-Point Constants

A floating-point constant is written with the shortest digits that read back. Magnitudes from
`1e-4` up to, but not including, `1e16` are positional and keep at least one digit after the
point; all others are scientific. A zero keeps its sign, a word that is not a number has none.
-/

namespace Devirt.Numeric

/-- The decisions that decimal text leaves open. -/
structure FloatStyle where
  /-- Least exponent of the leading digit that is written positionally. -/
  leastPositional : Int
  /-- Greatest exponent of the leading digit that is written positionally. -/
  greatestPositional : Int
  /-- Text of words that are not numbers. -/
  nan : String
  /-- Text of the positive infinity. -/
  infinity : String

/-- Constants are positional from `0.0001` to below `1e16`. -/
def constantStyle : FloatStyle := ⟨-4, 15, "NaN", "inf"⟩

namespace Decimal

/-- Positional notation, with at least one digit on each side of the point. The leading digit of
    `digits` has weight `10 ^ leading`. -/
def positional (digits : List Char) (leading : Int) : List Char :=
  if leading < 0 then
    ['0', '.'] ++ List.replicate (-leading - 1).toNat '0' ++ digits
  else
    let whole := leading.toNat + 1
    let fraction := digits.drop whole
    digits.take whole ++ List.replicate (whole - digits.length) '0' ++
      ('.' :: if fraction.isEmpty then ['0'] else fraction)

/-- Scientific notation: one digit, then the others behind a point if there are any, then the
    exponent. -/
def scientific (digits : List Char) (leading : Int) : List Char :=
  let fraction := digits.drop 1
  digits.take 1 ++ (if fraction.isEmpty then [] else '.' :: fraction) ++
    'e' :: (toString leading).toList

/-- Text of a decimal without trailing zeros. -/
def text (style : FloatStyle) (d : Decimal) : List Char :=
  let digits := Nat.toDigits 10 d.coefficient
  let leading := d.exponent + digits.length - 1
  if style.leastPositional ≤ leading ∧ leading ≤ style.greatestPositional then
    positional digits leading
  else
    scientific digits leading

end Decimal

/-- Text of what a floating-point word denotes. -/
def Datum.text (style : FloatStyle) : Datum → String
  | .nan => style.nan
  | .infinite negative => (if negative then "-" else "") ++ style.infinity
  | .finite x =>
    let magnitude :=
      if x.significand = 0 then Decimal.positional ['0'] 0 else (shortest x).text style
    (if x.negative then "-" else "") ++ String.ofList magnitude

/-- Text of a constant in the given format. -/
def FloatFormat.text (format : FloatFormat) (word : Nat) : String :=
  (format.decode word).text constantStyle

end Devirt.Numeric
