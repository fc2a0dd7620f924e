/-!
# Hexadecimal Text

Lower-case base-sixteen numerals, with and without padding. Byte offsets in listings, region tags
in messages and code points in quoted text are all written this way.
-/

namespace Devirt.Numeric

/-- The lower-case hexadecimal numeral of `n`, without leading zeros (`0` itself is one digit). -/
def hex (n : Nat) : String :=
  String.ofList (Nat.toDigits 16 n)

/-- The lower-case hexadecimal numeral of `n`, filled with zeros on the left up to `width` digits.
    Numerals that are already wider are not cut. -/
def hexPadded (width n : Nat) : String :=
  let digits := Nat.toDigits 16 n
  String.ofList (List.replicate (width - digits.length) '0' ++ digits)

end Devirt.Numeric
