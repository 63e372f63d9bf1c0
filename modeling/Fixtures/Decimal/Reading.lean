import Fixtures.Text.Numeral

/-!
# Reading doubles

A decimal numeral stands for the double nearest to it. Exponents far outside the range of doubles are
settled before any power of ten is computed.
-/

namespace Fixtures.Decimal

/-- The greatest exponent of a first digit that a finite double can have, and more. -/
def overflowExponent : Int := 400

/-- The double nearest to `mantissa * 10 ^ exponent`. -/
def nearest (mantissa : Nat) (exponent : Int) : Float :=
  let first : Int := (Nat.toDigits 10 mantissa).length + exponent
  if mantissa = 0 then 0.0
  else if overflowExponent < first then 1.0 / 0.0
  else if first < -overflowExponent then 0.0
  else Float.ofScientific mantissa (exponent < 0) exponent.natAbs

/-- The double written by digits, digits after the point and an exponent. -/
def ofNumeral (whole fraction : List Char) (exponent : Int) : Float :=
  let mantissa := (whole ++ fraction).foldl (fun n c => n * 10 + Text.digitValue c) 0
  nearest mantissa (exponent - fraction.length)

end Fixtures.Decimal
