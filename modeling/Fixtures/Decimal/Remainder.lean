import Fixtures.Decimal.Binary64

/-!
# The remainder of doubles

Two doubles are whole multiples of a common power of two. Their remainder is that of the two
multiples, exactly, and has the sign of the dividend.
-/

namespace Fixtures.Decimal

/-- A multiple of a power of two as a double, where it is one. -/
def scaled (negative : Bool) (m : Nat) (q : Int) : Float :=
  let x := Float.scaleB (Float.ofNat m) q
  if negative then -x else x

/-- What is left of a double after taking another away as often as possible. -/
def remainder (x y : Float) : Float :=
  match Binary64.ofFloat x, Binary64.ofFloat y with
  | .finite negative m q, .finite _ n r =>
    if n = 0 then 0.0 / 0.0
    else
      let least := min q r
      scaled negative ((m <<< (q - least).toNat) % (n <<< (r - least).toNat)) least
  | .finite .., .infinite _ => x
  | _, _ => 0.0 / 0.0

end Fixtures.Decimal
