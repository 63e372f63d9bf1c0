/-!
# Doubles as numbers

A double is an exact dyadic number, an infinity or not a number. `Binary64.ofFloat` reads the three
parts off its sixty-four bits: one bit of sign, eleven of exponent and fifty-two of fraction.
-/

namespace Fixtures.Decimal

/-- A double taken apart: `finite s m q` is the number `m * 2 ^ q`, negative if `s`. -/
inductive Binary64 where
  | nan
  | infinite (negative : Bool)
  | finite (negative : Bool) (mantissa : Nat) (exponent : Int)
  deriving DecidableEq, Repr

namespace Binary64

/-- The exponent of the smallest doubles, on which the spacing of doubles stops shrinking. -/
def leastExponent : Int := -1074

/-- The number that the bits of a double stand for. -/
def ofBits (bits : UInt64) : Binary64 :=
  let negative : Bool := bits.toNat >>> 63 = 1
  let biased : Nat := (bits.toNat >>> 52) % (1 <<< 11)
  let fraction : Nat := bits.toNat % (1 <<< 52)
  if biased = (1 <<< 11) - 1 then
    if fraction = 0 then infinite negative else nan
  else if biased = 0 then finite negative fraction leastExponent
  else finite negative ((1 <<< 52) + fraction) (leastExponent + ((biased : Int) - 1))

/-- The number that a double stands for. -/
def ofFloat (x : Float) : Binary64 := ofBits x.toBits

end Binary64

/-- Whether the double is neither infinite nor undefined. -/
def isFinite (x : Float) : Bool :=
  match Binary64.ofFloat x with
  | .finite .. => true
  | _ => false

end Fixtures.Decimal
