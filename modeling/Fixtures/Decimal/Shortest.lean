import Fixtures.Decimal.Binary64

/-!
# The shortest decimal of a double

Every real number closer to a double than to its neighbours reads back as that double. Among the
decimals in this interval `shortest` takes one with the fewest digits, and of those the nearest to
the double itself.

## Shape of the search

For `n` digits the candidates are the two points of the grid of step `10 ^ (e - n + 1)` around the
double, where `e` is the exponent of its first digit. The first `n` with a point inside the interval
wins. Seventeen digits always suffice.
-/

namespace Fixtures.Decimal

/-- A decimal number `0.d₁d₂… * 10 ^ (exponent + 1)` given by its digits `d₁d₂…` as one number: its
first digit stands at `10 ^ exponent`, and its last digit is not a zero unless it is the only one. -/
structure Digits where
  digits : Nat
  exponent : Int
  deriving DecidableEq, Repr

/-- The exponent of the first decimal digit of `num / den`, both positive. -/
def leadingExponent (num den : Nat) : Int :=
  if den ≤ num then ((Nat.toDigits 10 (num / den)).length : Int) - 1
  else
    let places := (Nat.toDigits 10 (den / num)).length
    if num * Nat.pow 10 (places - 1) = den then 1 - places else -places

/-- A number without its trailing zeros. -/
def stripZeros : (fuel n : Nat) → Nat
  | 0, n => n
  | fuel + 1, n => if n % 10 = 0 ∧ n ≠ 0 then stripZeros fuel (n / 10) else n

/-- The interval of reals that round to a double, as multiples of a quarter of its last place. -/
structure Rounding where
  low : Nat
  value : Nat
  high : Nat
  closed : Bool

/-- The reals that round to `m * 2 ^ q`: below a power of two the neighbour is nearer. -/
def rounding (m : Nat) (q : Int) : Rounding where
  low := if m = 1 <<< 52 ∧ q ≠ Binary64.leastExponent then 4 * m - 1 else 4 * m - 2
  value := 4 * m
  high := 4 * m + 2
  closed := m % 2 = 0

/-- Whether the point `p / den` lies in the interval scaled by `num`. -/
def Rounding.holds (r : Rounding) (num den p : Nat) : Bool :=
  if r.closed then r.low * num ≤ p * den && p * den ≤ r.high * num
  else r.low * num < p * den && p * den < r.high * num

/-- The best decimal of the interval on the grid for `n` digits. The unit of the interval is
`num / den`, and `e` is the exponent of the first digit of the value. -/
def Rounding.onGrid? (r : Rounding) (num den : Nat) (e : Int) (n : Nat) : Option Nat :=
  let shift : Int := n - 1 - e
  let num := num * Nat.pow 10 shift.toNat
  let den := den * Nat.pow 10 (-shift).toNat
  let below := r.value * num / den
  let above := below + 1
  let half := r.value * num * 2
  match r.holds num den below, r.holds num den above with
  | true, true =>
    let mid := (below + above) * den
    if half < mid then some below
    else if mid < half then some above
    else some (if below % 2 = 0 then below else above)
  | true, false => some below
  | false, true => some above
  | false, false => none

/-- The shortest decimal that reads back as the double `m * 2 ^ q`, where `m` is positive. -/
def shortest (m : Nat) (q : Int) : Digits :=
  let r := rounding m q
  let num := 1 <<< (q - 2).toNat
  let den := 1 <<< (2 - q).toNat
  let e := leadingExponent (r.value * num) den
  let candidate? := (List.range 17).findSome? fun i =>
    (r.onGrid? num den e (i + 1)).map fun p => (p, i + 1)
  match candidate? with
  | none => ⟨0, 0⟩
  | some (p, n) =>
    let e := if p = Nat.pow 10 n then e + 1 else e
    ⟨stripZeros n p, e⟩

end Fixtures.Decimal
