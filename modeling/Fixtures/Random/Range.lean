import Fixtures.Decimal.Binary64
import Fixtures.Random.Stream

/-!
# Numbers in a range

A number below `n` is the high part of the product of a draw and `n`. If the low part lies so high
that further bits of the draw could carry into the high part, a second draw decides.
-/

namespace Fixtures.Random

/-- Draws a number below `n` with draws of numbers below `size`; a draw is made even for one number. -/
def below (size : Nat) (draw : Draw Nat) (n : Nat) : Draw Nat := do
  let product := (← draw) * n
  let high := product / size
  let low := product % size
  if size - n < low then
    let carry := (← draw) * n / size
    pure (if size ≤ low + carry then high + 1 else high)
  else pure high

/-- Draws a number below `n`, at most `2 ^ 32`. -/
def below32 (n : Nat) : Draw Nat := below UInt32.size (do pure (← word32).toNat) n

/-- Draws a number below `n`, at most `2 ^ 64`. -/
def below64 (n : Nat) : Draw Nat := below UInt64.size (do pure (← word64).toNat) n

/-- Draws a position among `n` items. A draw of 32 bits is enough for it unless `n` itself has more. -/
def index (n : Nat) : Draw Nat := if n < UInt32.size then below32 n else below64 n

/-- Draws a number from `first` up to but not including `last`. -/
def between (first last : Nat) : Draw Nat := do pure (first + (← below32 (last - first)))

/-- Draws an integer of 64 bits from `min` to `max`. If these are the least and the greatest, the word
drawn is the integer in two's complement. -/
def intBetween (min max : Int) : Draw Int := do
  if max - min + 1 = UInt64.size then pure (← word64).toInt64.toInt
  else pure (min + (← below64 (max - min + 1).toNat))

/-- Draws an entry of a table. -/
def pick (table : Array String) : Draw String := do
  pure ((table[← below32 table.size]?).getD "")

/-- Draws a truth value. -/
def boolean : Draw Bool := do pure ((← word64) < 0x8000000000000000)

/-! ## Doubles -/

/-- Draws a double from zero to below one in steps of `2 ^ -53`. -/
def unitFloat : Draw Float := do
  pure (((← word64) >>> 11).toNat.toFloat * Float.ofBits 0x3CA0000000000000)

/-- Draws a double from zero to below one in steps of `2 ^ -52`. -/
def coarseFloat : Draw Float := do
  pure (((← word64) >>> 12).toNat.toFloat * Float.ofBits 0x3CB0000000000000)

/-- The greatest value of `coarseFloat`. -/
def maxCoarse : Float := Float.ofBits 0x3FEFFFFFFFFFFFFE

/-- Lowers a scale by its last place until the greatest value does not pass `max`. -/
def lowerScale : (fuel : Nat) → (min max scale : Float) → Float
  | 0, _, _, scale => scale
  | fuel + 1, min, max, scale =>
    if scale * maxCoarse + min > max then
      lowerScale fuel min max (Float.ofBits (scale.toBits - 1))
    else scale

/-- What a double drawn from zero to one is multiplied by to fill a range; none if the range is too
wide. -/
def rangeScale? (min max : Float) : Option Float :=
  let scale := (max - min) / maxCoarse
  if Decimal.isFinite scale then some (lowerScale 64 min max scale) else none

/-- Draws a double from `min` in steps of a scale. -/
def floatBetween (min scale : Float) : Draw Float := do pure ((← coarseFloat) * scale + min)

end Fixtures.Random
