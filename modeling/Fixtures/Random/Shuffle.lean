import Fixtures.Random.Range

/-!
# Shuffling

Every item from the first on is swapped with one of the items up to itself. Unless there are too many, the
positions are the digits of a few drawn numbers: one number below `k * (k + 1) * ...` gives a position below
`k`, then one below `k + 1`, and so on.
-/

namespace Fixtures.Random

/-- The longest product `k * (k + 1) * ...` below `2 ^ 32`, and the number of its factors. The start is
the product so far and the next factor. -/
def longestProduct : (fuel product factor count : Nat) → Nat × Nat
  | 0, product, _, count => (product, count)
  | fuel + 1, product, factor, count =>
    if product * factor < UInt32.size then longestProduct fuel (product * factor) (factor + 1) (count + 1)
    else (product, count)

/-- The drawn number whose digits are positions: what is left of it, and how many digits it has. -/
structure Chunk where
  value : Nat
  remaining : Nat

/-- The digit of a chunk that is a position below `k`, and what is left of the chunk. -/
def Chunk.digit (k : Nat) (chunk : Chunk) : Nat × Chunk :=
  if chunk.remaining = 1 then (chunk.value, ⟨chunk.value, 0⟩)
  else (chunk.value % k, ⟨chunk.value / k, chunk.remaining - 1⟩)

/-- Draws a chunk for positions from those below `k` on. -/
def Chunk.drawn (k : Nat) : Draw Chunk := do
  let (bound, count) := longestProduct 32 k (k + 1) 1
  pure ⟨← below32 bound, count⟩

/-- The position below `k` that comes next. -/
def position (k : Nat) (chunk : Chunk) : Draw (Nat × Chunk) := do
  pure ((← if chunk.remaining = 0 then Chunk.drawn k else pure chunk).digit k)

/-- The position below `k` that comes next where each is drawn by itself. -/
def ownPosition (k : Nat) (_ : Unit) : Draw (Nat × Unit) := do pure (← index k, ())

/-- Swaps the items from position `i` on, `count` of them, each with one up to itself. Given how many these
are, `next` draws the position of that one, from what it kept of the draws before. -/
def shuffleFrom {α κ : Type} (next : Nat → κ → Draw (Nat × κ)) :
    (count i : Nat) → κ → Array α → Draw (Array α)
  | 0, _, _, items => pure items
  | count + 1, i, kept, items => do
    let (j, kept) ← next (i + 1) kept
    shuffleFrom next count (i + 1) kept (items.swapIfInBounds i j)

/-- Puts items in a random order. The first position is zero and takes no draw. -/
def shuffle {α : Type} (items : Array α) : Draw (Array α) :=
  if items.size ≤ 1 then pure items
  else if items.size < UInt32.size - 1 then shuffleFrom position items.size 0 ⟨0, 1⟩ items
  else shuffleFrom ownPosition items.size 0 () items

end Fixtures.Random
