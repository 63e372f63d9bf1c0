import Fixtures.Proofs.Random.Ranges
import Fixtures.Random.Shuffle
import Mathlib.Data.Nat.Factorial.Basic

/-!
# A shuffle swaps items of the array

A shuffle draws one position for each item and swaps the two. The positions depend on the number of items and on
the generator only, so they can be drawn first: `shuffle_apply` says that a shuffle swaps at the positions of
`positions`. Each of them is up to the item it is for (`positions_le`), and a swap loses no item and repeats none
(`swapEach_perm`).

## Shape of the proof

What the draws keep from one to the next is a chunk with digits left. `Chunk.Fits` is the invariant: a chunk with
`r` digits is below the product of `r` factors from `k` on. So its lowest digit is below `k`, and what is left of
it is below the product of the other factors.
-/

namespace Fixtures.Random

/-- A position among items is one of theirs. -/
theorem index_lt {n : Nat} (hn : 0 < n) (g : Generator) : (index n g).1 < n := by
  rw [index]
  split
  · exact below32_lt hn g
  · exact below64_lt hn g

/-! ## Positions from chunks -/

/-- A chunk has the digits of positions below `k`, below `k + 1` and so on, as many as remain. -/
def Chunk.Fits (k : Nat) (chunk : Chunk) : Prop :=
  0 < chunk.remaining → chunk.value < k.ascFactorial chunk.remaining

/-- The product that is looked for has the factors from `k` on, as many as it is said to have. -/
theorem longestProduct_eq (fuel k count : Nat) :
    ∃ more, longestProduct fuel (k.ascFactorial count) (k + count) count =
      (k.ascFactorial (count + more), count + more) := by
  induction fuel generalizing count with
  | zero => exact ⟨0, rfl⟩
  | succ fuel ih =>
    have product : k.ascFactorial count * (k + count) = k.ascFactorial (count + 1) := by
      rw [Nat.ascFactorial_succ, Nat.mul_comm]
    rw [longestProduct, product]
    split
    · obtain ⟨more, found⟩ := ih (count + 1)
      exact ⟨1 + more, by rw [← Nat.add_assoc, ← found, Nat.add_assoc]⟩
    · exact ⟨0, rfl⟩

/-- The digit of a chunk is below `k`, and what is left of the chunk fits the positions that come next. -/
theorem Chunk.Fits.digit {k : Nat} {chunk : Chunk} (fits : chunk.Fits k) (hk : 0 < k) (some : 0 < chunk.remaining) :
    (chunk.digit k).1 < k ∧ (chunk.digit k).2.Fits (k + 1) := by
  have bound := fits some
  rw [Chunk.digit]
  split
  · next last =>
    rw [last, Nat.ascFactorial_succ, Nat.ascFactorial_zero, Nat.add_zero, Nat.mul_one] at bound
    exact ⟨bound, fun none => absurd none (Nat.lt_irrefl 0)⟩
  · obtain ⟨r, hr⟩ : ∃ r, chunk.remaining = r + 1 := ⟨chunk.remaining - 1, by omega⟩
    -- The factors from `k` on are `k` and those from `k + 1` on.
    rw [hr, Nat.ascFactorial_succ, ← Nat.succ_ascFactorial] at bound
    refine ⟨Nat.mod_lt _ hk, fun _ => ?_⟩
    rw [hr, Nat.add_sub_cancel]
    exact Nat.div_lt_of_lt_mul bound

/-- A chunk that is drawn for positions from those below `k` on fits them. -/
theorem Chunk.fits_drawn {k : Nat} (hk : 0 < k) (g : Generator) :
    0 < (Chunk.drawn k g).1.remaining ∧ (Chunk.drawn k g).1.Fits k := by
  obtain ⟨more, found⟩ := longestProduct_eq 32 k 1
  rw [Nat.ascFactorial_succ, Nat.ascFactorial_zero, Nat.add_zero, Nat.mul_one] at found
  have bounded : 0 < k.ascFactorial (1 + more) :=
    Nat.lt_of_lt_of_le (Nat.pow_pos hk) (Nat.pow_succ_le_ascFactorial k (1 + more))
  rw [Chunk.drawn, found]
  exact ⟨Nat.add_pos_left Nat.one_pos more, fun _ => below32_lt bounded g⟩

/-- A position is below the number of positions, and what is left of the chunk fits the next. -/
theorem position_lt {k : Nat} {chunk : Chunk} (hk : 0 < k) (fits : chunk.Fits k) (g : Generator) :
    (position k chunk g).1.1 < k ∧ (position k chunk g).1.2.Fits (k + 1) := by
  rw [position]
  by_cases empty : chunk.remaining = 0
  · obtain ⟨some, fits⟩ := Chunk.fits_drawn hk g
    rw [if_pos empty]
    exact fits.digit hk some
  · rw [if_neg empty]
    exact fits.digit hk (Nat.pos_of_ne_zero empty)

/-! ## The positions of a shuffle -/

section Positions

variable {α κ : Type} (next : Nat → κ → Draw (Nat × κ))

/-- The positions drawn for the items from position `i` on, `count` of them. -/
def positionsFrom : (count i : Nat) → κ → Draw (List Nat)
  | 0, _, _ => pure []
  | count + 1, i, kept => do
    let (j, kept) ← next (i + 1) kept
    pure (j :: (← positionsFrom count (i + 1) kept))

/-- Swaps the items from position `i` on, each with the one at the position given for it. -/
def swapEach : (i : Nat) → List Nat → Array α → Array α
  | _, [], items => items
  | i, j :: rest, items => swapEach (i + 1) rest (items.swapIfInBounds i j)

/-- Where to swap does not depend on the items, so it can be drawn before the first swap. -/
theorem shuffleFrom_apply (count i : Nat) (kept : κ) (items : Array α) (g : Generator) :
    shuffleFrom next count i kept items g =
      (swapEach i (positionsFrom next count i kept g).1 items, (positionsFrom next count i kept g).2) := by
  induction count generalizing i kept items g with
  | zero => rfl
  | succ count ih => exact ih (i + 1) _ _ _

variable {next}

/-- If what is kept says that each draw is a position, all positions drawn are: each is up to the item it is for. -/
theorem positionsFrom_le (Keeps : Nat → κ → Prop)
    (each : ∀ k kept g, 0 < k → Keeps k kept → (next k kept g).1.1 < k ∧ Keeps (k + 1) (next k kept g).1.2)
    {count i : Nat} {kept : κ} (start : Keeps (i + 1) kept) {g : Generator} {n j : Nat}
    (found : (positionsFrom next count i kept g).1[n]? = some j) : n < count ∧ j ≤ i + n := by
  induction count generalizing i kept g n with
  | zero => cases found
  | succ count ih =>
    obtain ⟨first, later⟩ := each (i + 1) kept g (Nat.succ_pos i) start
    cases n with
    | zero =>
      obtain rfl : (next (i + 1) kept g).1.1 = j := Option.some.inj found
      exact ⟨Nat.succ_pos count, Nat.le_of_lt_succ first⟩
    | succ n =>
      obtain ⟨counted, bound⟩ := ih later found
      omega

/-- A swap loses no item and repeats none. -/
theorem swapEach_perm (i : Nat) (js : List Nat) (items : Array α) : (swapEach i js items).Perm items := by
  induction js generalizing i items with
  | nil => exact .rfl
  | cons j rest ih =>
    refine (ih (i + 1) _).trans ?_
    rw [Array.swapIfInBounds_def]
    split
    · split
      · next hi hj => exact Array.swap_perm hi hj
      · exact .rfl
    · exact .rfl

end Positions

/-- The positions that a shuffle of so many items draws. -/
def positions (size : Nat) : Draw (List Nat) :=
  if size ≤ 1 then pure []
  else if size < UInt32.size - 1 then positionsFrom position size 0 ⟨0, 1⟩
  else positionsFrom ownPosition size 0 ()

/-- Every swap is of two items of the array: there are no more positions than items, and each is up to the item
that it is for. -/
theorem positions_le {size i j : Nat} {g : Generator} (found : (positions size g).1[i]? = some j) :
    i < size ∧ j ≤ i := by
  unfold positions at found
  split at found
  · cases found
  · split at found
    · have first : Chunk.Fits 1 ⟨0, 1⟩ := fun _ => Nat.one_pos
      simpa using positionsFrom_le Chunk.Fits (fun k _ g hk fits => position_lt hk fits g) first found
    · have drawn (k : Nat) (kept : Unit) (g : Generator) (hk : 0 < k) (_ : True) :
          (ownPosition k kept g).1.1 < k ∧ True := ⟨index_lt hk g, trivial⟩
      simpa using positionsFrom_le (fun _ _ => True) drawn trivial found

/-- A shuffle swaps at the positions that it draws. -/
theorem shuffle_apply {α : Type} (items : Array α) (g : Generator) :
    shuffle items g = (swapEach 0 (positions items.size g).1 items, (positions items.size g).2) := by
  rw [shuffle, positions]
  split
  · rfl
  · split
    · exact shuffleFrom_apply position items.size 0 ⟨0, 1⟩ items g
    · exact shuffleFrom_apply ownPosition items.size 0 () items g

end Fixtures.Random
