import Fixtures.Random.Range

/-!
# Numbers in a range lie in it

The high part of a draw below `size` times `n` is below `n`. Where a carry is added to it, it is no more than
`n - 2` before: the product is at most `(size - 1) * n`, so with the high part `n - 1` the low part is at most
`size - n`, and then no second draw is made. This is `below_lt`. Entries of a table are taken at such numbers
(`getD_below32_mem`), and `intBetween_mem` says what it means for integers of 64 bits.
-/

namespace Fixtures.Random

/-! ## Numbers below a number -/

/-- The high part of a product with a draw is below the other factor. -/
theorem high_lt {size n x : Nat} (hx : x < size) (hn : 0 < n) : x * n / size < n := by
  apply Nat.div_lt_of_lt_mul
  exact Nat.mul_lt_mul_of_pos_right hx hn

/-- Below the greatest high part only may the low part be so high that a carry matters. -/
theorem high_succ_lt {size n x : Nat} (hx : x < size) (hn : 0 < n) (far : size - n < x * n % size) :
    x * n / size + 1 < n := by
  apply Nat.lt_of_le_of_ne (high_lt hx hn)
  intro last
  have greatest : x * n / size = n - 1 := by omega
  have product := Nat.div_add_mod (x * n) size
  rw [greatest] at product
  -- The product is at most `size * n - n`, and `size * (n - 1)` of it is the high part.
  have bound : x * n + n ≤ size * n := by
    calc x * n + n = (x + 1) * n := (Nat.succ_mul x n).symm
      _ ≤ size * n := Nat.mul_le_mul_right n hx
  have whole : size * (n - 1) + size = size * n := by
    rw [← Nat.mul_succ, Nat.succ_eq_add_one, Nat.sub_add_cancel hn]
  omega

/-- Whatever is drawn, a number below `n` is. -/
theorem below_lt {size n : Nat} {draw : Draw Nat} (bounded : ∀ g, (draw g).1 < size) (hn : 0 < n)
    (g : Generator) : (below size draw n g).1 < n := by
  have first := bounded g
  show ((if size - n < (draw g).1 * n % size then _ else _ : Draw Nat) (draw g).2).1 < n
  split
  · next far =>
    show (if _ then _ else _) < n
    split
    · exact high_succ_lt first hn far
    · exact high_lt first hn
  · exact high_lt first hn

theorem below32_lt {n : Nat} (hn : 0 < n) (g : Generator) : (below32 n g).1 < n :=
  below_lt (fun g => (word32 g).1.toNat_lt_size) hn g

theorem below64_lt {n : Nat} (hn : 0 < n) (g : Generator) : (below64 n g).1 < n :=
  below_lt (fun g => (word64 g).1.toNat_lt_size) hn g

/-- A number drawn from a range of one number is that number. -/
theorem between_succ (n : Nat) (g : Generator) : (between n (n + 1) g).1 = n := by
  have one : (below32 (n + 1 - n) g).1 < n + 1 - n := below32_lt (by omega) g
  show n + (below32 (n + 1 - n) g).1 = n
  omega

/-! ## Entries of a table -/

/-- An entry at a drawn position is one of the table. -/
theorem getD_below32_mem {α : Type} {table : Array α} (filled : 0 < table.size) (default : α) (g : Generator) :
    (table[(below32 table.size g).1]?).getD default ∈ table := by
  have inside := below32_lt filled g
  rw [Array.getElem?_eq_getElem inside]
  exact Array.getElem_mem inside

theorem pick_mem {table : Array String} (filled : 0 < table.size) (g : Generator) : (pick table g).1 ∈ table :=
  getD_below32_mem filled "" g

/-! ## Integers -/

/-- An integer between two bounds of 64 bits lies between them. If these are the least and the greatest, so does
every word. -/
theorem intBetween_mem {min max : Int} (least : Int64.minValue.toInt ≤ min) (greatest : max ≤ Int64.maxValue.toInt)
    (h : min ≤ max) (g : Generator) : min ≤ (intBetween min max g).1 ∧ (intBetween min max g).1 ≤ max := by
  rw [Int64.toInt_minValue] at least
  rw [Int64.toInt_maxValue] at greatest
  rw [intBetween]
  split
  · next full =>
    have size : UInt64.size = 18446744073709551616 := rfl
    rw [size] at full
    have lower := (word64 g).1.toInt64.le_toInt
    have upper := (word64 g).1.toInt64.toInt_lt
    show min ≤ (word64 g).1.toInt64.toInt ∧ (word64 g).1.toInt64.toInt ≤ max
    omega
  · have offset := @below64_lt (max - min + 1).toNat (by omega) g
    show min ≤ min + ((below64 (max - min + 1).toNat g).1 : Int) ∧
      min + ((below64 (max - min + 1).toNat g).1 : Int) ≤ max
    omega

end Fixtures.Random
