import Fixtures.Text.Numeral
import Mathlib.Algebra.Ring.Nat

/-!
# Codes in hexadecimal digits

A number that fits into a width is written with exactly so many digits, all of them lower case, and is read back
from them. The last digit of a code is that of the remainder by sixteen, and the code of the sixteenth part stands
before it (`hexDigits_succ`); what is known of one digit is carried along a code by this equation.
-/

namespace Fixtures.Text

/-! ## One digit -/

/-- The digits of codes. -/
def hexAlphabet : List Char := "0123456789abcdef".toList

theorem digitChar_mem {d : Nat} (h : d < 16) : d.digitChar ∈ hexAlphabet := by
  have all : ∀ d < 16, Nat.digitChar d ∈ hexAlphabet := by decide
  exact all d h

theorem digitIn?_digitChar {d : Nat} (h : d < 16) : digitIn? 16 d.digitChar = some d := by
  have all : ∀ d < 16, digitIn? 16 (Nat.digitChar d) = some d := by decide
  exact all d h

/-! ## Codes of a width -/

theorem hexDigits_one {n : Nat} (h : n < 16) : hexDigits 1 n = [n.digitChar] := by
  rw [hexDigits, Nat.toDigits_of_lt_base h]
  rfl

/-- The last digit of a code stands behind the code of all others. -/
theorem hexDigits_succ (width n : Nat) :
    hexDigits (width + 2) n = hexDigits (width + 1) (n / 16) ++ [(n % 16).digitChar] := by
  by_cases small : n < 16
  · -- There is one digit, and the code before it is that of zero.
    have filled : hexDigits (width + 1) 0 = List.replicate width '0' ++ ['0'] := rfl
    rw [Nat.div_eq_of_lt small, Nat.mod_eq_of_lt small, filled, ← List.replicate_succ', hexDigits,
      Nat.toDigits_of_lt_base small]
    rfl
  · have digits := Nat.toDigits_of_base_le (by decide : 1 < 16) (Nat.le_of_not_lt small)
    have zeros (length : Nat) : width + 2 - (length + 1) = width + 1 - length := by omega
    rw [hexDigits, hexDigits, digits, List.length_append, List.length_singleton, zeros, List.append_assoc]

/-- What fits into one digit more has a sixteenth part that fits. -/
theorem div_lt_of_fits {width n : Nat} (fits : n < 16 ^ (width + 2)) : n / 16 < 16 ^ (width + 1) := by
  apply Nat.div_lt_of_lt_mul
  rwa [← Nat.pow_succ']

/-- A number that fits is written with as many digits as are asked for. -/
theorem length_hexDigits {width n : Nat} (fits : n < 16 ^ (width + 1)) :
    (hexDigits (width + 1) n).length = width + 1 := by
  induction width generalizing n with
  | zero => rw [hexDigits_one (by simpa using fits), List.length_singleton]
  | succ width ih => rw [hexDigits_succ, List.length_append, ih (div_lt_of_fits fits), List.length_singleton]

/-- Codes are written in lower case. -/
theorem mem_hexAlphabet_of_mem {width n : Nat} (fits : n < 16 ^ (width + 1)) {c : Char}
    (h : c ∈ hexDigits (width + 1) n) : c ∈ hexAlphabet := by
  induction width generalizing n with
  | zero =>
    have small : n < 16 := by simpa using fits
    rw [hexDigits_one small, List.mem_singleton] at h
    exact h ▸ digitChar_mem small
  | succ width ih =>
    rw [hexDigits_succ, List.mem_append, List.mem_singleton] at h
    obtain before | rfl := h
    · exact ih (div_lt_of_fits fits) before
    · exact digitChar_mem (Nat.mod_lt n (by decide))

/-- A number is read back from its code. -/
theorem readHex?_of_fits {width n : Nat} (fits : n < 16 ^ (width + 1)) :
    readHex? (hexDigits (width + 1) n) = some n := by
  have value : (hexDigits (width + 1) n).foldlM (fun value c => (digitIn? 16 c).map (value * 16 + ·)) 0 = some n := by
    induction width generalizing n with
    | zero =>
      have small : n < 16 := by simpa using fits
      rw [hexDigits_one small, List.foldlM_cons, digitIn?_digitChar small]
      simp
    | succ width ih =>
      have last := digitIn?_digitChar (Nat.mod_lt n (by decide : 0 < 16))
      rw [hexDigits_succ, List.foldlM_append, ih (div_lt_of_fits fits)]
      simp [last, Nat.div_add_mod']
  have nonempty : (hexDigits (width + 1) n).isEmpty = false := by
    rw [List.isEmpty_eq_false_iff, ← List.length_pos_iff, length_hexDigits fits]
    exact Nat.succ_pos width
  rw [readHex?, readBase?, nonempty, if_neg Bool.false_ne_true, value]

/-- Numbers that fit are told apart by their codes. -/
theorem hexDigits_inj {width m n : Nat} (hm : m < 16 ^ (width + 1)) (hn : n < 16 ^ (width + 1)) :
    hexDigits (width + 1) m = hexDigits (width + 1) n ↔ m = n := by
  refine ⟨fun same => ?_, congrArg _⟩
  have read := readHex?_of_fits hm
  rw [same, readHex?_of_fits hn] at read
  exact (Option.some.inj read).symm

/-- A code of four digits, as escapes have it. -/
theorem exists_four_digits {n : Nat} (fits : n < 0x10000) :
    ∃ w x y z, hexDigits 4 n = [w, x, y, z] ∧ readHex? [w, x, y, z] = some n ∧ ∀ d ∈ [w, x, y, z], d ∈ hexAlphabet := by
  have four : (hexDigits 4 n).length = 4 := length_hexDigits fits
  have value : readHex? (hexDigits 4 n) = some n := readHex?_of_fits fits
  have lower : ∀ d ∈ hexDigits 4 n, d ∈ hexAlphabet := fun _ hd => mem_hexAlphabet_of_mem fits hd
  match digits : hexDigits 4 n, four with
  | [w, x, y, z], _ => exact ⟨w, x, y, z, rfl, digits ▸ value, digits ▸ lower⟩

end Fixtures.Text
