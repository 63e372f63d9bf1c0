import Fixtures.Text.Word
import Mathlib.Algebra.Ring.Nat

/-!
# Numerals read at their value

The decimal numeral of a number is read back as that number, by the reader of digits of any length and by the
reader of 64-bit words. The latter takes the numerals of all words and refuses those of greater numbers.
-/

namespace Fixtures.Text

/-! ## Digits -/

/-- The digits that are read are those that numerals are written in. -/
theorem isDigit_eq (c : Char) : isDigit c = c.isDigit := by
  simp only [isDigit, Char.isDigit, Char.le_def]

theorem isDigit_of_mem_natDigits {n : Nat} {c : Char} (h : c ∈ natDigits n) : isDigit c = true := by
  rw [isDigit_eq]
  exact Nat.isDigit_of_mem_toDigits (by decide) (by decide) h

/-- A digit is no other character. -/
theorem digit_ne {c d : Char} (h : isDigit c = true) (hd : isDigit d = false) : c ≠ d := by
  rintro rfl
  rw [h] at hd
  cases hd

theorem natDigits_ne_nil (n : Nat) : natDigits n ≠ [] := Nat.toDigits_ne_nil

/-- A numeral begins with a digit. -/
theorem natDigits_eq_cons (n : Nat) : ∃ c digits, natDigits n = c :: digits ∧ isDigit c = true := by
  obtain ⟨c, digits, hn⟩ := List.exists_cons_of_ne_nil (natDigits_ne_nil n)
  exact ⟨c, digits, hn, isDigit_of_mem_natDigits (hn ▸ List.mem_cons_self)⟩

/-- Numerals have no zero in front. -/
theorem head_natDigits_ne {n : Nat} (h : 0 < n) : (natDigits n).head? ≠ some '0' := by
  induction n using Nat.strongRecOn with
  | ind n ih =>
    by_cases small : n < 10
    · have digits : ∀ m < 10, 0 < m → [m.digitChar].head? ≠ some '0' := by decide
      rw [natDigits, Nat.toDigits_of_lt_base small]
      exact digits n small h
    · have big : 10 ≤ n := by omega
      have shorter := ih (n / 10) (by omega) (by omega)
      rw [natDigits, Nat.toDigits_of_base_le (by decide) big]
      rw [natDigits] at shorter
      obtain ⟨c, digits, hc⟩ := List.exists_cons_of_ne_nil (@Nat.toDigits_ne_nil (n / 10) 10)
      rw [hc] at shorter ⊢
      exact shorter

/-- The first digit is read before the others. -/
theorem ofDigitChars_cons (c : Char) (digits : List Char) (n : Nat) :
    Nat.ofDigitChars 10 (c :: digits) n = Nat.ofDigitChars 10 digits (n * 10 + digitValue c) := by
  rw [Nat.ofDigitChars_cons, digitValue, Nat.mul_comm]

/-- What digits come to is at least what was there before. -/
theorem le_ofDigitChars (digits : List Char) (n : Nat) : n ≤ Nat.ofDigitChars 10 digits n := by
  rw [Nat.ofDigitChars_eq_ofDigitChars_zero]
  exact Nat.le_add_right_of_le (Nat.le_mul_of_pos_left _ (Nat.pow_pos (by decide)))

/-! ## Numerals read back -/

/-- A decimal digit counts as one in base ten. -/
theorem digitIn?_digit {c : Char} (h : isDigit c = true) : digitIn? 10 c = some (digitValue c) := by
  have bounds : '0' ≤ c ∧ c ≤ '9' := by simpa [isDigit] using h
  have low : '0'.toNat ≤ c.toNat := bounds.1
  have high : c.toNat ≤ '9'.toNat := bounds.2
  have small : digitValue c < 10 := by
    simp only [digitValue]
    have zero : '0'.toNat = 48 := rfl
    have nine : '9'.toNat = 57 := rfl
    omega
  simp [digitIn?, h, small]

/-- Digits are read at their value behind what was read before. -/
theorem foldlM_digitIn? {digits : List Char} (h : ∀ c ∈ digits, isDigit c = true) (n : Nat) :
    digits.foldlM (fun value c => (digitIn? 10 c).map (value * 10 + ·)) n =
      some (Nat.ofDigitChars 10 digits n) := by
  induction digits generalizing n with
  | nil => rfl
  | cons c digits ih =>
    rw [List.foldlM_cons, digitIn?_digit (h c List.mem_cons_self), Option.map_some, Option.bind_eq_bind,
      Option.bind_some, ih fun d hd => h d (List.mem_cons_of_mem c hd), ofDigitChars_cons]

/-- A character that is no digit of the base spoils a numeral. -/
theorem readBase?_eq_none {base : Nat} {digits : List Char} {c : Char} (hc : c ∈ digits)
    (h : digitIn? base c = none) : readBase? base digits = none := by
  have spoiled (n : Nat) : digits.foldlM (fun value c => (digitIn? base c).map (value * base + ·)) n = none := by
    induction digits generalizing n with
    | nil => cases hc
    | cons d digits ih =>
      rw [List.foldlM_cons]
      rcases List.mem_cons.1 hc with rfl | hc
      · rw [h]
        rfl
      · cases digitIn? base d with
        | none => rfl
        | some value => exact ih hc _
  unfold readBase?
  split
  · rfl
  · exact spoiled 0

/-- A numeral is read at its value. -/
theorem readBase?_natDigits (n : Nat) : readBase? 10 (natDigits n) = some n := by
  have nonempty : (natDigits n).isEmpty = false := by simpa using natDigits_ne_nil n
  rw [readBase?, nonempty, if_neg Bool.false_ne_true,
    foldlM_digitIn? fun c hc => isDigit_of_mem_natDigits hc]
  exact congrArg some Nat.ofDigitChars_ten_toDigits

/-- Digits that come to a word are read as this word. -/
theorem foldlM_pushDigit {digits : List Char} (h : ∀ c ∈ digits, isDigit c = true) {n : Nat}
    (fits : Nat.ofDigitChars 10 digits n < UInt64.size) :
    digits.foldlM pushDigit n = .ok (Nat.ofDigitChars 10 digits n) := by
  induction digits generalizing n with
  | nil => rfl
  | cons c digits ih =>
    rw [ofDigitChars_cons] at fits ⊢
    have whole := Nat.lt_of_le_of_lt (le_ofDigitChars digits _) fits
    rw [List.foldlM_cons, pushDigit, if_pos (h c List.mem_cons_self)]
    simp only [if_pos whole]
    exact ih (fun d hd => h d (List.mem_cons_of_mem c hd)) fits

/-- The numeral of a word is read as the word. -/
theorem readWord_natDigits {n : Nat} (fits : n < UInt64.size) : readWord (natDigits n) = .ok n := by
  have value := @Nat.ofDigitChars_ten_toDigits n
  have isDigits (c : Char) (hc : c ∈ natDigits n) := isDigit_of_mem_natDigits hc
  rw [← natDigits] at value
  have read : readDigits (natDigits n) = .ok n := by
    rw [readDigits, foldlM_pushDigit isDigits (by rw [value]; exact fits), value]
  -- A numeral begins with a digit, so with no sign.
  unfold readWord
  split
  · next h => exact absurd h (natDigits_ne_nil n)
  · next h => exact absurd (isDigits '+' (h ▸ List.mem_cons_self)) (by decide)
  · next h => exact absurd (isDigits '+' (h ▸ List.mem_cons_self)) (by decide)
  · exact read

/-! ## Which texts are numerals of words -/

/-- Decimal digits of a number, at least one. -/
structure IsDigits (digits : List Char) (n : Nat) : Prop where
  nonempty : digits ≠ []
  digital : ∀ c ∈ digits, isDigit c = true
  value : Nat.ofDigitChars 10 digits 0 = n

/-- A numeral of a number: digits of it, perhaps behind a plus sign. -/
def IsNumeral (text : List Char) (n : Nat) : Prop :=
  IsDigits text n ∨ ∃ digits, text = '+' :: digits ∧ IsDigits digits n

theorem isDigits_natDigits (n : Nat) : IsDigits (natDigits n) n :=
  ⟨natDigits_ne_nil n, fun _ hc => isDigit_of_mem_natDigits hc, Nat.ofDigitChars_ten_toDigits⟩

/-- Digits that begin with a plus sign are none. -/
theorem not_isDigits_plus (digits : List Char) (n : Nat) : ¬ IsDigits ('+' :: digits) n := fun h =>
  absurd (h.digital '+' List.mem_cons_self) (by decide)

theorem isNumeral_plus {digits : List Char} {n : Nat} : IsNumeral ('+' :: digits) n ↔ IsDigits digits n := by
  constructor
  · rintro (h | ⟨_, same, h⟩)
    · exact absurd h (not_isDigits_plus digits n)
    · cases same
      exact h
  · exact fun h => .inr ⟨digits, rfl, h⟩

/-- A text is a numeral of one number only. -/
theorem IsNumeral.unique {text : List Char} {m n : Nat} (hm : IsNumeral text m) (hn : IsNumeral text n) : m = n := by
  obtain hm | ⟨digits, rfl, hm⟩ := hm
  · obtain hn | ⟨_, rfl, -⟩ := hn
    · exact hm.value.symm.trans hn.value
    · exact absurd hm (not_isDigits_plus _ m)
  · exact hm.value.symm.trans (isNumeral_plus.mp hn).value

/-- Only digits are added, and only as long as the number is a word. -/
theorem pushDigit_eq_ok {value n : Nat} {c : Char} (h : pushDigit value c = .ok n) :
    isDigit c = true ∧ n = value * 10 + digitValue c ∧ n < UInt64.size := by
  unfold pushDigit at h
  split at h
  · next digit =>
    dsimp only at h
    split at h
    · next fits =>
      cases h
      exact ⟨digit, rfl, fits⟩
    · cases h
  · cases h

/-- What is read as a word behind another one are digits, read at their value, which is a word. -/
theorem eq_of_foldlM_pushDigit {digits : List Char} {m n : Nat} (h : digits.foldlM pushDigit m = .ok n)
    (fits : m < UInt64.size) :
    (∀ c ∈ digits, isDigit c = true) ∧ Nat.ofDigitChars 10 digits m = n ∧ n < UInt64.size := by
  induction digits generalizing m with
  | nil =>
    cases h
    exact ⟨fun c hc => absurd hc List.not_mem_nil, rfl, fits⟩
  | cons c digits ih =>
    rw [List.foldlM_cons] at h
    cases pushed : pushDigit m c with
    | error fault =>
      rw [pushed] at h
      cases h
    | ok next =>
      rw [pushed] at h
      obtain ⟨digit, rfl, small⟩ := pushDigit_eq_ok pushed
      obtain ⟨digital, value, whole⟩ := ih h small
      exact ⟨List.forall_mem_cons.mpr ⟨digit, digital⟩, by rw [ofDigitChars_cons, value], whole⟩

/-- Digits are read exactly if they come to a word. -/
theorem readDigits_eq_ok {digits : List Char} {n : Nat} (nonempty : digits ≠ []) :
    readDigits digits = .ok n ↔ IsDigits digits n ∧ n < UInt64.size := by
  constructor
  · intro read
    obtain ⟨digital, value, fits⟩ := eq_of_foldlM_pushDigit read (by decide)
    exact ⟨⟨nonempty, digital, value⟩, fits⟩
  · rintro ⟨⟨-, digital, rfl⟩, fits⟩
    exact foldlM_pushDigit digital fits

/-- A text is read as a word exactly if it is a numeral of it. -/
theorem readWord_eq_ok {text : List Char} {n : Nat} :
    readWord text = .ok n ↔ IsNumeral text n ∧ n < UInt64.size := by
  unfold readWord
  split
  · refine ⟨fun h => (by cases h), fun h => ?_⟩
    obtain ⟨⟨nonempty, -, -⟩ | ⟨_, same, -⟩, -⟩ := h
    · exact absurd rfl nonempty
    · cases same
  · refine ⟨fun h => (by cases h), fun h => ?_⟩
    exact absurd rfl (isNumeral_plus.mp h.1).nonempty
  · next digits some_ =>
    have nonempty : digits ≠ [] := fun h => some_ (by rw [h])
    rw [readDigits_eq_ok nonempty, isNumeral_plus]
  · next digits some_ _ unsigned =>
    have nonempty : text ≠ [] := fun h => some_ h
    rw [readDigits_eq_ok nonempty]
    refine and_congr_left fun _ => ⟨.inl, fun h => h.resolve_right ?_⟩
    rintro ⟨digits, rfl, -⟩
    exact unsigned digits rfl

end Fixtures.Text
