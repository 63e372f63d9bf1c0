import Fixtures.Json.Printer
import Fixtures.Json.Reader
import Fixtures.Proofs.Json.Regular
import Fixtures.Proofs.Text.Hexadecimal
import Fixtures.Proofs.Text.Numerals

/-!
# Tokens read back

What the printer writes for white space, numbers and strings is read back by the reader: white space is
passed over, a numeral gives its number and a quoted text gives the text. Each lemma has the rest of the text
as a parameter, so that they can be put together along a document.
-/

namespace Fixtures.Json

open Text (natDigits intDigits hexDigits digit_ne isDigit_of_mem_natDigits)

/-! ## White space -/

/-- The indentation of a line is passed over. -/
theorem skipSpace_newline (level : Nat) (rest : List Char) :
    skipSpace (newline level ++ rest) = skipSpace rest := by
  have blanks (n : Nat) : skipSpace (List.replicate n ' ' ++ rest) = skipSpace rest := by
    induction n with
    | zero => rfl
    | succ n ih => simpa [List.replicate_succ, skipSpace, isSpace] using ih
  simpa [newline, skipSpace, isSpace] using blanks (2 * level)

/-- What is no white space stays. -/
theorem skipSpace_cons {c : Char} (h : isSpace c = false) (rest : List Char) :
    skipSpace (c :: rest) = c :: rest := by
  simp [skipSpace, h]

/-! ## Numbers -/

/-- The rest of a text in which a numeral does not go on. -/
def EndsNumeral (rest : List Char) : Prop :=
  ∀ c ∈ rest.head?, Text.isDigit c = false ∧ c ≠ '.' ∧ c ≠ 'e' ∧ c ≠ 'E'

/-- A digit is no white space. -/
theorem isSpace_digit {c : Char} (h : Text.isDigit c = true) : isSpace c = false := by
  have blank : c ≠ ' ' := digit_ne h (by decide)
  have feed : c ≠ '\n' := digit_ne h (by decide)
  have tab : c ≠ '\t' := digit_ne h (by decide)
  have cr : c ≠ '\r' := digit_ne h (by decide)
  simp [isSpace, blank, feed, tab, cr]

/-- A numeral that does not go on is an integer. -/
theorem afterInteger_of_ends {negative : Bool} {n : Nat} {rest : List Char} (h : EndsNumeral rest) :
    afterInteger negative n rest =
      if ¬ negative then .ok (.int n, rest)
      else if n = 0 ∨ UInt64.size / 2 < n then .ok (.float (-(Float.ofNat n)), rest)
      else .ok (.int (-n), rest) := by
  cases rest with
  | nil => rfl
  | cons c rest =>
    obtain ⟨-, dot, small, capital⟩ := h c rfl
    unfold afterInteger
    split
    · next he => cases he; contradiction
    · next he => cases he; contradiction
    · next he => cases he; contradiction
    · rfl

/-- Further digits are read at their value as long as the number fits 64 bits. -/
theorem integerDigits_append {negative : Bool} {digits rest : List Char} {n : Nat}
    (hdigits : ∀ c ∈ digits, Text.isDigit c = true)
    (fits : Nat.ofDigitChars 10 digits n ≤ maxExact) (h : EndsNumeral rest) :
    integerDigits negative n (digits ++ rest) =
      afterInteger negative (Nat.ofDigitChars 10 digits n) rest := by
  induction digits generalizing n with
  | nil =>
    cases rest with
    | nil => rfl
    | cons c rest => simp [integerDigits, (h c rfl).1]
  | cons c digits ih =>
    have hc := hdigits c List.mem_cons_self
    rw [Text.ofDigitChars_cons] at fits ⊢
    have whole : n * 10 + Text.digitValue c ≤ maxExact := Nat.le_trans (Text.le_ofDigitChars digits _) fits
    rw [List.cons_append, integerDigits, if_pos hc]
    dsimp only
    rw [if_neg (by omega)]
    exact ih (fun d hd => hdigits d (List.mem_cons_of_mem _ hd)) fits

/-- A numeral is read at its value. -/
theorem number_natDigits {negative : Bool} {n : Nat} {rest : List Char} (fits : n ≤ maxExact)
    (h : EndsNumeral rest) :
    number negative (natDigits n ++ rest) = afterInteger negative n rest := by
  rcases Nat.eq_zero_or_pos n with rfl | positive
  -- A leading zero must stand alone, and what ends the numeral is no digit.
  · cases rest with
    | nil => rfl
    | cons c rest =>
      have hc := (h c rfl).1
      simp [natDigits, number, hc]
  · have first := Text.head_natDigits_ne positive
    have value := @Nat.ofDigitChars_ten_toDigits n
    have isDigits (c : Char) (hc : c ∈ natDigits n) := isDigit_of_mem_natDigits hc
    rw [← natDigits] at value
    cases hn : natDigits n with
    | nil => exact absurd hn (Text.natDigits_ne_nil n)
    | cons c digits =>
      rw [hn] at first value isDigits
      have hc := isDigits c List.mem_cons_self
      have notZero : c ≠ '0' := by simpa using first
      have whole : Nat.ofDigitChars 10 digits (Text.digitValue c) = n := by
        simpa [Nat.ofDigitChars_cons, Text.digitValue] using value
      rw [List.cons_append, number]
      · rw [if_pos hc, integerDigits_append (fun d hd => isDigits d (List.mem_cons_of_mem _ hd))
          (by omega) h, whole]
      · intro he
        exact notZero he

/-! ## Strings -/

theorem quote_append (s : String) (rest : List Char) :
    quote s ++ rest = '"' :: (s.toList.flatMap escape ++ '"' :: rest) := by
  simp [quote]

/-- The code of a control character is read back. -/
theorem escaped_code {c : Char} (h : c.toNat < 0x20) (rest : List Char) :
    escaped ('u' :: hexDigits 4 c.toNat ++ rest) = .ok (c, rest) := by
  obtain ⟨w, x, y, z, hw, value, -⟩ := Text.exists_four_digits (by omega : c.toNat < 0x10000)
  rw [hw]
  have below : ¬ (0xDC00 ≤ c.toNat ∧ c.toNat ≤ 0xDFFF) := by omega
  have outside : ¬ (0xD800 ≤ c.toNat ∧ c.toNat ≤ 0xDBFF) := by omega
  simp only [List.cons_append, List.nil_append, escaped, fourHex, value, if_neg below, if_neg outside,
    Char.ofNat_toNat]

/-- A character of a string literal is read back. -/
theorem stringChars_escape (fuel : Nat) (read : List Char) (c : Char) (rest : List Char) :
    stringChars (fuel + 1) read (escape c ++ rest) = stringChars fuel (c :: read) rest := by
  unfold escape
  split
  case h_8 quotes slash _ _ _ _ _ =>
    split
    · next control =>
      have code := escaped_code control rest
      rw [List.cons_append] at code
      simp [stringChars, code]
    · next plain =>
      rw [List.singleton_append, stringChars, if_neg quotes, if_neg slash, if_neg plain]
  all_goals simp [stringChars, escaped]

/-- The characters of a string literal are read up to its closing quotation mark. -/
theorem stringChars_flatMap {fuel : Nat} (read text rest : List Char) (h : text.length < fuel) :
    stringChars fuel read (text.flatMap escape ++ '"' :: rest) =
      .ok (String.ofList (read.reverse ++ text), rest) := by
  induction text generalizing fuel read with
  | nil =>
    obtain ⟨fuel, rfl⟩ := Nat.exists_eq_add_of_lt h
    simp [stringChars]
  | cons c text ih =>
    obtain ⟨fuel, rfl⟩ : ∃ less, fuel = less + 1 := ⟨fuel - 1, by simp at h; omega⟩
    rw [List.flatMap_cons, List.append_assoc, stringChars_escape,
      ih (c :: read) (by simpa using h)]
    simp

theorem length_le_flatMap_escape (text : List Char) : text.length ≤ (text.flatMap escape).length := by
  induction text with
  | nil => simp
  | cons c text ih =>
    have one : 0 < (escape c).length := by
      unfold escape
      split <;> try simp
      split <;> simp
    rw [List.flatMap_cons, List.length_append, List.length_cons]
    omega

/-- A text is read back from its string literal. -/
theorem stringBody_quote (s : String) (rest : List Char) :
    stringBody (s.toList.flatMap escape ++ '"' :: rest) = .ok (s, rest) := by
  have long := length_le_flatMap_escape s.toList
  rw [stringBody, stringChars_flatMap]
  · simp
  · simp only [List.length_append, List.length_cons]
    omega

end Fixtures.Json
