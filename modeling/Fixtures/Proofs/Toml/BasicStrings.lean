import Fixtures.Proofs.Text.Hexadecimal
import Fixtures.Proofs.Toml.Numbers
import Mathlib.Data.List.TakeWhile

/-!
# Strings between double quotation marks

The texts that stand for a string on one line: its characters may stand for themselves or be written as escapes,
with the code of any Unicode character in four or eight digits.

## Main results

* `basicString_of_spells`: a string is read as the characters that it spells.
* `item_of_spells` is about such a string as an item. Strings on several lines are tried first and give way, unless
  the empty string stands before one more quotation mark.
* `spells_written`: every string can be written.
-/

namespace Fixtures.Toml

/-! ## The grammar -/

/-- The characters that stand behind a backslash, each with the one it stands for there. -/
def shortEscapes : List (Char × Char) :=
  [('b', '\x08'), ('f', '\x0c'), ('n', '\n'), ('r', '\r'), ('t', '\t'), ('\\', '\\'), ('"', '"')]

/-- The characters behind a backslash that announce the code of a character, each with the number of its digits. -/
def codeEscapes : List (Char × Nat) := [('u', 4), ('U', 8)]

/-- The characters of a string that stand for some others, to the closing quotation mark. -/
inductive Spells : List Char → List Char → List Char → Prop
  | close {text : List Char} : Spells ('"' :: text) [] text
  | plain {c : Char} {text chars rest : List Char} (h : isPlain c = true) (more : Spells text chars rest) :
      Spells (c :: text) (c :: chars) rest
  | short {e c : Char} {text chars rest : List Char} (h : (e, c) ∈ shortEscapes) (more : Spells text chars rest) :
      Spells ('\\' :: e :: text) (c :: chars) rest
  | code {e c : Char} {width : Nat} {digits text chars rest : List Char} (h : (e, width) ∈ codeEscapes)
      (long : digits.length = width) (value : Text.readHex? digits = some c.toNat)
      (more : Spells text chars rest) : Spells ('\\' :: e :: (digits ++ text)) (c :: chars) rest

variable {text chars rest : List Char}

theorem Spells.length_lt (h : Spells text chars rest) : rest.length < text.length := by
  induction h with
  | close => exact Nat.lt_succ_self _
  | plain _ _ ih => exact Nat.lt_succ_of_lt ih
  | short _ _ ih => exact Nat.lt_succ_of_lt (Nat.lt_succ_of_lt ih)
  | code _ _ _ _ ih =>
    simp only [List.length_cons, List.length_append]
    omega

/-! ## Reading -/

theorem escape_of_mem {e c : Char} (h : (e, c) ∈ shortEscapes) (rest : List Char) :
    escape (e :: rest) = .ok (c, rest) := by
  simp only [shortEscapes, List.mem_cons, Prod.mk.injEq, List.not_mem_nil, or_false] at h
  rcases h with ⟨rfl, rfl⟩ | ⟨rfl, rfl⟩ | ⟨rfl, rfl⟩ | ⟨rfl, rfl⟩ | ⟨rfl, rfl⟩ | ⟨rfl, rfl⟩ | ⟨rfl, rfl⟩ <;> rfl

/-- The code of a character is read if it has the right number of digits. -/
theorem codePoint_of_readHex? {c : Char} {width : Nat} {digits : List Char} (long : digits.length = width)
    (value : Text.readHex? digits = some c.toNat) (rest : List Char) :
    codePoint width (digits ++ rest) = .ok (c, rest) := by
  have digital : ∀ d ∈ digits, (Text.digitIn? 16 d).isSome = true := by
    intro d hd
    by_contra none
    rw [Text.readHex?, Text.readBase?_eq_none hd (by simpa using none)] at value
    cases value
  have front : (digits ++ rest).take width = digits := List.take_left' long
  have all : digits.takeWhile (fun d => (Text.digitIn? 16 d).isSome) = digits := List.takeWhile_eq_self_iff.mpr digital
  have valid : c.toNat.isValidChar := c.valid
  simp only [codePoint, front, all, long, ne_eq, not_true_eq_false, if_false, value, valid, if_true,
    Char.ofNat_toNat, List.drop_left' long]

theorem escape_code {e c : Char} {width : Nat} (h : (e, width) ∈ codeEscapes) {digits : List Char}
    (long : digits.length = width) (value : Text.readHex? digits = some c.toNat) (rest : List Char) :
    escape (e :: (digits ++ rest)) = .ok (c, rest) := by
  have read := codePoint_of_readHex? long value rest
  simp only [codeEscapes, List.mem_cons, Prod.mk.injEq, List.not_mem_nil, or_false] at h
  rcases h with ⟨rfl, rfl⟩ | ⟨rfl, rfl⟩ <;>
  · simp only [escape, read]
    rfl

theorem basicBody_of_spells {fuel : Nat} (h : Spells text chars rest) (read : List Char) (enough : text.length < fuel) :
    basicBody fuel read text = .ok (read.reverse ++ chars, rest) := by
  induction h generalizing fuel read with
  | close =>
    obtain ⟨fuel, rfl⟩ := Nat.exists_eq_succ_of_ne_zero (Nat.ne_zero_of_lt enough)
    rw [List.append_nil]
    rfl
  | @plain c _ _ _ plain _ ih =>
    obtain ⟨fuel, rfl⟩ := Nat.exists_eq_succ_of_ne_zero (Nat.ne_zero_of_lt enough)
    have backslash : c ≠ '\\' := by
      rintro rfl
      exact absurd plain (by decide)
    rw [basicBody_cons backslash, if_pos plain, ih _ (Nat.lt_of_succ_lt_succ enough)]
    simp
  | short short _ ih =>
    obtain ⟨fuel, rfl⟩ := Nat.exists_eq_succ_of_ne_zero (Nat.ne_zero_of_lt enough)
    simp only [List.length_cons] at enough
    simp only [basicBody, escape_of_mem short]
    simp [ih _ (show _ < fuel by omega)]
  | code announced long value _ ih =>
    obtain ⟨fuel, rfl⟩ := Nat.exists_eq_succ_of_ne_zero (Nat.ne_zero_of_lt enough)
    simp only [List.length_cons, List.length_append] at enough
    simp only [basicBody, escape_code announced long value]
    simp [ih _ (show _ < fuel by omega)]

/-- A string is read as the characters that it spells. -/
theorem basicString_of_spells (h : Spells text chars rest) : basicString ('"' :: text) = .ok (chars, rest) := by
  simp only [basicString, one, decide_true, if_true, andThen, basicBody_of_spells h [] (Nat.lt_succ_self _),
    List.reverse_nil, List.nil_append]

/-! ## Strings as items -/

/-- A string is not read as one on several lines, unless it is empty and one more quotation mark stands behind it. -/
theorem linesString_of_spells (h : Spells text chars rest) (apart : rest.head? ≠ some '"') :
    GivesWay (linesString '"' ('"' :: text)) := by
  have short : List.isPrefixOf ['"', '"', '"'] ('"' :: text) = false := by
    cases h with
    | close =>
      cases rest with
      | nil => rfl
      | cons c rest =>
        have other : ('"' == c) = false := by
          simp only [List.head?_cons, ne_eq, Option.some.injEq] at apart
          simpa using Ne.symm apart
        simp [List.isPrefixOf, other]
    | @plain c _ _ _ plain =>
      have other : c ≠ '"' := by
        rintro rfl
        exact absurd plain (by decide)
      simp [List.isPrefixOf, Ne.symm other]
    | short => rfl
    | code => rfl
  refine GivesWay.labelled (GivesWay.andThen ?_ _) _
  rw [exactly, short]
  exact .soft _

/-- A string is an item. -/
theorem item_of_spells {s : String} (h : Spells text s.toList rest) (apart : rest.head? ≠ some '"') (levels : Nat) :
    ∃ place, item (levels + 1) ('"' :: text) = .ok (.string s place, rest) := by
  have read : string ('"' :: text) = .ok (s.toList, rest) := by
    rw [string, (linesString_of_spells h apart).orElse, basicString_of_spells h]
    rfl
  refine ⟨⟨('"' :: text).length, rest.length⟩, ?_⟩
  simp [item, read, andThen]

/-! ## Every string can be written -/

/-- A character as it may stand in a string: those that do not stand for themselves as codes. -/
def writtenChar (c : Char) : List Char :=
  if isPlain c then [c] else '\\' :: 'u' :: Text.hexDigits 4 c.toNat

/-- The characters that do not stand for themselves have codes of four digits. -/
theorem readHex?_of_not_plain {c : Char} (h : isPlain c = false) :
    (Text.hexDigits 4 c.toNat).length = 4 ∧ Text.readHex? (Text.hexDigits 4 c.toNat) = some c.toNat := by
  suffices small : c.toNat < 0x80 by
    have fits : c.toNat < 16 ^ 4 := by omega
    exact ⟨Text.length_hexDigits fits, Text.readHex?_of_fits fits⟩
  by_contra large
  have quote : c ≠ '"' := by
    rintro rfl
    exact large (by decide)
  have backslash : c ≠ '\\' := by
    rintro rfl
    exact large (by decide)
  have printable : 0x20 ≤ c.toNat ∧ c.toNat ≠ 0x7f := by omega
  simp [isPlain, isPrintable, quote, backslash, printable] at h

/-- Every string is spelled by its characters, those of them as codes that must be. -/
theorem spells_written (chars rest : List Char) : Spells (chars.flatMap writtenChar ++ '"' :: rest) chars rest := by
  induction chars with
  | nil => exact .close
  | cons c chars ih =>
    rw [List.flatMap_cons, List.append_assoc, writtenChar]
    split
    · next plain => exact .plain plain ih
    · next other =>
      obtain ⟨long, value⟩ := readHex?_of_not_plain (by simpa using other)
      exact .code (by decide) long value ih

end Fixtures.Toml
