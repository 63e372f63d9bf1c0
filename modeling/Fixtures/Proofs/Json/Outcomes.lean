import Fixtures.Json.Decode
import Fixtures.Proofs.Text.Numerals
import Fixtures.Proofs.Text.Secrets
import Mathlib.Data.List.DropRight

/-!
# Readings of two JSON texts

Two texts that differ in a secret are read by one reader after another. `Alike` relates the outcomes: both readings
succeed, with related values, or both fail with one cause at one place. A reader that takes no slash stops before
the secret; so white space, literals and numbers are the same in both texts.
-/

namespace Fixtures.Json

open Text (Veiled)

/-! ## Outcomes that are alike -/

/-- Two places, or none. -/
def PlacesAlike : Option (List Char × Nat) → Option (List Char × Nat) → Prop
  | none, none => True
  | some (a, n), some (b, m) => Veiled a b ∧ n = m
  | _, _ => False

/-- Two faults of one cause, at veiled texts. -/
structure Fault.Alike (f g : Fault) : Prop where
  cause : f.cause = g.cause
  rest : Veiled f.rest g.rest
  place : PlacesAlike f.place g.place

/-- Two outcomes that both succeed, with related values and related texts behind them, or fail alike. -/
def Alike {α : Type} (R : List Char → List Char → Prop) (V : α → α → Prop) : Outcome α → Outcome α → Prop
  | .ok (v, a), .ok (w, b) => V v w ∧ R a b
  | .error f, .error g => f.Alike g
  | _, _ => False

/-- Two outcomes with the same value, or alike faults. -/
abbrev Same {α : Type} : Outcome α → Outcome α → Prop := Alike Veiled (· = ·)

section Alike

variable {α β : Type} {R : List Char → List Char → Prop} {V : α → α → Prop} {W : β → β → Prop}
  {x y : Outcome α} {a b : List Char}

theorem Alike.cases (h : Alike R V x y) :
    (∃ v a w b, x = .ok (v, a) ∧ y = .ok (w, b) ∧ V v w ∧ R a b) ∨
      ∃ f g, x = .error f ∧ y = .error g ∧ f.Alike g := by
  rcases x with f | ⟨v, a⟩ <;> rcases y with g | ⟨w, b⟩
  · exact .inr ⟨f, g, rfl, rfl, h⟩
  · exact h.elim
  · exact h.elim
  · exact .inl ⟨v, a, w, b, rfl, rfl, h.1, h.2⟩

theorem Alike.map {f g : α → β} (h : Alike R V x y) (hf : ∀ v w, V v w → W (f v) (g w)) :
    Alike R W (mapOutcome f x) (mapOutcome g y) := by
  obtain ⟨v, a, w, b, rfl, rfl, value, rest⟩ | ⟨_, _, rfl, rfl, fault⟩ := h.cases
  · exact ⟨hf v w value, rest⟩
  · exact fault

theorem Alike.any (h : Alike R V x y) : Alike R (fun _ _ => True) x y := by
  obtain ⟨v, a, w, b, rfl, rfl, -, rest⟩ | ⟨_, _, rfl, rfl, fault⟩ := h.cases
  · exact ⟨trivial, rest⟩
  · exact fault

theorem Alike.map_eq {f : α → β} (h : Alike R (· = ·) x y) : Alike R (· = ·) (mapOutcome f x) (mapOutcome f y) :=
  h.map fun _ _ same => congrArg f same

theorem fault_alike (cause : Cause) (h : Veiled a b) (extra : Nat) : (fault cause a extra).Alike (fault cause b extra) :=
  ⟨rfl, h, h, rfl⟩

theorem faultNext_alike (cause : Cause) (h : Veiled a b) : (faultNext cause a).Alike (faultNext cause b) := by
  have empty : a.isEmpty = b.isEmpty := by
    rw [Bool.eq_iff_iff, List.isEmpty_iff_length_eq_zero, List.isEmpty_iff_length_eq_zero, h.length_eq]
  rw [faultNext, faultNext, empty]
  exact fault_alike cause h _

theorem shapeFault_alike (m : Data.Mismatch) (h : Veiled a b) : (shapeFault m a).Alike (shapeFault m b) :=
  ⟨rfl, h, trivial⟩

theorem Fault.Alike.settle {f g : Fault} (h : f.Alike g) : f.settle.Alike g.settle := by
  obtain ⟨cause, rest, place⟩ := h
  unfold Fault.settle
  rcases hf : f.place with _ | ⟨a, n⟩ <;> rcases hg : g.place with _ | ⟨b, m⟩ <;> rw [hf, hg] at place
  · exact ⟨cause, rest, rest, rfl⟩
  · exact place.elim
  · exact place.elim
  · exact ⟨cause, rest, by rw [hf, hg]; exact place⟩

theorem Alike.settle (h : Alike R V x y) : Alike R V (settle x) (settle y) := by
  obtain ⟨v, a, w, b, rfl, rfl, value, rest⟩ | ⟨f, g, rfl, rfl, fault⟩ := h.cases
  · exact ⟨value, rest⟩
  · exact fault.settle

end Alike

/-! ## White space and literals -/

variable {a b : List Char}

theorem skipSpace_veiled (h : Veiled a b) : Veiled (skipSpace a) (skipSpace b) := h.dropWhile (by decide)

theorem literal_alike {letters : List Char} (free : '/' ∉ letters) (h : Veiled a b) :
    Same (literal letters a) (literal letters b) := by
  induction letters generalizing a b with
  | nil => exact ⟨rfl, h⟩
  | cons l letters ih =>
    rw [List.mem_cons, not_or] at free
    obtain ⟨rfl, rfl⟩ | ⟨c, a, b, rfl, rfl, -, rest⟩ := h.cases
    · exact fault_alike _ h 0
    · rw [literal, literal]
      split
      · next same => exact ih free.2 (rest fun slash => free.1 (slash.symm.trans same.symm))
      · exact fault_alike _ h 1

/-! ## Numbers -/

theorem ne_slash_of_isDigit {c : Char} (h : Text.isDigit c = true) : c ≠ '/' := by
  rintro rfl
  exact absurd h (by decide)

theorem floatNumeral_alike (negative : Bool) (significand : Nat) (exponent : Int) (h : Veiled a b) :
    Same (floatNumeral negative significand exponent a) (floatNumeral negative significand exponent b) := by
  unfold floatNumeral
  split
  · exact ⟨rfl, h⟩
  · exact fault_alike _ h 0

theorem exponentDigits_alike (negative : Bool) (significand : Nat) (start : Int) (negativeExponent : Bool)
    (exponent : Nat) (h : Veiled a b) :
    Same (exponentDigits negative significand start negativeExponent exponent a)
      (exponentDigits negative significand start negativeExponent exponent b) := by
  induction a generalizing b exponent with
  | nil =>
    obtain ⟨-, rfl⟩ | ⟨_, _, _, first, -⟩ := h.cases
    · exact floatNumeral_alike _ _ _ h
    · cases first
  | cons c a ih =>
    obtain ⟨empty, -⟩ | ⟨_, _, b, first, rfl, -, rest⟩ := h.cases
    · cases empty
    · cases first
      rw [exponentDigits, exponentDigits]
      split
      · next digit =>
        have rest := rest (ne_slash_of_isDigit digit)
        dsimp only
        split
        · split
          · exact fault_alike _ rest 0
          · exact ⟨rfl, rest.dropWhile (by decide)⟩
        · exact ih _ rest
      · exact floatNumeral_alike _ _ _ h

/-- The sign of an exponent, true for a minus sign, and what is behind it. -/
def signed (rest : List Char) : Bool × List Char :=
  match rest with
  | '+' :: rest => (false, rest)
  | '-' :: rest => (true, rest)
  | rest => (false, rest)

theorem signed_of_unsigned {rest : List Char} (plus : ∀ more, rest ≠ '+' :: more)
    (minus : ∀ more, rest ≠ '-' :: more) : signed rest = (false, rest) := by
  unfold signed
  split
  · exact absurd rfl (plus _)
  · exact absurd rfl (minus _)
  · rfl

theorem signed_alike (h : Veiled a b) : (signed a).1 = (signed b).1 ∧ Veiled (signed a).2 (signed b).2 := by
  unfold signed
  obtain ⟨rfl, rfl⟩ | ⟨c, a, b, rfl, rfl, -, rest⟩ := h.cases
  · exact ⟨rfl, h⟩
  · split
    · next e =>
      cases e
      exact ⟨rfl, rest (by decide)⟩
    · next e =>
      cases e
      exact ⟨rfl, rest (by decide)⟩
    · next plus minus =>
      have plus : c ≠ '+' := by simpa using plus
      have minus : c ≠ '-' := by simpa using minus
      simp only [List.cons.injEq, plus, minus, false_and, imp_self, implies_true]
      exact ⟨trivial, h⟩

/-- An exponent is its sign and its digits. -/
theorem exponentPart_eq (negative : Bool) (significand : Nat) (start : Int) (rest : List Char) :
    exponentPart negative significand start rest = match (signed rest).2 with
      | [] => .error (fault .eofValue [] 0)
      | c :: more =>
        if Text.isDigit c then
          exponentDigits negative significand start (signed rest).1 (Text.digitValue c) more
        else .error (fault .invalidNumber (c :: more) 1) := by
  unfold exponentPart
  split
  next negativeExponent digits e =>
  have e : signed rest = (negativeExponent, digits) := e
  rw [e]
  cases digits <;> rfl

theorem exponentPart_alike (negative : Bool) (significand : Nat) (start : Int) (h : Veiled a b) :
    Same (exponentPart negative significand start a) (exponentPart negative significand start b) := by
  obtain ⟨sign, digits⟩ := signed_alike h
  rw [exponentPart_eq, exponentPart_eq, sign]
  obtain ⟨ha, hb⟩ | ⟨c, a', b', ha, hb, -, rest⟩ := digits.cases
  · rw [ha, hb]
    exact fault_alike _ (.alike []) 0
  · rw [ha, hb]
    rw [ha, hb] at digits
    dsimp only
    split
    · next digit => exact exponentDigits_alike _ _ _ _ _ (rest (ne_slash_of_isDigit digit))
    · exact fault_alike _ digits 1

theorem afterSignificand_alike (negative : Bool) (significand : Nat) (exponent : Int) (h : Veiled a b) :
    Same (afterSignificand negative significand exponent a) (afterSignificand negative significand exponent b) := by
  unfold afterSignificand
  obtain ⟨rfl, rfl⟩ | ⟨c, a, b, rfl, rfl, -, rest⟩ := h.cases
  · exact floatNumeral_alike _ _ _ h
  · split
    · next e =>
      cases e
      exact exponentPart_alike _ _ _ (rest (by decide))
    · next e =>
      cases e
      exact exponentPart_alike _ _ _ (rest (by decide))
    · next small great =>
      have small : c ≠ 'e' := by simpa using small
      have great : c ≠ 'E' := by simpa using great
      simp only [List.cons.injEq, small, great, false_and, imp_self, implies_true]
      exact floatNumeral_alike _ _ _ h

theorem fractionDigits_alike (negative : Bool) (significand : Nat) (start : Int) (count : Nat) (h : Veiled a b) :
    Same (fractionDigits negative significand start count a) (fractionDigits negative significand start count b) := by
  induction a generalizing b significand count with
  | nil =>
    obtain ⟨-, rfl⟩ | ⟨_, _, _, first, -⟩ := h.cases
    · rw [fractionDigits]
      split
      · exact fault_alike _ h 0
      · exact afterSignificand_alike _ _ _ h
    · cases first
  | cons c a ih =>
    obtain ⟨empty, -⟩ | ⟨_, _, b, first, rfl, -, rest⟩ := h.cases
    · cases empty
    · cases first
      rw [fractionDigits, fractionDigits]
      split
      · next digit =>
        have rest := rest (ne_slash_of_isDigit digit)
        dsimp only
        split
        · exact afterSignificand_alike _ _ _ (rest.dropWhile (by decide))
        · exact ih _ _ rest
      · split
        · exact faultNext_alike _ h
        · exact afterSignificand_alike _ _ _ h

theorem longInteger_alike (negative : Bool) (significand : Nat) (h : Veiled a b) :
    Same (longInteger negative significand a) (longInteger negative significand b) := by
  unfold longInteger
  dsimp only
  rw [h.takeWhile_eq (by decide)]
  obtain ⟨ha, hb⟩ | ⟨c, a', b', ha, hb, -, rest⟩ := (h.dropWhile (p := Text.isDigit) (by decide)).cases
  · rw [ha, hb]
    exact afterSignificand_alike _ _ _ (.alike [])
  · have h := h.dropWhile (p := Text.isDigit) (by decide)
    rw [ha, hb] at h ⊢
    split
    · next e =>
      cases e
      exact fractionDigits_alike _ _ _ _ (rest (by decide))
    · next point =>
      have point : c ≠ '.' := by simpa using point
      simp only [List.cons.injEq, point, false_and, imp_self, implies_true]
      exact afterSignificand_alike _ _ _ h

theorem afterInteger_alike (negative : Bool) (significand : Nat) (h : Veiled a b) :
    Same (afterInteger negative significand a) (afterInteger negative significand b) := by
  have done {a b : List Char} (h : Veiled a b) :
      Same
        (if ¬ negative then .ok (Numeral.int significand, a)
        else if significand = 0 ∨ UInt64.size / 2 < significand then .ok (.float (-(Float.ofNat significand)), a)
        else .ok (.int (-significand), a))
        (if ¬ negative then .ok (Numeral.int significand, b)
        else if significand = 0 ∨ UInt64.size / 2 < significand then .ok (.float (-(Float.ofNat significand)), b)
        else .ok (.int (-significand), b)) := by
    split
    · exact ⟨rfl, h⟩
    · split <;> exact ⟨rfl, h⟩
  -- A point or an exponent makes it a number with a fraction; anything else is behind it.
  unfold afterInteger
  obtain ⟨rfl, rfl⟩ | ⟨c, a, b, rfl, rfl, -, rest⟩ := h.cases
  · exact done h
  · split
    · next e =>
      cases e
      exact fractionDigits_alike _ _ _ _ (rest (by decide))
    · next e =>
      cases e
      exact exponentPart_alike _ _ _ (rest (by decide))
    · next e =>
      cases e
      exact exponentPart_alike _ _ _ (rest (by decide))
    · next point small great =>
      have point : c ≠ '.' := by simpa using point
      have small : c ≠ 'e' := by simpa using small
      have great : c ≠ 'E' := by simpa using great
      simp only [List.cons.injEq, point, small, great, false_and, imp_self, implies_true]
      exact done h

theorem integerDigits_alike (negative : Bool) (significand : Nat) (h : Veiled a b) :
    Same (integerDigits negative significand a) (integerDigits negative significand b) := by
  induction a generalizing b significand with
  | nil =>
    obtain ⟨-, rfl⟩ | ⟨_, _, _, first, -⟩ := h.cases
    · exact afterInteger_alike _ _ h
    · cases first
  | cons c a ih =>
    obtain ⟨empty, -⟩ | ⟨_, _, b, first, rfl, -, rest⟩ := h.cases
    · cases empty
    · cases first
      rw [integerDigits, integerDigits]
      split
      · next digit =>
        dsimp only
        split
        · exact longInteger_alike _ _ h
        · exact ih _ (rest (ne_slash_of_isDigit digit))
      · exact afterInteger_alike _ _ h

/-- A number that does not begin with a zero begins with another digit. -/
theorem number_cons (negative : Bool) {c : Char} (h : c ≠ '0') (rest : List Char) :
    number negative (c :: rest) =
      if Text.isDigit c then integerDigits negative (Text.digitValue c) rest
      else .error (fault .invalidNumber (c :: rest) 1) := by
  rw [number]
  exact h

theorem number_alike (negative : Bool) (h : Veiled a b) : Same (number negative a) (number negative b) := by
  obtain ⟨rfl, rfl⟩ | ⟨c, a, b, rfl, rfl, -, rest⟩ := h.cases
  · exact fault_alike _ h 0
  · by_cases zero : c = '0'
    · subst zero
      have rest := rest (by decide)
      obtain ⟨rfl, rfl⟩ | ⟨c, a, b, rfl, rfl, -, -⟩ := rest.cases
      · exact afterInteger_alike _ _ rest
      · rw [number, number]
        split
        · exact faultNext_alike _ rest
        · exact afterInteger_alike _ _ rest
    · rw [number_cons negative zero, number_cons negative zero]
      split
      · next digit => exact integerDigits_alike _ _ (rest (ne_slash_of_isDigit digit))
      · exact fault_alike _ h 1

/-! ## Numbers passed over -/

/-- An exponent is passed over behind its sign. -/
theorem skipExponent_signed (rest : List Char) :
    skipExponent rest = match (signed rest).2 with
      | [] => .error (fault .invalidNumber [] 0)
      | c :: rest =>
        if Text.isDigit c then .ok ((), rest.dropWhile Text.isDigit)
        else .error (fault .invalidNumber (c :: rest) 1) := by
  unfold skipExponent
  split
  · rfl
  · rfl
  · next plus minus =>
    cases rest <;> rw [signed_of_unsigned plus minus]

theorem skipExponent_alike (h : Veiled a b) : Same (skipExponent a) (skipExponent b) := by
  obtain ⟨-, digits⟩ := signed_alike h
  rw [skipExponent_signed, skipExponent_signed]
  obtain ⟨ha, hb⟩ | ⟨c, a', b', ha, hb, -, rest⟩ := digits.cases
  · rw [ha, hb]
    exact fault_alike _ (.alike []) 0
  · rw [ha, hb] at digits ⊢
    dsimp only
    split
    · next digit => exact ⟨rfl, (rest (ne_slash_of_isDigit digit)).dropWhile (by decide)⟩
    · exact fault_alike _ digits 1

theorem skipAfterDigits_alike (h : Veiled a b) : Same (skipAfterDigits a) (skipAfterDigits b) := by
  unfold skipAfterDigits
  obtain ⟨rfl, rfl⟩ | ⟨c, a, b, rfl, rfl, -, rest⟩ := h.cases
  · exact ⟨rfl, h⟩
  · split
    · next e =>
      cases e
      exact skipExponent_alike (rest (by decide))
    · next e =>
      cases e
      exact skipExponent_alike (rest (by decide))
    · next small great =>
      have small : c ≠ 'e' := by simpa using small
      have great : c ≠ 'E' := by simpa using great
      simp only [List.cons.injEq, small, great, false_and, imp_self, implies_true]
      exact ⟨rfl, h⟩

theorem skipFraction_alike (h : Veiled a b) : Same (skipFraction a) (skipFraction b) := by
  obtain ⟨rfl, rfl⟩ | ⟨c, a, b, rfl, rfl, -, rest⟩ := h.cases
  · exact skipAfterDigits_alike h
  · by_cases point : c = '.'
    · subst point
      have rest := rest (by decide)
      obtain ⟨rfl, rfl⟩ | ⟨c, a, b, rfl, rfl, -, more⟩ := rest.cases
      · exact faultNext_alike _ rest
      · rw [skipFraction, skipFraction]
        split
        · next digit => exact skipAfterDigits_alike ((more (ne_slash_of_isDigit digit)).dropWhile (by decide))
        · exact faultNext_alike _ rest
    · have eq (x : List Char) : skipFraction (c :: x) = skipAfterDigits (c :: x) := by
        simp only [skipFraction, List.cons.injEq, point, false_and, imp_self, implies_true]
      rw [eq, eq]
      exact skipAfterDigits_alike h

/-- A number that does not begin with a zero is passed over with all its digits. -/
theorem skipNumber_cons {c : Char} (h : c ≠ '0') (rest : List Char) :
    skipNumber (c :: rest) =
      if Text.isDigit c then skipFraction (rest.dropWhile Text.isDigit)
      else .error (fault .invalidNumber (c :: rest) 1) := by
  rw [skipNumber]
  exact h

theorem skipNumber_alike (h : Veiled a b) : Same (skipNumber a) (skipNumber b) := by
  obtain ⟨rfl, rfl⟩ | ⟨c, a, b, rfl, rfl, -, rest⟩ := h.cases
  · exact fault_alike _ h 0
  · by_cases zero : c = '0'
    · subst zero
      have rest := rest (by decide)
      obtain ⟨rfl, rfl⟩ | ⟨c, a, b, rfl, rfl, -, -⟩ := rest.cases
      · exact ⟨rfl, rest⟩
      · rw [skipNumber, skipNumber]
        split
        · exact faultNext_alike _ rest
        · exact skipFraction_alike rest
    · rw [skipNumber_cons zero, skipNumber_cons zero]
      split
      · next digit => exact skipFraction_alike ((rest (ne_slash_of_isDigit digit)).dropWhile (by decide))
      · exact fault_alike _ h 1

end Fixtures.Json
