import Fixtures.Proofs.Toml.Outcomes

/-!
# Numbers and dates of two settings texts

No number, date or truth value holds a slash, so their readers stop before the secret of the text or find none:
each comes to the same on two texts that differ in a secret.
-/

namespace Fixtures.Toml

open Text (isDigit)

variable {a b : List Char}

/-! ## Digits -/

/-- A character other than an underscore is a digit, or ends the digits. -/
theorem moreDigits_cons (wanted : Char → Bool) {c : Char} (h : c ≠ '_') (fuel : Nat) (more : List Char) :
    moreDigits wanted (fuel + 1) (c :: more) =
      if wanted c then mapOutcome (c :: ·) (moreDigits wanted fuel more) else .ok ([], c :: more) := by
  rw [moreDigits]
  exact h

theorem moreDigits_alike {wanted : Char → Bool} (free : wanted '/' = false) (fuel : Nat) (h : Rests a b) :
    Same (moreDigits wanted fuel a) (moreDigits wanted fuel b) := by
  induction fuel generalizing a b with
  | zero => exact ⟨rfl, h⟩
  | succ fuel ih =>
    obtain ⟨rfl, rfl⟩ | ⟨c, a, b, rfl, rfl, -, rest⟩ := h.cases
    · exact ⟨rfl, h⟩
    · by_cases underscore : c = '_'
      · subst underscore
        refine ((one_alike free (rest (by decide))).firmly.expecting "digit").andThen ?_
        rintro c a _ b - - rfl rest
        exact (ih rest).map_eq (c :: ·)
      · rw [moreDigits_cons wanted underscore, moreDigits_cons wanted underscore]
        split
        · next took =>
          refine (ih (rest ?_)).map_eq (c :: ·)
          rintro rfl
          exact absurd took (by simp [free])
        · exact ⟨rfl, h⟩

theorem digits_alike {wanted : Char → Bool} (free : wanted '/' = false) (h : Rests a b) :
    Same (digits wanted a) (digits wanted b) := by
  refine (one_alike free h).andThen ?_
  rintro c a _ b - - rfl rest
  rw [rest.length_eq]
  exact (moreDigits_alike free _ rest).map_eq (c :: ·)

theorem sign_alike (h : Rests a b) : ∃ negative a' b', sign a = (negative, a') ∧ sign b = (negative, b') ∧ Rests a' b' := by
  obtain ⟨rfl, rfl⟩ | ⟨c, a, b, rfl, rfl, -, rest⟩ := h.cases
  · exact ⟨false, [], [], rfl, rfl, h⟩
  · by_cases minus : c = '-'
    · subst minus
      exact ⟨true, a, b, rfl, rfl, rest (by decide)⟩
    · by_cases plus : c = '+'
      · subst plus
        exact ⟨false, a, b, rfl, rfl, rest (by decide)⟩
      · have eq (x : List Char) : sign (c :: x) = (false, c :: x) := by
          simp only [sign, List.cons.injEq, minus, plus, false_and, imp_self, implies_true]
        exact ⟨false, c :: a, c :: b, eq a, eq b, h⟩

theorem isDigit_slash : isDigit '/' = false := by decide

theorem decimalInteger_alike (h : Rests a b) : Same (decimalInteger a) (decimalInteger b) := by
  refine Alike.labelled "integer" ?_
  obtain ⟨negative, a, b, ha, hb, h⟩ := sign_alike h
  rw [ha, hb]
  have all := (digits_alike isDigit_slash h).map_eq fun ds => (negative, ds)
  obtain ⟨rfl, rfl⟩ | ⟨c, a, b, rfl, rfl, -, rest⟩ := h.cases
  · exact all
  · by_cases zero : c = '0'
    · subst zero
      exact ⟨rfl, rest (by decide)⟩
    · simp only [List.cons.injEq, zero, false_and, imp_self, implies_true]
      exact all

/-! ## Integers -/

/-- The integer that was read, or its refusal at the start of a number. -/
theorem integer_done (r : Except String Int) {c d : List Char} (start : a.length = b.length) (left : Rests c d) :
    Same (match r with | .ok n => .ok (n, c) | .error cause => .error (Refusal.because cause a).settled)
      (match r with | .ok n => .ok (n, d) | .error cause => .error (Refusal.because cause b).settled) := by
  cases r with
  | ok n => exact ⟨rfl, left⟩
  | error cause => exact (because_alike cause start).settled

theorem digitIn?_slash (base : Nat) : (Text.digitIn? base '/').isSome = false := by
  have none : Text.digitIn? base '/' = none := rfl
  rw [none]
  rfl

theorem basedInteger_alike (base : Nat) (label : String) (h : Rests a b) (announced : Rests (a.drop 2) (b.drop 2)) :
    Same (basedInteger base label a) (basedInteger base label b) := by
  refine ((digits_alike (digitIn?_slash base) announced).firmly.labelled label).andThen ?_
  rintro ds c _ d - - rfl left
  exact integer_done _ h.length_eq left

theorem decimal_alike (h : Rests a b) :
    Same
      (andThen (decimalInteger a) fun (negative, ds) left =>
        match toInteger 10 negative ds with
        | .ok n => .ok (n, left)
        | .error cause => .error (Refusal.because cause a).settled)
      (andThen (decimalInteger b) fun (negative, ds) left =>
        match toInteger 10 negative ds with
        | .ok n => .ok (n, left)
        | .error cause => .error (Refusal.because cause b).settled) := by
  refine (decimalInteger_alike h).andThen ?_
  rintro ⟨negative, ds⟩ c _ d - - rfl left
  exact integer_done _ h.length_eq left

theorem integer_alike (h : Rests a b) : Same (integer a) (integer b) := by
  obtain ⟨ha, hb⟩ | ⟨same, rest⟩ := h.take_cases 2
  · have plain {x : List Char} (hx : '/' ∈ x.take 2) (c : Char) (other : c ≠ '/') : x.take 2 ≠ ['0', c] := by
      intro announced
      rw [announced] at hx
      simp [Ne.symm other] at hx
    have decimal {x : List Char} (hx : '/' ∈ x.take 2) :=
      integer_decimal (plain hx 'x' (by decide)) (plain hx 'o' (by decide)) (plain hx 'b' (by decide))
    rw [decimal ha, decimal hb]
    exact decimal_alike h
  · unfold integer
    rw [same]
    split
    · exact basedInteger_alike 16 _ h rest
    · exact basedInteger_alike 8 _ h rest
    · exact basedInteger_alike 2 _ h rest
    · exact decimal_alike h

/-! ## Fractions -/

theorem exponent_alike (h : Rests a b) : Same (exponent a) (exponent b) := by
  refine (one_alike (by decide) h).andThen ?_
  rintro c a _ b - - - h
  obtain ⟨negative, a, b, ha, hb, h⟩ := sign_alike h
  rw [ha, hb]
  exact (digits_alike isDigit_slash h).firmly.map_eq _

theorem fraction_alike (h : Rests a b) : Same (fraction a) (fraction b) := by
  refine (one_alike (by decide) h).andThen ?_
  rintro c a _ b - - - h
  exact (digits_alike isDigit_slash h).firmly.expecting "digit"

theorem fractionPart_alike (h : Rests a b) : Same (fractionPart a) (fractionPart b) := by
  refine ((exponent_alike h).map_eq _).orElse ?_
  refine (fraction_alike h).andThen ?_
  rintro ds a _ b - - rfl h
  exact ((exponent_alike h).optionally h).map_eq _

theorem decimalFraction_alike (h : Rests a b) : Same (decimalFraction a) (decimalFraction b) := by
  refine (decimalInteger_alike h).andThen ?_
  rintro ⟨negative, whole⟩ c _ d - - rfl left
  refine (fractionPart_alike left).andThen ?_
  rintro ⟨ds, e⟩ c _ d - - rfl left
  dsimp only
  split
  · exact (soft_alike h.length_eq).settled
  · exact ⟨rfl, left⟩

theorem specialFraction_alike (h : Rests a b) : Same (specialFraction a) (specialFraction b) := by
  unfold specialFraction
  obtain ⟨negative, a, b, ha, hb, h⟩ := sign_alike h
  rw [ha, hb]
  refine Alike.map_eq ?_ _
  exact ((exactly_alike (by decide) h).map_eq _).orElse ((exactly_alike (by decide) h).map_eq _)

theorem float_alike (h : Rests a b) : Same (float a) (float b) :=
  ((decimalFraction_alike h).orElse (specialFraction_alike h)).labelled _

/-! ## Dates and times -/

/-- Characters with a slash among them are not all of a kind without slashes. -/
theorem length_takeWhile_ne {p : Char → Bool} (free : p '/' = false) {rest : List Char} {n : Nat}
    (h : '/' ∈ rest.take n) : ((rest.take n).takeWhile p).length ≠ n := by
  intro long
  have whole : (rest.take n).takeWhile p = rest.take n :=
    (List.takeWhile_prefix p).eq_of_length_le (by rw [long]; exact List.length_take_le n rest)
  rw [← whole] at h
  exact absurd (List.all_eq_true.1 List.all_takeWhile _ h) (by simp [free])

theorem fixedDigits_alike (width : Nat) (h : Rests a b) : Same (fixedDigits width a) (fixedDigits width b) := by
  unfold fixedDigits
  dsimp only
  obtain ⟨ha, hb⟩ | ⟨same, rest⟩ := h.take_cases width
  · rw [if_neg (length_takeWhile_ne isDigit_slash ha), if_neg (length_takeWhile_ne isDigit_slash hb)]
    exact soft_alike h.length_eq
  · rw [same]
    split
    · exact ⟨rfl, rest⟩
    · exact soft_alike h.length_eq

theorem part_alike (least greatest : Nat) (h : Rests a b) : Same (part least greatest a) (part least greatest b) := by
  refine (fixedDigits_alike 2 h).andThen ?_
  rintro n c _ d - - rfl left
  split
  · exact ⟨rfl, left⟩
  · exact because_alike _ h.length_eq

theorem date_alike (h : Rests a b) : Same (date a) (date b) := by
  refine (fixedDigits_alike 4 h).andThen ?_
  rintro year a _ b - - rfl h
  refine (mark_alike (by decide) h).andThen ?_
  rintro - a - b - - - h
  refine Alike.firmly ((part_alike 1 12 h).andThen ?_)
  rintro month a _ b - - rfl h
  refine (mark_alike (by decide) h).andThen ?_
  rintro - a - b - - - h
  refine (part_alike 1 31 h).andThen ?_
  rintro day c _ d - - rfl left
  split
  · exact ⟨rfl, left⟩
  · exact because_alike _ h.length_eq

theorem secondFraction_alike (h : Rests a b) : Same (secondFraction a) (secondFraction b) := by
  refine (mark_alike (by decide) h).andThen ?_
  rintro - a - b - - - h
  refine (one_alike isDigit_slash h).andThen ?_
  rintro - a - b - - - h
  exact ⟨rfl, h.dropWhile isDigit_slash⟩

theorem time_alike (h : Rests a b) : Same (time a) (time b) := by
  refine (part_alike 0 23 h).andThen ?_
  rintro - a - b - - - h
  refine (mark_alike (by decide) h).andThen ?_
  rintro - a - b - - - h
  refine Alike.firmly ((part_alike 0 59 h).andThen ?_)
  rintro - a - b - - - h
  refine (mark_alike (by decide) h).andThen ?_
  rintro - a - b - - - h
  refine (part_alike 0 60 h).andThen ?_
  rintro - a - b - - - h
  exact ((secondFraction_alike h).optionally h).map_eq _

theorem timeOffset_alike (h : Rests a b) : Same (timeOffset a) (timeOffset b) := by
  refine (((one_alike (by decide) h).map_eq _).orElse ?_).labelled _
  refine (one_alike (by decide) h).andThen ?_
  rintro - a - b - - - h
  refine Alike.firmly ((part_alike 0 23 h).andThen ?_)
  rintro - a - b - - - h
  refine (mark_alike (by decide) h).andThen ?_
  rintro - a - b - - - h
  exact (part_alike 0 59 h).map_eq _

theorem timeAfterDate_alike (h : Rests a b) : Same (timeAfterDate a) (timeAfterDate b) := by
  refine (one_alike (by decide) h).andThen ?_
  rintro - a - b - - - h
  refine (time_alike h).andThen ?_
  rintro - a - b - - - h
  exact ((timeOffset_alike h).optionally h).map_eq _

theorem dateTime_alike (h : Rests a b) : Same (dateTime a) (dateTime b) := by
  refine Alike.orElse (Alike.labelled _ ((date_alike h).andThen ?_)) ((time_alike h).labelled _)
  rintro - a - b - - - h
  exact ((timeAfterDate_alike h).optionally h).map_eq _

end Fixtures.Toml
