import Fixtures.Json.Decode
import Fixtures.Proofs.Json.Grammar

/-!
# Values passed over

Every well-formed value is passed over, however deep it nests and whatever its numbers and strings are:
`skipValue_of_wellFormed`.

## Shape of the argument

The steps of `skipNested` go on from one stage to another (`GoesOn`). Each phrase of the grammar takes them from
its beginning to its end (`Part.Passed`), in fewer steps than twice the characters of the phrase, which is what
the fuel is for.
-/

namespace Fixtures.Json

/-! ## Numbers -/

section Numbers

variable {text rest : List Char}

/-- Digits are passed over up to a character that is none. -/
theorem Digits.dropWhile_eq (h : Digits text rest) (ends : ∀ c ∈ rest.head?, Text.isDigit c = false) :
    text.dropWhile Text.isDigit = rest := by
  induction h with
  | @nil rest =>
    cases rest with
    | nil => rfl
    | cons c more => rw [List.dropWhile_cons_of_neg (by simp [ends c rfl])]
  | cons digit _ ih => rw [List.dropWhile_cons_of_pos digit, ih ends]

/-- An exponent, or the end of a number, begins with no digit and no decimal point. -/
theorem Exponent.head (h : Exponent text rest) (ends : EndsNumeral rest) :
    ∀ c ∈ text.head?, Text.isDigit c = false ∧ c ≠ '.' := by
  intro c hc
  cases h with
  | none => exact ⟨(ends c hc).1, (ends c hc).2.1⟩
  | digits marked =>
    cases hc
    rcases marked with rfl | rfl <;> decide

theorem Fraction.head {mark : List Char} (h : Fraction text mark) (exponent : Exponent mark rest)
    (ends : EndsNumeral rest) : ∀ c ∈ text.head?, Text.isDigit c = false := by
  intro c hc
  cases h with
  | none => exact (exponent.head ends c hc).1
  | digits =>
    cases hc
    decide

theorem skipExponent_eq {c : Char} {after : List Char} (sign : Sign text (c :: after))
    (digit : Text.isDigit c = true) (more : Digits after rest) (ends : EndsNumeral rest) :
    skipExponent text = .ok ((), rest) := by
  have passed := more.dropWhile_eq fun d hd => (ends d hd).1
  have noPlus : c ≠ '+' := Text.digit_ne digit (by decide)
  have noMinus : c ≠ '-' := Text.digit_ne digit (by decide)
  cases sign <;> simp [skipExponent, noPlus, noMinus, digit, passed]

theorem skipAfterDigits_eq (h : Exponent text rest) (ends : EndsNumeral rest) :
    skipAfterDigits text = .ok ((), rest) := by
  cases h with
  | none =>
    unfold skipAfterDigits
    split
    · exact absurd rfl (ends _ rfl).2.2.1
    · exact absurd rfl (ends _ rfl).2.2.2
    · rfl
  | digits marked sign digit more =>
    rcases marked with rfl | rfl
    · exact skipExponent_eq sign digit more ends
    · exact skipExponent_eq sign digit more ends

theorem skipFraction_eq {mark : List Char} (h : Fraction text mark) (exponent : Exponent mark rest)
    (ends : EndsNumeral rest) : skipFraction text = .ok ((), rest) := by
  cases h with
  | none =>
    unfold skipFraction
    split
    · exact absurd rfl (exponent.head ends _ rfl).2
    · exact skipAfterDigits_eq exponent ends
  | digits digit more =>
    have passed := more.dropWhile_eq fun d hd => (exponent.head ends d hd).1
    simp only [skipFraction, if_pos digit, passed]
    exact skipAfterDigits_eq exponent ends

/-- A number is passed over. -/
theorem skipNumber_eq (h : Number text rest) (ends : EndsNumeral rest) : skipNumber text = .ok ((), rest) := by
  cases h with
  | @mk point _ _ whole fraction exponent =>
    have stops := fraction.head exponent ends
    cases whole with
    | zero =>
      cases point with
      | nil =>
        cases fraction
        cases exponent
        rfl
      | cons c more =>
        simp only [skipNumber, stops c rfl, Bool.false_eq_true, if_false]
        exact skipFraction_eq fraction exponent ends
    | digits digit positive more =>
      rw [skipNumber]
      · rw [if_pos digit, more.dropWhile_eq stops]
        exact skipFraction_eq fraction exponent ends
      · exact positive

end Numbers

/-! ## Strings -/

theorem fourHex_of_readHex? {w x y z : Char} {n : Nat} (h : Text.readHex? [w, x, y, z] = some n)
    (rest : List Char) : fourHex (w :: x :: y :: z :: rest) = .ok (n, rest) := by
  rw [fourHex, h]

theorem skipEscape_of_mem {e c : Char} (h : (e, c) ∈ shortEscapes) (rest : List Char) :
    skipEscape (e :: rest) = .ok ((), rest) := by
  simp only [shortEscapes, List.mem_cons, Prod.mk.injEq, List.not_mem_nil, or_false] at h
  rcases h with ⟨rfl, -⟩ | ⟨rfl, -⟩ | ⟨rfl, -⟩ | ⟨rfl, -⟩ | ⟨rfl, -⟩ | ⟨rfl, -⟩ | ⟨rfl, -⟩ | ⟨rfl, -⟩ <;> rfl

/-- The characters of a string are passed over. -/
theorem skipString_eq {fuel : Nat} {text rest : List Char} (h : Characters text rest)
    (enough : text.length < fuel) : skipString fuel text = .ok ((), rest) := by
  induction h generalizing fuel with
  | close =>
    obtain ⟨fuel, rfl⟩ := Nat.exists_eq_succ_of_ne_zero (Nat.ne_zero_of_lt enough)
    rfl
  | @plain c text rest plain more ih =>
    obtain ⟨fuel, rfl⟩ := Nat.exists_eq_succ_of_ne_zero (Nat.ne_zero_of_lt enough)
    obtain ⟨quote, slash, visible⟩ := plain
    rw [skipString, if_neg quote, if_neg slash, if_neg (by omega)]
    exact ih (Nat.lt_of_succ_lt_succ enough)
  | @short e c text rest short more ih =>
    obtain ⟨fuel, rfl⟩ := Nat.exists_eq_succ_of_ne_zero (Nat.ne_zero_of_lt enough)
    simp only [List.length_cons] at enough
    rw [skipString, if_neg (by decide), if_pos rfl, skipEscape_of_mem short]
    exact ih (by omega)
  | @code w x y z text rest n digits more ih =>
    obtain ⟨fuel, rfl⟩ := Nat.exists_eq_succ_of_ne_zero (Nat.ne_zero_of_lt enough)
    simp only [List.length_cons] at enough
    rw [skipString, if_neg (by decide), if_pos rfl, skipEscape, fourHex_of_readHex? digits]
    exact ih (by omega)

theorem colon_eq {text after : List Char} (h : Blank text (':' :: after)) : colon text = .ok ((), after) := by
  rw [colon, h.skipSpace_cons (by decide)]
  rfl

/-- A key is passed over. -/
theorem skipKey_eq {text key mark after : List Char} (lead : Blank text ('"' :: key))
    (named : Characters key mark) (before : Blank mark (':' :: after)) : skipKey text = .ok ((), after) := by
  rw [skipKey, lead.skipSpace_cons (by decide)]
  simp only [skipString_eq named (Nat.lt_succ_self _), colon_eq before]

/-! ## Stages -/

/-- With no container open, nothing more is passed over. -/
theorem skipNested_done (fuel : Nat) (first : Bool) (rest : List Char) :
    skipNested (fuel + 1) (.inside first) [] rest = .ok ((), rest) := by
  rw [skipNested]

/-- A stage of passing over a value: what is next, the containers that are open, and the rest of the text. -/
structure Stage where
  next : Passing
  open_ : List Bool
  text : List Char

/-- What passing over comes to from a stage. -/
def Stage.outcome (s : Stage) (fuel : Nat) : Outcome Unit := skipNested fuel s.next s.open_ s.text

/-- Some steps lead from one stage to another. -/
def GoesOn (steps : Nat) (s s' : Stage) : Prop := ∀ fuel, s.outcome (fuel + steps) = s'.outcome fuel

theorem GoesOn.trans {m n : Nat} {s s' s'' : Stage} (h : GoesOn m s s') (h' : GoesOn n s' s'') :
    GoesOn (n + m) s s'' := by
  intro fuel
  rw [← Nat.add_assoc, h, h']

section Steps

variable {first : Bool} {outer open_ : List Bool} {c : Char} {text rest more : List Char}

/-- An opened array goes on with its next item. -/
theorem goesOn_item (lead : Leads first text (c :: more)) (visible : isSpace c = false) (closing : c ≠ ']') :
    ∃ start, Blank start (c :: more) ∧
      GoesOn 1 ⟨.inside first, true :: outer, text⟩ ⟨.value, true :: outer, start⟩ := by
  cases lead with
  | first blank =>
    refine ⟨c :: more, .nil, fun fuel => ?_⟩
    rw [Stage.outcome, skipNested, blank.skipSpace_cons visible]
    simp [closing, Stage.outcome]
  | comma before behind =>
    refine ⟨_, behind, fun fuel => ?_⟩
    rw [Stage.outcome, skipNested, before.skipSpace_cons (by decide)]
    simp [Stage.outcome]

theorem goesOn_itemsEnd (blank : Blank text (']' :: rest)) :
    GoesOn 1 ⟨.inside first, true :: outer, text⟩ ⟨.inside false, outer, rest⟩ := by
  intro fuel
  rw [Stage.outcome, skipNested, blank.skipSpace_cons (by decide)]
  simp [Stage.outcome]

/-- An opened object goes on with the value of its next member. -/
theorem goesOn_member {key mark after : List Char} (lead : Leads first text ('"' :: key))
    (named : Characters key mark) (before : Blank mark (':' :: after)) :
    GoesOn 1 ⟨.inside first, false :: outer, text⟩ ⟨.value, false :: outer, after⟩ := by
  intro fuel
  cases lead with
  | first blank =>
    rw [Stage.outcome, skipNested, blank.skipSpace_cons (by decide)]
    simp [Stage.outcome, skipKey_eq .nil named before]
  | comma comma behind =>
    rw [Stage.outcome, skipNested, comma.skipSpace_cons (by decide)]
    simp [Stage.outcome, skipKey_eq behind named before]

theorem goesOn_membersEnd (blank : Blank text ('\x7d' :: rest)) :
    GoesOn 1 ⟨.inside first, false :: outer, text⟩ ⟨.inside false, outer, rest⟩ := by
  intro fuel
  rw [Stage.outcome, skipNested, blank.skipSpace_cons (by decide)]
  simp [Stage.outcome]

theorem goesOn_number (blank : Blank text more) (h : Number more rest) (ends : EndsNumeral rest) :
    GoesOn 1 ⟨.value, open_, text⟩ ⟨.inside false, open_, rest⟩ := by
  intro fuel
  obtain ⟨c, digits, rfl, digit⟩ := h.head
  rw [Stage.outcome, skipNested, blank.skipSpace_cons (isSpace_digit digit)]
  split
  case h_1 he => cases he
  case h_9 he =>
    cases he
    rw [if_pos digit, skipNumber_eq h ends]
    rfl
  all_goals
    next he =>
    cases he
    exact absurd digit (by decide)

end Steps

/-- What passing over does with a phrase of the grammar. -/
def Part.Passed (text rest : List Char) : Part → Prop
  | .value => EndsNumeral rest → ∀ start, Blank start text → ∀ open_, ∃ steps,
      steps + 2 * rest.length < 2 * text.length ∧
        GoesOn steps ⟨.value, open_, start⟩ ⟨.inside false, open_, rest⟩
  | .items first => ∀ outer, ∃ steps, steps + 2 * rest.length ≤ 2 * text.length ∧
      GoesOn steps ⟨.inside first, true :: outer, text⟩ ⟨.inside false, outer, rest⟩
  | .members first => ∀ outer, ∃ steps, steps + 2 * rest.length ≤ 2 * text.length ∧
      GoesOn steps ⟨.inside first, false :: outer, text⟩ ⟨.inside false, outer, rest⟩

/-- Every phrase is passed over. -/
theorem WellFormed.passed {part : Part} {text rest : List Char} (h : WellFormed part text rest) :
    part.Passed text rest := by
  have shorter := h.length_lt
  -- Along the grammar: a token takes one stage, and a container as many as its content and one more.
  induction h with
  | null | yes | no =>
    intro _ start blank open_
    refine ⟨1, by omega, fun fuel => ?_⟩
    rw [Stage.outcome, skipNested, blank.skipSpace_cons (by decide)]
    rfl
  | number h =>
    intro ends start blank open_
    exact ⟨1, by omega, goesOn_number blank h ends⟩
  | negative h =>
    intro ends start blank open_
    refine ⟨1, by omega, fun fuel => ?_⟩
    rw [Stage.outcome, skipNested, blank.skipSpace_cons (by decide)]
    simp only [skipNumber_eq h ends]
    rfl
  | string h =>
    intro _ start blank open_
    refine ⟨1, by omega, fun fuel => ?_⟩
    rw [Stage.outcome, skipNested, blank.skipSpace_cons (by decide)]
    simp only [skipString_eq h (Nat.lt_succ_self _)]
    rfl
  | array h ih | object h ih =>
    intro _ start blank open_
    obtain ⟨steps, few, inside⟩ := ih h.length_lt open_
    refine ⟨steps + 1, by simp only [List.length_cons]; omega, GoesOn.trans (fun fuel => ?_) inside⟩
    rw [Stage.outcome, skipNested, blank.skipSpace_cons (by decide)]
    rfl
  | itemsEnd blank =>
    intro outer
    exact ⟨1, by omega, goesOn_itemsEnd blank⟩
  -- An item ends where the next comma or bracket stands, so what it takes and what the others take add up.
  | item lead h more ih ihMore =>
    intro outer
    have before := lead.length_le
    obtain ⟨c, behind, rfl, visible, closing⟩ := h.head
    obtain ⟨start, blank, opened⟩ := goesOn_item lead visible closing
    obtain ⟨steps, few, passed⟩ := ih h.length_lt (more.endsNumeral (.inl rfl)) start blank (true :: outer)
    obtain ⟨others, fewOthers, rest⟩ := ihMore more.length_lt outer
    exact ⟨others + (steps + 1), by omega, (opened.trans passed).trans rest⟩
  | membersEnd blank =>
    intro outer
    exact ⟨1, by omega, goesOn_membersEnd blank⟩
  | member lead named before blank h more ih ihMore =>
    intro outer
    have early := length_start_lt lead named.length_lt before blank
    obtain ⟨steps, few, passed⟩ := ih h.length_lt (more.endsNumeral (.inr rfl)) _ blank (false :: outer)
    obtain ⟨others, fewOthers, rest⟩ := ihMore more.length_lt outer
    exact ⟨others + (steps + 1), by omega, ((goesOn_member lead named before).trans passed).trans rest⟩

/-- A well-formed value is passed over. -/
theorem skipValue_of_wellFormed {start text rest : List Char} (blank : Blank start text)
    (h : WellFormed .value text rest) (ends : EndsNumeral rest) : skipValue start = .ok ((), rest) := by
  have short := blank.length_le
  obtain ⟨steps, few, passed⟩ := h.passed ends start blank []
  obtain ⟨fuel, enough⟩ : ∃ fuel, 2 * start.length + 2 = fuel + 1 + steps :=
    ⟨2 * start.length + 1 - steps, by omega⟩
  have done := passed (fuel + 1)
  rw [← enough] at done
  exact done.trans (skipNested_done fuel false rest)

end Fixtures.Json
