import Fixtures.Proofs.Text.Numerals
import Fixtures.Proofs.Toml.Entries
import Mathlib.Data.List.TakeWhile

/-!
# Lines of numbers

A line of a settings text that gives a key a number in decimal. The readers of dates and of fractions give way
on such a number, and the reader of integers takes it exactly if it is an integer of 64 bits with a sign: from
2^63 on the line is refused, and the text with it.

## Main results

* `numeric_natDigits` is about the number alone.
* `parse_numberLines` is about a text of such lines: it is the table of its numbers if every number is small
  enough, and otherwise it is refused.
-/

namespace Fixtures.Toml

open Text (natDigits isDigit)

/-! ## Readers that give way -/

/-- A reader that failed and lets another one try. -/
def GivesWay {α : Type} (r : Outcome α) : Prop := ∃ e, r = .error e ∧ e.firm = false

namespace GivesWay

variable {α β : Type}

theorem soft (rest : List Char) : GivesWay (.error (.soft rest) : Outcome α) := ⟨_, rfl, rfl⟩

theorem because (cause : String) (rest : List Char) :
    GivesWay (.error (.because cause rest) : Outcome α) := ⟨_, rfl, rfl⟩

theorem andThen {r : Outcome α} (h : GivesWay r) (next : α → List Char → Outcome β) :
    GivesWay (andThen r next) := by
  obtain ⟨e, rfl, he⟩ := h
  exact ⟨e, rfl, he⟩

theorem labelled {r : Outcome α} (h : GivesWay r) (label : String) : GivesWay (labelled label r) := by
  obtain ⟨e, rfl, he⟩ := h
  exact ⟨_, rfl, he⟩

theorem orElse {r : Outcome α} (h : GivesWay r) (other : Unit → Outcome α) :
    orElse r other = other () := by
  obtain ⟨e, rfl, he⟩ := h
  simp [Toml.orElse, he]

end GivesWay

/-- A character of another kind is not read. -/
theorem one_of_head {wanted : Char → Bool} {rest : List Char}
    (h : ∀ c ∈ rest.head?, wanted c = false) : GivesWay (one wanted rest) := by
  cases rest with
  | nil => exact .soft []
  | cons c rest =>
    have other : wanted c = false := h c rfl
    simp only [one, other]
    exact .soft _

/-- Without a sign nothing is read. -/
theorem sign_of_head {rest : List Char} (h : ∀ c ∈ rest.head?, isDigit c = true) : sign rest = (false, rest) := by
  unfold sign
  split
  · exact absurd (h '-' rfl) (by decide)
  · exact absurd (h '+' rfl) (by decide)
  · rfl

/-! ## A number and the end of its line -/

section Digits

variable {ds : List Char} (digital : ∀ c ∈ ds, isDigit c = true) (more : List Char)
include digital

/-- What follows some of the digits is a digit or the end of the line. -/
theorem head_digits_line {c : Char} (hc : c ∈ (ds ++ '\n' :: more).head?) : isDigit c = true ∨ c = '\n' := by
  cases ds with
  | nil => exact .inr (by simpa using hc.symm)
  | cons d ds =>
    obtain rfl : d = c := by simpa using hc
    exact .inl (digital d List.mem_cons_self)

/-- Behind digits no other mark than the end of the line is read. -/
theorem mark_digits_line {c : Char} (noDigit : isDigit c = false) (noEnd : c ≠ '\n') :
    GivesWay (mark c (ds ++ '\n' :: more)) := by
  refine one_of_head fun d hd => decide_eq_false fun same => ?_
  subst same
  rcases head_digits_line digital more hd with h | h
  · exact absurd (noDigit.symm.trans h) Bool.false_ne_true
  · exact noEnd h

/-- Digits of a fixed number are read from the front of digits, or are missing. -/
theorem fixedDigits_digits_line (width : Nat) :
    GivesWay (fixedDigits width (ds ++ '\n' :: more)) ∨
      ∃ n, fixedDigits width (ds ++ '\n' :: more) = .ok (n, ds.drop width ++ '\n' :: more) := by
  by_cases long : width ≤ ds.length
  · right
    have front : (ds ++ '\n' :: more).take width = ds.take width := List.take_append_of_le_length long
    have all : (ds.take width).takeWhile isDigit = ds.take width :=
      List.takeWhile_eq_self_iff.mpr fun c hc => digital c (List.mem_of_mem_take hc)
    simp only [fixedDigits, front, all, List.length_take, Nat.min_eq_left long, if_pos,
      List.drop_append_of_le_length long]
    exact ⟨_, rfl⟩
  · left
    have short : (((ds ++ '\n' :: more).take width).takeWhile isDigit).length ≠ width := by
      obtain ⟨k, rfl⟩ : ∃ k, width = ds.length + (k + 1) := ⟨width - ds.length - 1, by omega⟩
      have none : isDigit '\n' = false := by decide
      rw [List.take_length_add_append, List.take_succ_cons, List.takeWhile_append_of_pos digital,
        List.takeWhile_cons_of_neg (by simp [none])]
      simp
    simp only [fixedDigits, if_neg short]
    exact .soft _

/-- A number of two digits is read from the front of digits, or is missing. -/
theorem part_digits_line (least greatest : Nat) :
    GivesWay (part least greatest (ds ++ '\n' :: more)) ∨
      ∃ n, part least greatest (ds ++ '\n' :: more) = .ok (n, ds.drop 2 ++ '\n' :: more) := by
  rcases fixedDigits_digits_line digital more 2 with h | ⟨n, h⟩
  · exact .inl (h.andThen _)
  · simp only [part, h, andThen]
    split
    · exact .inr ⟨n, rfl⟩
    · exact .inl (.because _ _)

/-- A number is not read as a date or a time. -/
theorem dateTime_digits_line : GivesWay (dateTime (ds ++ '\n' :: more)) := by
  have drops (width : Nat) : ∀ c ∈ ds.drop width, isDigit c = true :=
    fun c hc => digital c (List.mem_of_mem_drop hc)
  have dateless : GivesWay (date (ds ++ '\n' :: more)) := by
    rcases fixedDigits_digits_line digital more 4 with h | ⟨year, h⟩
    · exact h.andThen _
    · simp only [date, h]
      exact (mark_digits_line (drops 4) more (by decide) (by decide)).andThen _
  have timeless : GivesWay (time (ds ++ '\n' :: more)) := by
    rcases part_digits_line digital more 0 23 with h | ⟨hour, h⟩
    · exact h.andThen _
    · simp only [time, h]
      exact (mark_digits_line (drops 2) more (by decide) (by decide)).andThen _
  rw [dateTime, GivesWay.orElse (GivesWay.labelled (dateless.andThen _) _)]
  exact timeless.labelled _

/-- Digits up to the end of the line are read. -/
theorem moreDigits_digits_line (fuel : Nat) (enough : ds.length < fuel) :
    moreDigits isDigit fuel (ds ++ '\n' :: more) = .ok (ds, '\n' :: more) := by
  induction ds generalizing fuel with
  | nil =>
    obtain ⟨fuel, rfl⟩ : ∃ k, fuel = k + 1 := ⟨fuel - 1, by simp at enough; omega⟩
    rfl
  | cons c ds ih =>
    obtain ⟨fuel, rfl⟩ : ∃ k, fuel = k + 1 := ⟨fuel - 1, by simp at enough; omega⟩
    have hc := digital c List.mem_cons_self
    have notBar : c ≠ '_' := Text.digit_ne hc (by decide)
    rw [List.cons_append, moreDigits]
    · simp only [if_pos hc, mapOutcome, andThen,
        ih (fun d hd => digital d (List.mem_cons_of_mem c hd)) _ (by simp at enough; omega)]
    · exact notBar

end Digits

/-! ## The number of a line -/

/-- A number is read with its digits, up to the end of the line. -/
theorem decimalInteger_natDigits (n : Nat) (more : List Char) :
    decimalInteger (natDigits n ++ '\n' :: more) = .ok ((false, natDigits n), '\n' :: more) := by
  have digital (c : Char) (hc : c ∈ natDigits n) := Text.isDigit_of_mem_natDigits hc
  rcases Nat.eq_zero_or_pos n with rfl | positive
  · rfl
  have first := Text.head_natDigits_ne positive
  cases hn : natDigits n with
  | nil => exact absurd hn (Text.natDigits_ne_nil n)
  | cons c ds =>
    rw [hn] at first digital
    have hc := digital c List.mem_cons_self
    have notZero : c ≠ '0' := by simpa using first
    have whole : digits isDigit (c :: (ds ++ '\n' :: more)) = .ok (c :: ds, '\n' :: more) := by
      have tail := moreDigits_digits_line (fun d hd => digital d (List.mem_cons_of_mem c hd)) more
        (ds ++ '\n' :: more).length (by simp)
      simp only [digits, one, if_pos hc, andThen, tail, mapOutcome]
    rw [List.cons_append, decimalInteger, sign_of_head (by simpa using hc)]
    simp only
    split
    · next h => cases h; contradiction
    · rw [whole]
      rfl

/-- A number without a fraction is not read as one with a fraction. -/
theorem float_natDigits (n : Nat) (more : List Char) : GivesWay (float (natDigits n ++ '\n' :: more)) := by
  have whole : GivesWay (decimalFraction (natDigits n ++ '\n' :: more)) := by
    rw [decimalFraction, decimalInteger_natDigits]
    exact ⟨_, rfl, rfl⟩
  have first : ∃ c rest, natDigits n ++ '\n' :: more = c :: rest ∧ isDigit c = true := by
    obtain ⟨c, ds, hn, hc⟩ := Text.natDigits_eq_cons n
    exact ⟨c, ds ++ '\n' :: more, by rw [hn]; rfl, hc⟩
  have special : GivesWay (specialFraction (natDigits n ++ '\n' :: more)) := by
    obtain ⟨c, rest, heq, hc⟩ := first
    have inf : ('i' == c) = false := by simpa using Ne.symm (Text.digit_ne hc (d := 'i') (by decide))
    have nan : ('n' == c) = false := by simpa using Ne.symm (Text.digit_ne hc (d := 'n') (by decide))
    simp only [heq, specialFraction, sign_of_head (show ∀ d ∈ (c :: rest).head?, isDigit d = true by simpa using hc), exactly,
      List.isPrefixOf, inf, nan, Bool.false_and]
    exact ⟨_, rfl, rfl⟩
  rw [float, whole.orElse]
  exact special.labelled _

/-- The refusal of an integer that is too large. -/
def tooLarge (rest : List Char) : Refusal :=
  (Refusal.because "number too large to fit in target type" rest).settled

/-- A number is read as an integer if it is one of 64 bits with a sign. -/
theorem integer_natDigits (n : Nat) (more : List Char) :
    integer (natDigits n ++ '\n' :: more) =
      if (n : Int) ≤ Text.greatestInt then .ok ((n : Int), '\n' :: more)
      else .error (tooLarge (natDigits n ++ '\n' :: more)) := by
  have digital (c : Char) (hc : c ∈ natDigits n) := Text.isDigit_of_mem_natDigits hc
  -- The second character is a digit or the end of the line, so it announces no other base.
  have second (a b : Char) (h : (natDigits n ++ '\n' :: more).take 2 = [a, b]) : isDigit b = true ∨ b = '\n' := by
    obtain ⟨c, ds, hn⟩ := List.exists_cons_of_ne_nil (Text.natDigits_ne_nil n)
    rw [hn] at h digital
    refine head_digits_line (fun d hd => digital d (List.mem_cons_of_mem c hd)) more ?_
    cases hr : ds ++ '\n' :: more with
    | nil => simp at hr
    | cons d rest =>
      rw [List.cons_append, hr] at h
      simp only [List.take_succ_cons, List.take_zero, List.cons.injEq, and_true] at h
      exact h.2 ▸ rfl
  have plain (b : Char) (other : ¬ (isDigit b = true ∨ b = '\n')) : (natDigits n ++ '\n' :: more).take 2 ≠ ['0', b] :=
    fun h => other (second '0' b h)
  rw [integer_decimal (plain 'x' (by decide)) (plain 'o' (by decide)) (plain 'b' (by decide)), decimalInteger_natDigits]
  simp only [andThen, toInteger, Text.readBase?_natDigits, Option.getD_some]
  by_cases small : (n : Int) ≤ Text.greatestInt
  · simp [small]
  · simp [small, tooLarge]

/-- A number on a line is an integer, or too large for one. -/
theorem numeric_natDigits (n : Nat) (more : List Char) (place : List Char → Span) :
    numeric (natDigits n ++ '\n' :: more) place =
      if (n : Int) ≤ Text.greatestInt then .ok (.integer n (place ('\n' :: more)), '\n' :: more)
      else .error (tooLarge (natDigits n ++ '\n' :: more)) := by
  have digital (c : Char) (hc : c ∈ natDigits n) := Text.isDigit_of_mem_natDigits hc
  have dateless := dateTime_digits_line digital more
  rw [numeric, GivesWay.orElse (dateless.andThen _), GivesWay.orElse ((float_natDigits n more).andThen _),
    integer_natDigits]
  split <;> rfl

/-! ## The line of a number -/

/-- A key that is written without quotation marks. -/
structure IsBareKey (key : List Char) : Prop where
  nonempty : key ≠ []
  bare : ∀ c ∈ key, isBare c = true

/-- The line that gives a key a number. -/
def numberLine (key : String) (n : Nat) : List Char :=
  key.toList ++ (' ' :: '=' :: ' ' :: (natDigits n ++ ['\n']))

theorem numberLine_append (key : String) (n : Nat) (more : List Char) :
    numberLine key n ++ more = key.toList ++ ' ' :: '=' :: ' ' :: (natDigits n ++ '\n' :: more) := by
  simp [numberLine]

/-- A character of a key is no mark that ends it, and no mark that begins another statement. -/
theorem isBare_ne {c d : Char} (h : isBare c = true) (hd : isBare d = false) : c ≠ d := by
  rintro rfl
  exact absurd (h.symm.trans hd) (by decide)

theorem skipBlanks_cons {c : Char} (h : isBlank c = false) (rest : List Char) :
    skipBlanks (c :: rest) = c :: rest := by
  simp [skipBlanks, h]

theorem isBlank_of_isBare {c : Char} (h : isBare c = true) : isBlank c = false := by
  have space : c ≠ ' ' := isBare_ne h (by decide)
  have tab : c ≠ '\t' := isBare_ne h (by decide)
  simp [isBlank, space, tab]

theorem isBlank_of_isDigit {c : Char} (h : isDigit c = true) : isBlank c = false :=
  isBlank_of_isBare (by simp [isBare, h])

/-- Where no mark of another statement stands, the first statement is an item. -/
theorem statements_item {text cs : List Char} {c : Char} (start : skipBlanks text = c :: cs)
    (hash : c ≠ '#') (bracket : c ≠ '[') (feed : c ≠ '\n') (back : c ≠ '\r') (fuel : Nat) :
    statements (fuel + 1) text =
      match itemStatement (c :: cs) with
      | .ok (s, left) => (s :: (statements fuel left).1, (statements fuel left).2)
      | .error e => ([], some e) := by
  rw [statements, start]
  split
  · next h => cases h
  · next h => exact absurd (List.cons.inj h).1 hash
  · next h => exact absurd (List.cons.inj h).1 bracket
  · next h => exact absurd (List.cons.inj h).1 feed
  · next h => exact absurd (List.cons.inj h).1 back
  · rfl

section Line

variable {key : String} (plain : IsBareKey key.toList)
include plain

/-- A bare key is read up to what cannot belong to it. -/
theorem simpleKey_bare {d : Char} (ends : isBare d = false) (rest : List Char) :
    ∃ span, simpleKey (key.toList ++ d :: rest) = .ok (⟨key, span⟩, d :: rest) := by
  have front : (key.toList ++ d :: rest).takeWhile isBare = key.toList := by
    rw [List.takeWhile_append_of_pos plain.bare, List.takeWhile_cons_of_neg (by simp [ends]), List.append_nil]
  have back : (key.toList ++ d :: rest).dropWhile isBare = d :: rest := by
    rw [List.dropWhile_append_of_pos plain.bare, List.dropWhile_cons_of_neg (by simp [ends])]
  have some : key.toList.isEmpty = false := by simpa using plain.nonempty
  obtain ⟨c, cs, hkey⟩ := List.exists_cons_of_ne_nil plain.nonempty
  have hc : isBare c = true := plain.bare c (hkey ▸ List.mem_cons_self)
  have double : c ≠ '"' := isBare_ne hc (by decide)
  have single : c ≠ '\'' := isBare_ne hc (by decide)
  refine ⟨⟨(key.toList ++ d :: rest).length, (d :: rest).length⟩, ?_⟩
  simp only [simpleKey, run, front, back, some, Bool.false_eq_true, if_false]
  split
  · next h => rw [hkey] at h; cases h; contradiction
  · next h => rw [hkey] at h; cases h; contradiction
  · simp only [andThen, String.ofList_toList]

/-- The text of a line begins with its key. -/
theorem skipBlanks_key (rest : List Char) : skipBlanks (key.toList ++ rest) = key.toList ++ rest := by
  obtain ⟨c, cs, hkey⟩ := List.exists_cons_of_ne_nil plain.nonempty
  rw [hkey, List.cons_append]
  exact skipBlanks_cons (isBlank_of_isBare (plain.bare c (hkey ▸ List.mem_cons_self))) _

/-- The key of a line is read up to the equals sign. -/
theorem dottedKey_line (rest : List Char) :
    ∃ span, dottedKey (key.toList ++ ' ' :: '=' :: rest) = .ok (([], ⟨key, span⟩), '=' :: rest) := by
  obtain ⟨span, read⟩ := simpleKey_bare plain (d := ' ') (by decide) ('=' :: rest)
  have blank : skipBlanks (' ' :: '=' :: rest) = '=' :: rest := by simp [skipBlanks, isBlank]
  refine ⟨span, ?_⟩
  rw [dottedKey]
  simp only [separated, skipBlanks_key plain, read, andThen, blank, labelled, Except.mapError]
  rfl

/-- A line is an item of its key, or its number is too large. -/
theorem itemStatement_line (n : Nat) (more : List Char) :
    ∃ span place, itemStatement (numberLine key n ++ more) =
      if (n : Int) ≤ Text.greatestInt then
        .ok (.item [] ⟨key, span⟩ (.integer n place) (numberLine key n ++ more), more)
      else .error (tooLarge (natDigits n ++ '\n' :: more)) := by
  obtain ⟨span, hkey⟩ := dottedKey_line plain (' ' :: (natDigits n ++ '\n' :: more))
  obtain ⟨c, ds, hn, hc⟩ := Text.natDigits_eq_cons n
  have skipped : skipBlanks (' ' :: (natDigits n ++ '\n' :: more)) = natDigits n ++ '\n' :: more := by
    rw [hn]
    exact skipBlanks_cons (isBlank_of_isDigit hc) _
  -- A digit decides that the value is a number.
  have number : item nestingLimit (natDigits n ++ '\n' :: more) =
      numeric (natDigits n ++ '\n' :: more) fun left => ⟨(natDigits n ++ '\n' :: more).length, left.length⟩ := by
    have double : c ≠ '"' := Text.digit_ne hc (by decide)
    have single : c ≠ '\'' := Text.digit_ne hc (by decide)
    have bracket : c ≠ '[' := Text.digit_ne hc (by decide)
    have brace : c ≠ '\x7b' := Text.digit_ne hc (by decide)
    rw [hn, List.cons_append, nestingLimit, item]
    simp only [double, single, bracket, brace, decide_false, Bool.or_false, Bool.false_eq_true, if_false, hc,
      Bool.or_true, if_true]
  refine ⟨span, ⟨(natDigits n ++ '\n' :: more).length, ('\n' :: more).length⟩, ?_⟩
  rw [itemStatement, assignment, numberLine_append, hkey]
  simp only [andThen, mark, one, decide_true, if_true, expectingMark, expecting, Except.mapError, mapOutcome,
    skipped, number, numeric_natDigits]
  by_cases small : (n : Int) ≤ Text.greatestInt
  · have ended : trailing ('\n' :: more) = .ok ((), more) := rfl
    simp only [if_pos small, ended]
    rfl
  · simp only [if_neg small]
    rfl

/-- A line is the first statement of its text, unless its number is too large. -/
theorem statements_line (n : Nat) (fuel : Nat) (more : List Char) :
    ∃ span place, statements (fuel + 1) (numberLine key n ++ more) =
      if (n : Int) ≤ Text.greatestInt then
        (.item [] ⟨key, span⟩ (.integer n place) (numberLine key n ++ more) :: (statements fuel more).1,
          (statements fuel more).2)
      else ([], some (tooLarge (natDigits n ++ '\n' :: more))) := by
  obtain ⟨span, place, read⟩ := itemStatement_line plain n more
  refine ⟨span, place, ?_⟩
  have first : skipBlanks (numberLine key n ++ more) = numberLine key n ++ more := by
    rw [numberLine_append]
    exact skipBlanks_key plain _
  obtain ⟨c, cs, hkey⟩ := List.exists_cons_of_ne_nil plain.nonempty
  have hc : isBare c = true := plain.bare c (hkey ▸ List.mem_cons_self)
  have hash : c ≠ '#' := isBare_ne hc (by decide)
  have bracket : c ≠ '[' := isBare_ne hc (by decide)
  have feed : c ≠ '\n' := isBare_ne hc (by decide)
  have back : c ≠ '\r' := isBare_ne hc (by decide)
  obtain ⟨line, hline⟩ : ∃ line, numberLine key n ++ more = c :: line := ⟨_, by rw [numberLine, hkey]; rfl⟩
  rw [statements_item (first.trans hline) hash bracket feed back, ← hline, read]
  by_cases small : (n : Int) ≤ Text.greatestInt
  · rw [if_pos small, if_pos small]
  · rw [if_neg small, if_neg small]

end Line

/-! ## A text of such lines -/

/-- The text that gives keys numbers, one on each line. -/
def numberLines (settings : List (String × Nat)) : List Char :=
  settings.flatMap fun setting => numberLine setting.1 setting.2

theorem numberLines_cons (setting : String × Nat) (settings : List (String × Nat)) :
    numberLines (setting :: settings) = numberLine setting.1 setting.2 ++ numberLines settings := rfl

/-- A statement that gives a key a number. -/
def Gives (setting : String × Nat) (s : Statement) : Prop :=
  ∃ span place start, s = .item [] ⟨setting.1, span⟩ (.integer setting.2 place) start

/-- Lines are read one after another, up to the first number that is too large. -/
theorem statements_numberLines {settings : List (String × Nat)}
    (plain : ∀ setting ∈ settings, IsBareKey setting.1.toList) {fuel : Nat} (enough : settings.length < fuel) :
    if ∀ setting ∈ settings, (setting.2 : Int) ≤ Text.greatestInt then
      List.Forall₂ Gives settings (statements fuel (numberLines settings)).1 ∧
        (statements fuel (numberLines settings)).2 = none
    else (statements fuel (numberLines settings)).2.isSome := by
  induction settings generalizing fuel with
  | nil =>
    obtain ⟨fuel, rfl⟩ : ∃ k, fuel = k + 1 := ⟨fuel - 1, by simp at enough; omega⟩
    simp [numberLines, statements, skipBlanks]
  | cons setting settings ih =>
    obtain ⟨key, n⟩ := setting
    obtain ⟨fuel, rfl⟩ : ∃ k, fuel = k + 1 := ⟨fuel - 1, by simp at enough; omega⟩
    have rest := ih (fun s hs => plain s (List.mem_cons_of_mem _ hs)) (Nat.lt_of_succ_lt_succ enough)
    obtain ⟨span, place, read⟩ :=
      statements_line (plain (key, n) List.mem_cons_self) n fuel (numberLines settings)
    rw [numberLines_cons, read]
    -- A number that is too large ends the reading here; else the others decide.
    by_cases small : (n : Int) ≤ Text.greatestInt
    · simp only [List.forall_mem_cons, small, true_and, if_true]
      by_cases all : ∀ s ∈ settings, (s.2 : Int) ≤ Text.greatestInt
      · rw [if_pos all] at rest ⊢
        exact ⟨.cons ⟨span, place, _, rfl⟩ rest.1, rest.2⟩
      · rw [if_neg all] at rest ⊢
        exact rest
    · simp [small]

/-- A member of a table that holds the number of a setting. -/
def Holds (setting : String × Nat) (member : Key × Item) : Prop :=
  member.1.name = setting.1 ∧ ∃ place, member.2 = .integer setting.2 place

/-- Statements with keys of their own put their numbers into the table of the text. -/
theorem build_gives {settings : List (String × Nat)} {read : List Statement}
    (given : List.Forall₂ Gives settings read) (distinct : (settings.map (·.1)).Nodup)
    (members : Members) (fresh : ∀ m ∈ members, m.1.name ∉ settings.map (·.1)) (span : Option Span) :
    ∃ added span', List.Forall₂ Holds settings added ∧
      Document.build ⟨members, span, []⟩ read = .ok ⟨members ++ added, span', []⟩ := by
  let isNumber (n : Nat) (value : Item) : Prop := ∃ place, value = .integer n place
  have assigned : List.Forall₂ (Assigns isNumber) settings read := by
    refine given.imp ?_
    rintro setting s ⟨span, place, start, rfl⟩
    exact ⟨span, _, start, rfl, place, rfl⟩
  exact build_assigns assigned distinct members fresh span

/-- A line is not empty, so a text has more characters than lines. -/
theorem length_le_numberLines (settings : List (String × Nat)) :
    settings.length ≤ (numberLines settings).length := by
  induction settings with
  | nil => exact Nat.le_refl 0
  | cons setting settings ih =>
    have line : 0 < (numberLine setting.1 setting.2).length := by
      rw [numberLine, List.length_append, List.length_cons]
      omega
    rw [numberLines_cons, List.length_append, List.length_cons]
    omega

/-- A text of such lines, with keys of their own, is the table of their numbers, or no table at all. -/
theorem parse_numberLines {settings : List (String × Nat)}
    (plain : ∀ setting ∈ settings, IsBareKey setting.1.toList) (distinct : (settings.map (·.1)).Nodup) :
    if ∀ setting ∈ settings, (setting.2 : Int) ≤ Text.greatestInt then
      ∃ members span, List.Forall₂ Holds settings members ∧
        Document.parse (String.ofList (numberLines settings)) = .ok (.table .header members span)
    else ∃ fault, Document.parse (String.ofList (numberLines settings)) = .error fault := by
  -- A key begins with no byte order mark, so nothing is taken off in front.
  have unmarked : Document.body (String.ofList (numberLines settings)) = numberLines settings := by
    rw [Document.body, String.toList_ofList]
    split
    · next rest h =>
      obtain _ | ⟨setting, settings⟩ := settings
      · cases h
      obtain ⟨c, cs, hkey⟩ := List.exists_cons_of_ne_nil (plain setting List.mem_cons_self).nonempty
      have hc : isBare c = true := (plain setting List.mem_cons_self).bare c (hkey ▸ List.mem_cons_self)
      rw [numberLines_cons, numberLine_append, hkey] at h
      cases h
      exact absurd hc (by decide)
    · rfl
  have read := statements_numberLines plain (Nat.lt_succ_of_le (length_le_numberLines settings))
  rw [Document.parse, unmarked]
  by_cases small : ∀ setting ∈ settings, (setting.2 : Int) ≤ Text.greatestInt
  · rw [if_pos small] at read ⊢
    obtain ⟨members, span, holds, built⟩ := build_gives read.1 distinct [] (by simp)
      (some ⟨(String.ofList (numberLines settings)).toList.length, (String.ofList (numberLines settings)).toList.length⟩)
    refine ⟨members, span, holds, ?_⟩
    simp only [read.2, Document.Progress.start, built]
    rfl
  · rw [if_neg small] at read ⊢
    obtain ⟨refusal, refused⟩ := Option.isSome_iff_exists.mp read
    simp only [refused]
    cases Document.build (.start (String.ofList (numberLines settings)).toList.length)
      (statements ((numberLines settings).length + 1) (numberLines settings)).1 with
    | error e => exact ⟨e, rfl⟩
    | ok p => exact ⟨_, rfl⟩

end Fixtures.Toml
