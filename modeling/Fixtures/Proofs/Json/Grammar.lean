import Fixtures.Proofs.Json.Tokens

/-!
# Texts of JSON values

Two grammars, each a relation between a text and what is left of it behind a phrase. `WellFormed` is the grammar
of JSON itself, and says nothing about what a value means. `Writes` has the texts that are read back as a value:
white space may stand between any two tokens, strings may be spelled with any escapes, the members of an object
may stand in any order and among members with other keys, and an object may be written as the array of its values.

## Shape of the grammars

A grammar has one nonterminal for values, one for the items of an array and one for the members of an object
(`Part`, `Shape`), so that an induction goes over all rules at once. Items and members are read with what closes
them; all but the first have a comma before them (`Leads`).
-/

namespace Fixtures.Json

/-! ## Tokens -/

/-- Some white space. -/
inductive Blank : List Char → List Char → Prop
  | nil {text : List Char} : Blank text text
  | cons {c : Char} {text rest : List Char} (space : isSpace c = true) (more : Blank text rest) :
      Blank (c :: text) rest

/-- What stands before an item or a member: a comma, unless it is the first. -/
inductive Leads : Bool → List Char → List Char → Prop
  | first {text rest : List Char} (blank : Blank text rest) : Leads true text rest
  | comma {text after rest : List Char} (before : Blank text (',' :: after)) (behind : Blank after rest) :
      Leads false text rest

/-- Some decimal digits. -/
inductive Digits : List Char → List Char → Prop
  | nil {text : List Char} : Digits text text
  | cons {c : Char} {text rest : List Char} (digit : Text.isDigit c = true) (more : Digits text rest) :
      Digits (c :: text) rest

/-- The integer part of a number: digits without a zero in front. -/
inductive Whole : List Char → List Char → Prop
  | zero {text : List Char} : Whole ('0' :: text) text
  | digits {c : Char} {text rest : List Char} (digit : Text.isDigit c = true) (positive : c ≠ '0')
      (more : Digits text rest) : Whole (c :: text) rest

/-- The decimal point and the digits behind it, if there are any. -/
inductive Fraction : List Char → List Char → Prop
  | none {text : List Char} : Fraction text text
  | digits {c : Char} {text rest : List Char} (digit : Text.isDigit c = true) (more : Digits text rest) :
      Fraction ('.' :: c :: text) rest

/-- The sign of an exponent, which may be left out. -/
inductive Sign : List Char → List Char → Prop
  | none {text : List Char} : Sign text text
  | plus {text : List Char} : Sign ('+' :: text) text
  | minus {text : List Char} : Sign ('-' :: text) text

/-- The exponent, if there is one. -/
inductive Exponent : List Char → List Char → Prop
  | none {text : List Char} : Exponent text text
  | digits {mark c : Char} {text after rest : List Char} (marked : mark = 'e' ∨ mark = 'E')
      (sign : Sign text (c :: after)) (digit : Text.isDigit c = true) (more : Digits after rest) :
      Exponent (mark :: text) rest

/-- A number without its sign. -/
inductive Number : List Char → List Char → Prop
  | mk {text point mark rest : List Char} (whole : Whole text point) (fraction : Fraction point mark)
      (exponent : Exponent mark rest) : Number text rest

/-- A character that stands for itself in a string. -/
def IsPlain (c : Char) : Prop := c ≠ '"' ∧ c ≠ '\\' ∧ 0x20 ≤ c.toNat

/-- The characters that stand behind a backslash, each with the one it stands for there. -/
def shortEscapes : List (Char × Char) :=
  [('"', '"'), ('\\', '\\'), ('/', '/'), ('b', '\x08'), ('f', '\x0c'), ('n', '\n'), ('r', '\r'), ('t', '\t')]

/-- The characters of a string, to its closing quotation mark. -/
inductive Characters : List Char → List Char → Prop
  | close {text : List Char} : Characters ('"' :: text) text
  | plain {c : Char} {text rest : List Char} (h : IsPlain c) (more : Characters text rest) :
      Characters (c :: text) rest
  | short {e c : Char} {text rest : List Char} (h : (e, c) ∈ shortEscapes) (more : Characters text rest) :
      Characters ('\\' :: e :: text) rest
  | code {w x y z : Char} {text rest : List Char} (n : Nat) (h : Text.readHex? [w, x, y, z] = some n)
      (more : Characters text rest) : Characters ('\\' :: 'u' :: w :: x :: y :: z :: text) rest

/-- The characters of a string that stand for some others. A character beyond the first 65536 stands for
itself or is written as two codes. -/
inductive Spells : List Char → List Char → List Char → Prop
  | close {text : List Char} : Spells ('"' :: text) [] text
  | plain {c : Char} {text chars rest : List Char} (h : IsPlain c) (more : Spells text chars rest) :
      Spells (c :: text) (c :: chars) rest
  | short {e c : Char} {text chars rest : List Char} (h : (e, c) ∈ shortEscapes)
      (more : Spells text chars rest) : Spells ('\\' :: e :: text) (c :: chars) rest
  | code {w x y z : Char} {text chars rest : List Char} {n : Nat} (h : Text.readHex? [w, x, y, z] = some n)
      (alone : n < 0xD800 ∨ 0xDFFF < n) (more : Spells text chars rest) :
      Spells ('\\' :: 'u' :: w :: x :: y :: z :: text) (Char.ofNat n :: chars) rest
  | pair {w x y z w' x' y' z' : Char} {text chars rest : List Char} {high low : Nat}
      (h : Text.readHex? [w, x, y, z] = some high) (inHigh : 0xD800 ≤ high ∧ high ≤ 0xDBFF)
      (h' : Text.readHex? [w', x', y', z'] = some low) (inLow : 0xDC00 ≤ low ∧ low ≤ 0xDFFF)
      (more : Spells text chars rest) :
      Spells ('\\' :: 'u' :: w :: x :: y :: z :: '\\' :: 'u' :: w' :: x' :: y' :: z' :: text)
        (Char.ofNat ((high - 0xD800) * 0x400 + (low - 0xDC00) + 0x10000) :: chars) rest

/-! ## Values -/

/-- The nonterminals of the grammar. -/
inductive Part where
  | value
  /-- Items up to the closing bracket. -/
  | items (first : Bool)
  /-- Members up to the closing brace. -/
  | members (first : Bool)

/-- The grammar of JSON. -/
inductive WellFormed : Part → List Char → List Char → Prop
  | null {text : List Char} : WellFormed .value ('n' :: 'u' :: 'l' :: 'l' :: text) text
  | yes {text : List Char} : WellFormed .value ('t' :: 'r' :: 'u' :: 'e' :: text) text
  | no {text : List Char} : WellFormed .value ('f' :: 'a' :: 'l' :: 's' :: 'e' :: text) text
  | number {text rest : List Char} (h : Number text rest) : WellFormed .value text rest
  | negative {text rest : List Char} (h : Number text rest) : WellFormed .value ('-' :: text) rest
  | string {text rest : List Char} (h : Characters text rest) : WellFormed .value ('"' :: text) rest
  | array {text rest : List Char} (h : WellFormed (.items true) text rest) :
      WellFormed .value ('[' :: text) rest
  | object {text rest : List Char} (h : WellFormed (.members true) text rest) :
      WellFormed .value ('\x7b' :: text) rest
  | itemsEnd {first : Bool} {text rest : List Char} (blank : Blank text (']' :: rest)) :
      WellFormed (.items first) text rest
  | item {first : Bool} {text start behind rest : List Char} (lead : Leads first text start)
      (h : WellFormed .value start behind) (more : WellFormed (.items false) behind rest) :
      WellFormed (.items first) text rest
  | membersEnd {first : Bool} {text rest : List Char} (blank : Blank text ('\x7d' :: rest)) :
      WellFormed (.members first) text rest
  | member {first : Bool} {text key colon after start behind rest : List Char}
      (lead : Leads first text ('"' :: key)) (named : Characters key colon) (before : Blank colon (':' :: after))
      (blank : Blank after start) (h : WellFormed .value start behind)
      (more : WellFormed (.members false) behind rest) : WellFormed (.members first) text rest

/-- What is written: a value, or what is in one. -/
inductive Shape where
  | value (j : Json)
  /-- Items up to the closing bracket. -/
  | items (first : Bool) (items : List Json)
  /-- Members up to the closing brace. Between them may be members whose keys are none of the given names. -/
  | members (first : Bool) (names : List String) (members : List (String × Json))

/-- The texts of values without doubles, for readers that know which keys the objects have. -/
inductive Writes : Shape → List Char → List Char → Prop
  | null {text : List Char} : Writes (.value .null) ('n' :: 'u' :: 'l' :: 'l' :: text) text
  | bool (b : Bool) {text : List Char} : Writes (.value (.bool b)) ((Json.bool b).scalar ++ text) text
  | int (n : Int) {text : List Char} : Writes (.value (.int n)) (Text.intDigits n ++ text) text
  | string {s : String} {text rest : List Char} (h : Spells text s.toList rest) :
      Writes (.value (.string s)) ('"' :: text) rest
  | array {js : List Json} {text rest : List Char} (h : Writes (.items true js) text rest) :
      Writes (.value (.array js)) ('[' :: text) rest
  /-- An object as the array of its values. -/
  | tuple {ms : List (String × Json)} {text rest : List Char}
      (h : Writes (.items true (ms.map (·.2))) text rest) : Writes (.value (.object ms)) ('[' :: text) rest
  | object {ms order : List (String × Json)} {text rest : List Char} (ordered : order.Perm ms)
      (h : Writes (.members true (ms.map (·.1)) order) text rest) :
      Writes (.value (.object ms)) ('\x7b' :: text) rest
  | itemsEnd {first : Bool} {text rest : List Char} (blank : Blank text (']' :: rest)) :
      Writes (.items first []) text rest
  | item {first : Bool} {j : Json} {js : List Json} {text start behind rest : List Char}
      (lead : Leads first text start) (h : Writes (.value j) start behind)
      (more : Writes (.items false js) behind rest) : Writes (.items first (j :: js)) text rest
  | membersEnd {first : Bool} {names : List String} {text rest : List Char}
      (blank : Blank text ('\x7d' :: rest)) : Writes (.members first names []) text rest
  | member {first : Bool} {names : List String} {name : String} {j : Json} {ms : List (String × Json)}
      {text key colon after start behind rest : List Char} (lead : Leads first text ('"' :: key))
      (named : Spells key name.toList colon) (before : Blank colon (':' :: after)) (blank : Blank after start)
      (h : Writes (.value j) start behind) (more : Writes (.members false names ms) behind rest) :
      Writes (.members first names ((name, j) :: ms)) text rest
  /-- A member that no reader knows. -/
  | unknown {first : Bool} {names : List String} {name : String} {ms : List (String × Json)}
      {text key colon after start behind rest : List Char} (other : name ∉ names)
      (lead : Leads first text ('"' :: key)) (named : Spells key name.toList colon)
      (before : Blank colon (':' :: after)) (blank : Blank after start) (h : WellFormed .value start behind)
      (more : Writes (.members false names ms) behind rest) : Writes (.members first names ms) text rest

/-- A whole text of a value. -/
def IsTextOf (j : Json) (text : String) : Prop :=
  ∃ start rest, Blank text.toList start ∧ Writes (.value j) start rest ∧ Blank rest []

/-! ## White space and commas -/

theorem Blank.skipSpace_eq {text rest : List Char} (h : Blank text rest) : skipSpace text = skipSpace rest := by
  induction h with
  | nil => rfl
  | cons space _ ih => rw [← ih, skipSpace, List.dropWhile_cons_of_pos space, skipSpace]

/-- White space is passed over up to a character that is none. -/
theorem Blank.skipSpace_cons {c : Char} {text rest : List Char} (h : Blank text (c :: rest))
    (visible : isSpace c = false) : skipSpace text = c :: rest := by
  rw [h.skipSpace_eq, Json.skipSpace_cons visible]

theorem Blank.length_le {text rest : List Char} (h : Blank text rest) : rest.length ≤ text.length := by
  induction h with
  | nil => exact Nat.le_refl _
  | cons _ _ ih => exact Nat.le_succ_of_le ih

theorem blank_replicate (n : Nat) (rest : List Char) : Blank (List.replicate n ' ' ++ rest) rest := by
  induction n with
  | zero => exact .nil
  | succ n ih => exact .cons (by decide) ih

theorem blank_newline (level : Nat) (rest : List Char) : Blank (newline level ++ rest) rest :=
  .cons (by decide) (blank_replicate _ rest)

/-- Numbers end before white space. -/
theorem endsNumeral_of_isSpace {c : Char} (space : isSpace c = true) (rest : List Char) :
    EndsNumeral (c :: rest) := by
  intro d hd
  cases hd
  simp only [isSpace, Bool.or_eq_true, decide_eq_true_eq] at space
  rcases space with ((rfl | rfl) | rfl) | rfl <;> decide

/-- A mark that stands between or behind values. -/
def Separates (c : Char) : Prop := c = ',' ∨ c = ']' ∨ c = '\x7d'

theorem Blank.endsNumeral {c : Char} {text rest : List Char} (h : Blank text (c :: rest))
    (separates : Separates c) : EndsNumeral text := by
  cases h with
  | nil =>
    intro d hd
    cases hd
    rcases separates with rfl | rfl | rfl <;> decide
  | cons space => exact endsNumeral_of_isSpace space _

theorem Blank.endsNumeral_nil {text : List Char} (h : Blank text []) : EndsNumeral text := by
  cases h with
  | nil =>
    intro d hd
    cases hd
  | cons space => exact endsNumeral_of_isSpace space _

theorem Leads.endsNumeral {text rest : List Char} (h : Leads false text rest) : EndsNumeral text := by
  cases h with
  | comma before _ => exact before.endsNumeral (.inl rfl)

theorem Leads.length_le {first : Bool} {text rest : List Char} (h : Leads first text rest) :
    rest.length ≤ text.length := by
  cases h with
  | first blank => exact blank.length_le
  | comma before behind =>
    have short := before.length_le
    have shorter := behind.length_le
    rw [List.length_cons] at short
    omega

/-! ## What is left is shorter -/

theorem Digits.length_le {text rest : List Char} (h : Digits text rest) : rest.length ≤ text.length := by
  induction h with
  | nil => exact Nat.le_refl _
  | cons _ _ ih => exact Nat.le_succ_of_le ih

theorem Whole.length_lt {text rest : List Char} (h : Whole text rest) : rest.length < text.length := by
  cases h with
  | zero => exact Nat.lt_succ_self _
  | digits _ _ more => exact Nat.lt_succ_of_le more.length_le

theorem Fraction.length_le {text rest : List Char} (h : Fraction text rest) : rest.length ≤ text.length := by
  cases h with
  | none => exact Nat.le_refl _
  | digits _ more => exact Nat.le_succ_of_le (Nat.le_succ_of_le more.length_le)

theorem Exponent.length_le {text rest : List Char} (h : Exponent text rest) : rest.length ≤ text.length := by
  cases h with
  | none => exact Nat.le_refl _
  | digits _ sign _ more =>
    have digits := more.length_le
    cases sign <;> simp only [List.length_cons] <;> omega

theorem Number.length_lt {text rest : List Char} (h : Number text rest) : rest.length < text.length := by
  cases h with
  | mk whole fraction exponent =>
    have first := whole.length_lt
    have second := fraction.length_le
    have third := exponent.length_le
    omega

theorem Characters.length_lt {text rest : List Char} (h : Characters text rest) :
    rest.length < text.length := by
  induction h with
  | close => exact Nat.lt_succ_self _
  | plain _ _ ih => exact Nat.lt_succ_of_lt ih
  | short _ _ ih | code _ _ _ ih => simp only [List.length_cons]; omega

theorem Spells.length_lt {text chars rest : List Char} (h : Spells text chars rest) :
    rest.length < text.length := by
  induction h with
  | close => exact Nat.lt_succ_self _
  | plain _ _ ih => exact Nat.lt_succ_of_lt ih
  | short _ _ ih | code _ _ _ ih | pair _ _ _ _ _ ih => simp only [List.length_cons]; omega

/-- The value of a member begins behind its key. -/
theorem length_start_lt {first : Bool} {text key colon after start : List Char}
    (lead : Leads first text ('"' :: key)) (named : colon.length < key.length)
    (before : Blank colon (':' :: after)) (blank : Blank after start) : start.length < text.length := by
  have first := lead.length_le
  have third := before.length_le
  have fourth := blank.length_le
  simp only [List.length_cons] at first third
  omega

theorem WellFormed.length_lt {part : Part} {text rest : List Char} (h : WellFormed part text rest) :
    rest.length < text.length := by
  induction h with
  | null | yes | no => simp only [List.length_cons]; omega
  | number h => exact h.length_lt
  | negative h => exact Nat.lt_succ_of_lt h.length_lt
  | string h => exact Nat.lt_succ_of_lt h.length_lt
  | array _ ih | object _ ih => exact Nat.lt_succ_of_lt ih
  | itemsEnd blank | membersEnd blank => exact blank.length_le
  | item lead _ _ ih ihMore =>
    have before := lead.length_le
    omega
  | member lead named before blank _ _ ih ihMore =>
    have start := length_start_lt lead named.length_lt before blank
    omega

theorem Writes.length_lt {shape : Shape} {text rest : List Char} (h : Writes shape text rest) :
    rest.length < text.length := by
  induction h with
  | null => simp only [List.length_cons]; omega
  | bool b => cases b <;> simp only [scalar, List.length_append, List.length_cons] <;> omega
  | int n =>
    have some_ : 0 < (Text.intDigits n).length := by
      cases n with
      | ofNat n => exact List.length_pos_iff.2 Nat.toDigits_ne_nil
      | negSucc n => exact Nat.succ_pos _
    rw [List.length_append]
    omega
  | string h => exact Nat.lt_succ_of_lt h.length_lt
  | array _ ih | tuple _ ih | object _ _ ih => exact Nat.lt_succ_of_lt ih
  | itemsEnd blank | membersEnd blank => exact blank.length_le
  | item lead _ _ ih ihMore =>
    have before := lead.length_le
    omega
  | member lead named before blank _ _ ih ihMore =>
    have start := length_start_lt lead named.length_lt before blank
    omega
  | unknown _ lead named before blank h _ ihMore =>
    have start := length_start_lt lead named.length_lt before blank
    have value := h.length_lt
    omega

/-! ## How values begin and containers go on -/

/-- Behind a value in a container numbers end. -/
theorem WellFormed.endsNumeral {part : Part} {text rest : List Char} (h : WellFormed part text rest)
    (inside : part = .items false ∨ part = .members false) : EndsNumeral text := by
  cases h with
  | itemsEnd blank => exact blank.endsNumeral (.inr (.inl rfl))
  | membersEnd blank => exact blank.endsNumeral (.inr (.inr rfl))
  | item lead | member lead =>
    obtain inside | inside := inside <;> cases inside
    exact lead.endsNumeral
  | _ => obtain inside | inside := inside <;> cases inside

theorem Writes.endsNumeral_items {js : List Json} {text rest : List Char}
    (h : Writes (.items false js) text rest) : EndsNumeral text := by
  cases h with
  | itemsEnd blank => exact blank.endsNumeral (.inr (.inl rfl))
  | item lead => exact lead.endsNumeral

theorem Writes.endsNumeral_members {names : List String} {ms : List (String × Json)} {text rest : List Char}
    (h : Writes (.members false names ms) text rest) : EndsNumeral text := by
  cases h with
  | membersEnd blank => exact blank.endsNumeral (.inr (.inr rfl))
  | member lead | unknown _ lead => exact lead.endsNumeral

theorem Number.head {text rest : List Char} (h : Number text rest) :
    ∃ c more, text = c :: more ∧ Text.isDigit c = true := by
  cases h with
  | mk whole =>
    cases whole with
    | zero => exact ⟨_, _, rfl, by decide⟩
    | digits digit => exact ⟨_, _, rfl, digit⟩

/-- A digit begins a value. -/
theorem begins_of_isDigit {c : Char} (h : Text.isDigit c = true) : isSpace c = false ∧ c ≠ ']' ∧ c ≠ 'n' :=
  ⟨isSpace_digit h, Text.digit_ne h (by decide), Text.digit_ne h (by decide)⟩

/-- A value begins with a character that is no white space and closes no array. -/
theorem WellFormed.head {text rest : List Char} (h : WellFormed .value text rest) :
    ∃ c more, text = c :: more ∧ isSpace c = false ∧ c ≠ ']' := by
  cases h with
  | number h =>
    obtain ⟨c, more, rfl, digit⟩ := h.head
    obtain ⟨visible, closing, -⟩ := begins_of_isDigit digit
    exact ⟨c, more, rfl, visible, closing⟩
  | _ => exact ⟨_, _, rfl, by decide, by decide⟩

theorem head_intDigits (n : Int) : ∃ c more, Text.intDigits n = c :: more ∧ isSpace c = false ∧ c ≠ ']' ∧ c ≠ 'n' := by
  cases n with
  | ofNat n =>
    obtain ⟨c, more, hc, digit⟩ := Text.natDigits_eq_cons n
    exact ⟨c, more, hc, begins_of_isDigit digit⟩
  | negSucc n => exact ⟨_, _, rfl, by decide, by decide, by decide⟩

/-- So does a value that is written, and only null begins with its letter. -/
theorem Writes.head {j : Json} {text rest : List Char} (h : Writes (.value j) text rest) :
    ∃ c more, text = c :: more ∧ isSpace c = false ∧ c ≠ ']' ∧ (c = 'n' → j = .null) := by
  cases h with
  | null => exact ⟨_, _, rfl, by decide, by decide, fun _ => rfl⟩
  | bool b => cases b <;> exact ⟨_, _, rfl, by decide, by decide, fun same => absurd same (by decide)⟩
  | int n =>
    obtain ⟨c, more, hc, visible, closing, other⟩ := head_intDigits n
    exact ⟨c, more ++ rest, by rw [hc, List.cons_append], visible, closing, fun same => absurd same other⟩
  | _ => exact ⟨_, _, rfl, by decide, by decide, fun same => absurd same (by decide)⟩

/-! ## What the printer writes -/

theorem spells_escape {c : Char} {text chars rest : List Char} (h : Spells text chars rest) :
    Spells (escape c ++ text) (c :: chars) rest := by
  unfold escape
  split
  case h_8 quotes slash _ _ _ _ _ =>
    split
    · next control =>
      obtain ⟨w, x, y, z, digits, value, -⟩ := Text.exists_four_digits (by omega : c.toNat < 0x10000)
      have spelled := Spells.code value (.inl (by omega)) h
      rw [Char.ofNat_toNat] at spelled
      rw [digits]
      exact spelled
    · next plain => exact .plain ⟨quotes, slash, Nat.le_of_not_lt plain⟩ h
  all_goals exact .short (by decide) h

/-- A string literal spells its text. -/
theorem spells_quote (chars rest : List Char) : Spells (chars.flatMap escape ++ '"' :: rest) chars rest := by
  induction chars with
  | nil => exact .close
  | cons c chars ih =>
    rw [List.flatMap_cons, List.append_assoc]
    exact spells_escape ih

/-- A string may be written as its literal. -/
theorem Writes.quoted (s : String) (rest : List Char) : Writes (.value (.string s)) (quote s ++ rest) rest := by
  rw [quote_append]
  exact .string (spells_quote s.toList rest)

/-- So may the key of a member. -/
theorem Writes.named {first : Bool} {names : List String} {name : String} {j : Json}
    {ms : List (String × Json)} {text after start behind rest : List Char}
    (lead : Leads first text (quote name ++ ':' :: after)) (blank : Blank after start)
    (h : Writes (.value j) start behind) (more : Writes (.members false names ms) behind rest) :
    Writes (.members first names ((name, j) :: ms)) text rest := by
  rw [quote_append] at lead
  exact .member lead (spells_quote name.toList _) .nil blank h more

mutual

/-- What the printer writes of a value is a text of it. -/
theorem writes_pretty (level : Nat) (rest : List Char) : (j : Json) → j.Floatless →
    Writes (.value j) (j.prettyChars level ++ rest) rest
  | .null, _ => .null
  | .bool b, _ => .bool b
  | .int n, _ => .int n
  | .string s, _ => .quoted s rest
  | .array [], _ => .array (.itemsEnd .nil)
  | .array (item :: more), h => by
    rw [prettyChars, List.append_assoc, List.append_assoc, List.cons_append]
    exact .array (.item (.first (blank_newline (level + 1) _)) (writes_pretty (level + 1) _ item h.1)
      (writes_prettyItems level rest more h.2))
  | .object [], _ => .object (.refl _) (.membersEnd .nil)
  | .object ((key, value) :: more), h => by
    simp only [prettyChars, List.append_assoc, List.cons_append]
    exact .object (.refl _) (.named (.first (blank_newline (level + 1) _)) (.cons (by decide) .nil)
      (writes_pretty (level + 1) _ value h.1) (writes_prettyMembers level rest _ more h.2))

/-- The items behind the first. -/
theorem writes_prettyItems (level : Nat) (rest : List Char) : (items : List Json) → FloatlessItems items →
    Writes (.items false items) (prettyItems level items ++ rest) rest
  | [], _ => by
    rw [prettyItems, List.append_assoc]
    exact .itemsEnd (blank_newline level _)
  | item :: more, h => by
    rw [prettyItems, List.append_assoc, List.append_assoc, List.cons_append]
    exact .item (.comma .nil (blank_newline (level + 1) _)) (writes_pretty (level + 1) _ item h.1)
      (writes_prettyItems level rest more h.2)

/-- The members behind the first. -/
theorem writes_prettyMembers (level : Nat) (rest : List Char) (names : List String) :
    (members : List (String × Json)) → FloatlessMembers members →
      Writes (.members false names members) (prettyMembers level members ++ rest) rest
  | [], _ => by
    rw [prettyMembers, List.append_assoc]
    exact .membersEnd (blank_newline level _)
  | (key, value) :: more, h => by
    simp only [prettyMembers, List.append_assoc, List.cons_append]
    exact .named (.comma .nil (blank_newline (level + 1) _)) (.cons (by decide) .nil)
      (writes_pretty (level + 1) _ value h.1) (writes_prettyMembers level rest names more h.2)

end

/-- The printed text of a value is a text of it. -/
theorem isTextOf_pretty {j : Json} (h : j.Floatless) : IsTextOf j j.pretty := by
  have written := writes_pretty 0 [] j h
  rw [List.append_nil] at written
  refine ⟨_, [], ?_, written, .nil⟩
  rw [pretty, String.toList_ofList]
  exact .nil

end Fixtures.Json
