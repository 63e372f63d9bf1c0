import Fixtures.Proofs.Toml.BasicStrings

/-!
# Texts of lines

The settings texts without tables inside: lines that give keys of one part their values, between empty lines and
comments. A key may stand between quotation marks. Of the values only strings between double quotation marks are
told apart; any other may stand in a line if it can be read.

## Main result

* `parse_of_lines`: such a text is the table of its entries, if no key is given twice.

The readers are followed from the blanks to a whole line by one lemma for each nonterminal of the grammar.
-/

namespace Fixtures.Toml

/-! ## The grammar -/

/-- Blanks within a line. -/
inductive Blanks : List Char → List Char → Prop
  | nil {text : List Char} : Blanks text text
  | cons {c : Char} {text rest : List Char} (blank : isBlank c = true) (more : Blanks text rest) :
      Blanks (c :: text) rest

/-- The end of a line. -/
inductive Newline : List Char → List Char → Prop
  | feed {text : List Char} : Newline ('\n' :: text) text
  | pair {text : List Char} : Newline ('\r' :: '\n' :: text) text

/-- The end of a line or of the text. -/
inductive LineEnd : List Char → List Char → Prop
  | line {text rest : List Char} (h : Newline text rest) : LineEnd text rest
  | text : LineEnd [] []

/-- A comment and the end of its line. -/
inductive Comment : List Char → List Char → Prop
  | mk {words text rest : List Char} (printable : ∀ c ∈ words, isPrintable c = true) (ended : LineEnd text rest) :
      Comment ('#' :: (words ++ text)) rest

/-- What stands behind a value: blanks, perhaps a comment, and the end of the line. -/
inductive Trail : List Char → List Char → Prop
  | plain {text start rest : List Char} (blank : Blanks text start) (ended : LineEnd start rest) : Trail text rest
  | comment {text start rest : List Char} (blank : Blanks text start) (h : Comment start rest) : Trail text rest

/-- A key, with or without quotation marks. -/
inductive WritesKey (name : String) : List Char → List Char → Prop
  | bare {rest : List Char} (plain : IsBareKey name.toList) : WritesKey name (name.toList ++ rest) rest
  | quoted {text rest : List Char} (h : Spells text name.toList rest) : WritesKey name ('"' :: text) rest

/-- A value: a string between double quotation marks, or any other that can be read. -/
inductive WritesValue : Option String → List Char → List Char → Prop
  | string {s : String} {text rest : List Char} (h : Spells text s.toList rest) :
      WritesValue (some s) ('"' :: text) rest
  | other {x : Item} {value rest : List Char} (h : item nestingLimit (value ++ rest) = .ok (x, rest)) :
      WritesValue none (value ++ rest) rest

/-- The lines of a text, with the entries that they give. -/
inductive Lines : List (String × Option String) → List Char → Prop
  | nil {text : List Char} (blank : Blanks text []) : Lines [] text
  | blank {settings : List (String × Option String)} {text start rest : List Char} (blank : Blanks text start)
      (ended : Newline start rest) (more : Lines settings rest) : Lines settings text
  | comment {settings : List (String × Option String)} {text start rest : List Char} (blank : Blanks text start)
      (h : Comment start rest) (more : Lines settings rest) : Lines settings text
  | entry {settings : List (String × Option String)} {name : String} {v : Option String}
      {text start mark after value behind rest : List Char} (blank : Blanks text start)
      (key : WritesKey name start mark) (before : Blanks mark ('=' :: after)) (gap : Blanks after value)
      (h : WritesValue v value behind) (trail : Trail behind rest) (more : Lines settings rest) :
      Lines ((name, v) :: settings) text

variable {text start rest : List Char}

/-! ## Blanks and ends of lines -/

theorem Blanks.skipBlanks_eq (h : Blanks text rest) : skipBlanks text = skipBlanks rest := by
  induction h with
  | nil => rfl
  | cons blank _ ih => rw [← ih, skipBlanks, List.dropWhile_cons_of_pos blank, skipBlanks]

theorem Blanks.length_le (h : Blanks text rest) : rest.length ≤ text.length := by
  induction h with
  | nil => exact Nat.le_refl _
  | cons _ _ ih => exact Nat.le_succ_of_le ih

theorem newline_of_newline (h : Newline text rest) : newline text = .ok ((), rest) := by
  cases h <;> rfl

theorem Newline.length_lt (h : Newline text rest) : rest.length < text.length := by
  cases h with
  | feed => exact Nat.lt_succ_self _
  | pair => exact Nat.lt_succ_of_lt (Nat.lt_succ_self _)

/-- The end of a line is no blank and belongs to no comment. -/
theorem LineEnd.head (h : LineEnd text rest) : ∀ c ∈ text.head?, isBlank c = false ∧ isPrintable c = false ∧ c ≠ '#' := by
  intro c hc
  cases h with
  | line h =>
    cases h with
    | feed | pair =>
      cases hc
      decide
  | text => cases hc

theorem lineEnd_of_lineEnd (h : LineEnd text rest) : lineEnd text = .ok ((), rest) := by
  cases h with
  | line h => rw [lineEnd, newline_of_newline h]
  | text => rfl

theorem LineEnd.length_le (h : LineEnd text rest) : rest.length ≤ text.length := by
  cases h with
  | line h => exact Nat.le_of_lt h.length_lt
  | text => exact Nat.le_refl _

theorem skipBlanks_of_head (h : ∀ c ∈ text.head?, isBlank c = false) : skipBlanks text = text := by
  cases text with
  | nil => rfl
  | cons c text => exact skipBlanks_cons (h c rfl) text

/-! ## Comments -/

theorem skipComment_of_comment (h : Comment text rest) : ∃ start, skipComment text = start ∧ LineEnd start rest := by
  cases h with
  | @mk words start _ printable ended =>
    have passed : start.dropWhile isPrintable = start := by
      cases start with
      | nil => rfl
      | cons c start => exact List.dropWhile_cons_of_neg (by simp [(ended.head c rfl).2.1])
    refine ⟨start, ?_, ended⟩
    rw [skipComment, List.dropWhile_append_of_pos printable, passed]

theorem Comment.length_lt (h : Comment text rest) : rest.length < text.length := by
  obtain ⟨-, ended⟩ := h
  have short := ended.length_le
  simp only [List.length_cons, List.length_append]
  omega

/-- A comment begins with its mark. -/
theorem Comment.head (h : Comment text rest) : ∃ more, text = '#' :: more := by
  cases h
  exact ⟨_, rfl⟩

theorem trailing_of_trail (h : Trail text rest) : trailing text = .ok ((), rest) := by
  cases h with
  | @plain start _ blank ended =>
    have stays : skipComment start = start := by
      unfold skipComment
      split
      · exact absurd rfl (ended.head '#' rfl).2.2
      · rfl
    rw [trailing, blank.skipBlanks_eq, skipBlanks_of_head fun c hc => (ended.head c hc).1, stays,
      lineEnd_of_lineEnd ended]
    rfl
  | comment blank h =>
    obtain ⟨more, rfl⟩ := h.head
    obtain ⟨start, skipped, ended⟩ := skipComment_of_comment h
    rw [trailing, blank.skipBlanks_eq, skipBlanks_cons (by decide), skipped, lineEnd_of_lineEnd ended]
    rfl

theorem Trail.length_le (h : Trail text rest) : rest.length ≤ text.length := by
  cases h with
  | plain blank ended => exact Nat.le_trans ended.length_le blank.length_le
  | comment blank h => exact Nat.le_trans (Nat.le_of_lt h.length_lt) blank.length_le

/-- No quotation mark stands directly behind a value. -/
theorem Trail.head_ne (h : Trail text rest) : text.head? ≠ some '"' := by
  intro quote
  -- a quotation mark is no blank, so it would still be there behind the blanks
  have first (start : List Char) (blank : Blanks text start) : start.head? = some '"' := by
    cases blank with
    | nil => exact quote
    | cons blank _ =>
      cases quote
      exact absurd blank (by decide)
  cases h with
  | plain blank ended => exact absurd (ended.head '"' (first _ blank)).2.1 (by decide)
  | comment blank h =>
    obtain ⟨more, rfl⟩ := h.head
    exact absurd (first _ blank) (by simp)

/-! ## Keys -/

/-- A key begins with a character that may stand in one, or with a quotation mark. -/
theorem WritesKey.head {name : String} (h : WritesKey name text rest) :
    ∃ c more, text = c :: more ∧ (isBare c = true ∨ c = '"') := by
  cases h with
  | bare plain =>
    obtain ⟨c, cs, hkey⟩ := List.exists_cons_of_ne_nil plain.nonempty
    exact ⟨c, cs ++ rest, by rw [hkey, List.cons_append], .inl (plain.bare c (hkey ▸ List.mem_cons_self))⟩
  | quoted => exact ⟨_, _, rfl, .inr rfl⟩

/-- So no other mark stands in its place. -/
theorem head_key_ne {c d : Char} (h : isBare c = true ∨ c = '"') (other : isBare d = false ∧ d ≠ '"') : c ≠ d := by
  rcases h with bare | rfl
  · exact isBare_ne bare other.1
  · exact Ne.symm other.2

theorem WritesKey.skipBlanks_eq {name : String} (h : WritesKey name text rest) : skipBlanks text = text := by
  obtain ⟨c, more, rfl, first⟩ := h.head
  have space := head_key_ne first (d := ' ') (by decide)
  have tab := head_key_ne first (d := '\t') (by decide)
  exact skipBlanks_cons (by simp [isBlank, space, tab]) more

theorem WritesKey.length_lt {name : String} (h : WritesKey name text rest) : rest.length < text.length := by
  cases h with
  | bare plain =>
    have positive := List.length_pos_of_ne_nil plain.nonempty
    rw [List.length_append]
    omega
  | quoted h => exact Nat.lt_succ_of_lt h.length_lt

theorem simpleKey_of_writes {name : String} (h : WritesKey name text rest) {d : Char} {more : List Char}
    (ends : rest = d :: more) (noBare : isBare d = false) :
    ∃ span, simpleKey text = .ok (⟨name, span⟩, rest) := by
  subst ends
  cases h with
  | bare plain => exact simpleKey_bare plain noBare more
  | quoted h =>
    simp only [simpleKey, basicString_of_spells h, andThen, String.ofList_toList]
    exact ⟨_, rfl⟩

/-- A key is read up to the equals sign. -/
theorem dottedKey_of_writes {name : String} {after : List Char} (h : WritesKey name text rest)
    (before : Blanks rest ('=' :: after)) : ∃ span, dottedKey text = .ok (([], ⟨name, span⟩), '=' :: after) := by
  obtain ⟨d, more, ends, noBare⟩ : ∃ d more, rest = d :: more ∧ isBare d = false := by
    cases before with
    | nil => exact ⟨_, _, rfl, by decide⟩
    | @cons c _ _ blank _ =>
      refine ⟨_, _, rfl, Bool.eq_false_iff.mpr fun bare => ?_⟩
      exact absurd (isBlank_of_isBare bare) (by simp [blank])
  obtain ⟨span, read⟩ := simpleKey_of_writes h ends noBare
  have equals : skipBlanks rest = '=' :: after := by rw [before.skipBlanks_eq, skipBlanks_cons (by decide)]
  refine ⟨span, ?_⟩
  rw [dottedKey]
  simp only [separated, h.skipBlanks_eq, read, andThen, equals, labelled, Except.mapError]
  rfl

/-! ## Values -/

/-- An item that is the string, if it is to be one. -/
def IsValue (v : Option String) (x : Item) : Prop := ∀ s ∈ v, ∃ place, x = .string s place

theorem item_of_writes {v : Option String} (h : WritesValue v text rest) (apart : rest.head? ≠ some '"') :
    ∃ x, item nestingLimit text = .ok (x, rest) ∧ IsValue v x := by
  cases h with
  | @string s text _ h =>
    obtain ⟨place, read⟩ := item_of_spells h apart (nestingLimit - 1)
    refine ⟨_, read, fun t ht => ?_⟩
    obtain rfl := Option.some.inj ht
    exact ⟨place, rfl⟩
  | other h => exact ⟨_, h, fun s hs => by cases hs⟩

/-- No item begins with a blank. -/
theorem isBlank_of_item_ok {levels : Nat} {c : Char} {x : Item} (h : item levels (c :: text) = .ok (x, rest)) :
    isBlank c = false := by
  by_contra blank
  cases levels with
  | zero => cases h
  | succ levels =>
    simp only [isBlank, Bool.or_eq_true, decide_eq_true_eq, Bool.not_eq_false] at blank
    rcases blank with rfl | rfl <;> cases h

theorem WritesValue.skipBlanks_eq {v : Option String} (h : WritesValue v text rest) : skipBlanks text = text := by
  cases h with
  | string => exact skipBlanks_cons (by decide) _
  | @other x value _ h =>
    cases hv : value ++ rest with
    | nil => rfl
    | cons c more => exact skipBlanks_cons (isBlank_of_item_ok (hv ▸ h)) more

theorem WritesValue.length_le {v : Option String} (h : WritesValue v text rest) : rest.length ≤ text.length := by
  cases h with
  | string h => exact Nat.le_succ_of_le (Nat.le_of_lt h.length_lt)
  | other => simp

/-! ## Lines -/

/-- A line gives its key the value that it says. -/
theorem itemStatement_of_writes {name : String} {v : Option String} {mark after value behind : List Char}
    (key : WritesKey name start mark) (before : Blanks mark ('=' :: after)) (gap : Blanks after value)
    (h : WritesValue v value behind) (trail : Trail behind rest) :
    ∃ s, itemStatement start = .ok (s, rest) ∧ Assigns IsValue (name, v) s := by
  obtain ⟨span, named⟩ := dottedKey_of_writes key before
  obtain ⟨x, read, meant⟩ := item_of_writes h trail.head_ne
  refine ⟨.item [] ⟨name, span⟩ x start, ?_, ⟨span, x, start, rfl, meant⟩⟩
  rw [itemStatement, assignment, named]
  simp only [andThen, Toml.mark, one, decide_true, if_true, expectingMark, expecting, Except.mapError, mapOutcome,
    gap.skipBlanks_eq, h.skipBlanks_eq, read, trailing_of_trail trail, firmly]

/-- The lines of a text are read as statements that give what they say. -/
theorem statements_of_lines {settings : List (String × Option String)} {fuel : Nat} (h : Lines settings text)
    (enough : text.length < fuel) :
    ∃ read, statements fuel text = (read, none) ∧ List.Forall₂ (Assigns IsValue) settings read := by
  induction h generalizing fuel with
  | nil blank =>
    obtain ⟨fuel, rfl⟩ := Nat.exists_eq_succ_of_ne_zero (Nat.ne_zero_of_lt enough)
    refine ⟨[], ?_, .nil⟩
    rw [statements, blank.skipBlanks_eq]
    rfl
  | blank blank ended _ ih =>
    obtain ⟨fuel, rfl⟩ := Nat.exists_eq_succ_of_ne_zero (Nat.ne_zero_of_lt enough)
    have short := blank.length_le
    have shorter := ended.length_lt
    obtain ⟨read, done, given⟩ := ih (show _ < fuel by omega)
    refine ⟨read, ?_, given⟩
    rw [statements, blank.skipBlanks_eq]
    cases ended <;> exact done
  | comment blank h _ ih =>
    obtain ⟨fuel, rfl⟩ := Nat.exists_eq_succ_of_ne_zero (Nat.ne_zero_of_lt enough)
    have short := blank.length_le
    have shorter := h.length_lt
    obtain ⟨read, done, given⟩ := ih (show _ < fuel by omega)
    obtain ⟨start, skipped, ended⟩ := skipComment_of_comment h
    obtain ⟨more, rfl⟩ := h.head
    refine ⟨read, ?_, given⟩
    rw [statements, blank.skipBlanks_eq, skipBlanks_cons (by decide)]
    simp only [skipped, lineEnd_of_lineEnd ended, done]
  | @entry _ _ _ _ start _ _ _ _ _ blank key before gap h trail _ ih =>
    obtain ⟨fuel, rfl⟩ := Nat.exists_eq_succ_of_ne_zero (Nat.ne_zero_of_lt enough)
    have beforeKey := blank.length_le
    have behindKey := key.length_lt
    have equals := before.length_le
    have behindEquals := gap.length_le
    have behindValue := h.length_le
    have behindLine := trail.length_le
    rw [List.length_cons] at equals
    obtain ⟨more, done, given⟩ := ih (show _ < fuel by omega)
    obtain ⟨s, read, assigned⟩ := itemStatement_of_writes key before gap h trail
    obtain ⟨c, cs, rfl, first⟩ := key.head
    refine ⟨s :: more, ?_, .cons assigned given⟩
    -- the first character of a key leads to none of the other statements
    have hash := head_key_ne first (d := '#') (by decide)
    have bracket := head_key_ne first (d := '[') (by decide)
    have feed := head_key_ne first (d := '\n') (by decide)
    have back := head_key_ne first (d := '\r') (by decide)
    rw [statements_item (blank.skipBlanks_eq.trans key.skipBlanks_eq) hash bracket feed back, read]
    simp only [done]

/-- A text of lines, with keys of their own, is the table of its entries. -/
theorem parse_of_lines {settings : List (String × Option String)} {text : String}
    (h : Lines settings (Document.body text)) (distinct : (settings.map (·.1)).Nodup) :
    ∃ members span, List.Forall₂ (Stores IsValue) settings members ∧
      Document.parse text = .ok (.table .header members span) := by
  obtain ⟨read, done, given⟩ := statements_of_lines h (Nat.lt_succ_self _)
  obtain ⟨members, span, stored, built⟩ := build_assigns given distinct [] (by simp)
    (some ⟨text.toList.length, text.toList.length⟩)
  refine ⟨members, span, stored, ?_⟩
  rw [Document.parse]
  simp only [done, Document.Progress.start, built]
  rfl

end Fixtures.Toml
