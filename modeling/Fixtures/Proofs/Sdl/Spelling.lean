import Fixtures.Proofs.Sdl.Scanning
import Fixtures.Proofs.Text.Hexadecimal

/-!
# How tokens are spelled

A text spells tokens if these are scanned from it whatever delimited text comes behind it: `Spells`. Names and
punctuators spell themselves, and blanks nothing. A string is spelled between quotation marks, with quotation marks
and backslashes behind a backslash and control characters by their numbers; all else stands for itself.

## Main results

* `Spells.append`: one text after the other.
* `spells_string`: what a string is spelled as is scanned as the string.
-/

namespace Fixtures.Sdl

/-! ## Texts that spell tokens -/

/-- A text that neither goes on a name nor adds a quotation mark to one. -/
def Delimited (text : List Char) : Prop := ∀ c ∈ text.head?, isNameRest c = false ∧ c ≠ '"'

/-- A text that delimits what comes before it, if it is delimited itself. -/
def Delimits (text : List Char) : Prop := ∀ more, Delimited more → Delimited (text ++ more)

/-- A text that is scanned as the given tokens, whatever delimited text comes behind it; with the bracket budgets
before and after it. -/
def Spells (budget : Nat) (text : List Char) (tokens : List Token) (budget' : Nat) : Prop :=
  ∀ more others budget'', Delimited more → Scans budget' more others budget'' →
    Scans budget (text ++ more) (tokens ++ others) budget''

theorem delimited_nil : Delimited [] := by simp [Delimited]

theorem delimits_cons {c : Char} (name : isNameRest c = false) (quote : c ≠ '"') (rest : List Char) :
    Delimits (c :: rest) := by
  intro more _ d hd
  cases hd
  exact ⟨name, quote⟩

section Combining

variable {budget budget' budget'' : Nat} {text text' : List Char} {tokens tokens' : List Token}

theorem spells_nil : Spells budget [] [] budget := fun _ _ _ _ scans => scans

theorem Spells.append (first : Spells budget text tokens budget') (second : Spells budget' text' tokens' budget'')
    (delimits : Delimits text') : Spells budget (text ++ text') (tokens ++ tokens') budget'' := by
  intro more others last delimited scans
  rw [List.append_assoc, List.append_assoc]
  exact first _ _ _ (delimits more delimited) (second more others last delimited scans)

/-- Texts that spell tokens, one after another. -/
theorem spells_flatMap {α : Type} {write : α → List Char} {spelled : α → List Token} {xs : List α}
    (each : ∀ x ∈ xs, Spells budget (write x) (spelled x) budget) (delimits : ∀ x ∈ xs, Delimits (write x)) :
    Spells budget (xs.flatMap write) (xs.flatMap spelled) budget ∧ Delimits (xs.flatMap write) := by
  induction xs with
  | nil => exact ⟨spells_nil, fun more delimited => delimited⟩
  | cons x rest ih =>
    obtain ⟨spells, delimits'⟩ := ih (fun y hy => each y (List.mem_cons_of_mem _ hy))
      fun y hy => delimits y (List.mem_cons_of_mem _ hy)
    rw [List.flatMap_cons, List.flatMap_cons]
    refine ⟨(each x List.mem_cons_self).append spells delimits', fun more delimited => ?_⟩
    rw [List.append_assoc]
    exact delimits x List.mem_cons_self _ (delimits' more delimited)

/-- A text that spells tokens is scanned to them. -/
theorem words_scan_of_spells {text : String} (h : Spells bracketBudget text.toList tokens bracketBudget) :
    words (scan text).1 = tokens := by
  have scans := h [] [] bracketBudget delimited_nil (.done rfl)
  rw [List.append_nil, List.append_nil] at scans
  exact (scans_iff.1 ⟨_, scans⟩).1

end Combining

/-! ## Blanks, punctuators and names -/

section Single

variable {budget budget' : Nat}

/-- A blank goes before a text without being one of its tokens. -/
theorem Scans.blank {c : Char} (h : c = ' ' ∨ c = ',' ∨ c = '\n') {text : List Char} {tokens : List Token}
    (scans : Scans budget text tokens budget') : Scans budget (c :: text) tokens budget' := by
  have skipped : unblank false (c :: text) = unblank false text := by
    rw [unblank_cons]
    rcases h with rfl | rfl | rfl <;> rfl
  cases scans with
  | done blank => exact .done (skipped.trans blank)
  | token starts spent first good others => exact .token (skipped.trans starts) spent first good others

theorem Spells.blank {c : Char} (blank : c = ' ' ∨ c = ',' ∨ c = '\n') {text : List Char} {tokens : List Token}
    (h : Spells budget text tokens budget') : Spells budget (c :: text) tokens budget' :=
  fun more others last delimited scans => (h more others last delimited scans).blank blank

/-- The characters that are skipped before a token. -/
def blanks : List Char := ['\ufeff', '\r', '\t', '\n', ' ', ',', '#']

theorem unblank_of_not_mem {c : Char} (h : c ∉ blanks) (rest : List Char) :
    unblank false (c :: rest) = c :: rest := by
  simp only [blanks, List.mem_cons, List.not_mem_nil, or_false, not_or] at h
  rw [unblank_cons]
  simp [h]

/-- A punctuator needs no delimiter. -/
theorem Scans.punctuator {budget'' : Nat} {c : Char} {text : List Char} {tokens : List Token}
    (known : isPunctuator c = true) (spent : spend budget c = some budget')
    (scans : Scans budget' text tokens budget'') : Scans budget (c :: text) (.punctuator c :: tokens) budget'' := by
  have visible : ∀ d ∈ "()[]\x7b\x7d!$:=@|&".toList, d ∉ blanks := List.all_iff_forall_prop.1 (by decide)
  exact .token (unblank_of_not_mem (visible c (List.contains_iff_mem.1 known)) _) spent (.punctuator _ known)
    (by simp) scans

theorem Spells.punctuator {budget'' : Nat} {c : Char} {text : List Char} {tokens : List Token}
    (known : isPunctuator c = true) (spent : spend budget c = some budget')
    (h : Spells budget' text tokens budget'') : Spells budget (c :: text) (.punctuator c :: tokens) budget'' :=
  fun more others last delimited scans => (h more others last delimited scans).punctuator known spent

/-- A name is scanned as far as its spelling goes. -/
theorem spells_name {s : String} (h : IsName s) : Spells budget s.toList [.name s] budget := by
  obtain ⟨c, rest, spelled, start, all⟩ := h
  intro more others last delimited scans
  have visible : c ∉ blanks := fun blank => by
    have invisible : ∀ d ∈ blanks, isNameStart d = false := List.all_iff_forall_prop.1 (by decide)
    simp [invisible c blank] at start
  have whole : (rest ++ more).takeWhile isNameRest = rest ∧ (rest ++ more).dropWhile isNameRest = more := by
    rw [List.takeWhile_append_of_pos all, List.dropWhile_append_of_pos all]
    cases more with
    | nil => simp
    | cons d more => simp [(delimited d rfl).1]
  have first := Lexeme.name (rest ++ more) start
  rw [whole.1, whole.2, ← spelled, String.ofList_toList] at first
  rw [spelled]
  exact .token (unblank_of_not_mem visible _) (spend_of_isPunctuator (isPunctuator_of_isNameStart start) _) first
    (by simp) scans

end Single

/-! ## Strings -/

/-- Whether a character is one that controls. -/
def isControl (c : Char) : Bool := c.toNat < 0x20 || (0x7F ≤ c.toNat && c.toNat < 0xA0)

/-- A character of a string as it is spelled. -/
def spellChar (c : Char) : List Char :=
  if c = '"' || c = '\\' then ['\\', c]
  else if isControl c then '\\' :: 'u' :: Text.hexDigits 4 c.toNat
  else [c]

/-- A string as it is spelled. -/
def spellString (s : String) : List Char := '"' :: s.toList.flatMap spellChar ++ ['"']

theorem toNat_control {c : Char} (h : isControl c = true) : c.toNat < 0xA0 := by
  simp only [isControl, Bool.or_eq_true, Bool.and_eq_true, decide_eq_true_eq] at h
  omega

/-- The number of a control character has four digits, which stand for it. -/
theorem hexDigits_control {c : Char} (h : isControl c = true) :
    ∃ d₁ d₂ d₃ d₄, Text.hexDigits 4 c.toNat = [d₁, d₂, d₃, d₄] ∧ codeOf? [d₁, d₂, d₃, d₄] = some c.toNat ∧
      ∀ d ∈ [d₁, d₂, d₃, d₄], d ≠ '\n' ∧ d ≠ '"' ∧ d ≠ '\\' := by
  have small := toNat_control h
  obtain ⟨d₁, d₂, d₃, d₄, digits, value, lower⟩ := Text.exists_four_digits (by omega : c.toNat < 0x10000)
  obtain ⟨plus, line, quote, slash⟩ : '+' ∉ Text.hexAlphabet ∧ '\n' ∉ Text.hexAlphabet ∧ '"' ∉ Text.hexAlphabet ∧
    '\\' ∉ Text.hexAlphabet := by decide
  have others {d x : Char} (hd : d ∈ [d₁, d₂, d₃, d₄]) (hx : x ∉ Text.hexAlphabet) : d ≠ x :=
    fun same => hx (same ▸ lower d hd)
  refine ⟨d₁, d₂, d₃, d₄, digits, ?_, fun d hd => ⟨others hd line, others hd quote, others hd slash⟩⟩
  -- A code has no plus sign before it, so it is read as it stands.
  have unsigned : d₁ ≠ '+' := others List.mem_cons_self plus
  simpa [codeOf?, unsigned] using value

/-- A character that is not the one that ends a string, and not escaped, is passed. -/
theorem stringSpan_cons {c : Char} (line : c ≠ '\n') (quote : c ≠ '"') (escaped : Bool) (text : List Char) :
    stringSpan escaped (c :: text) =
      (stringSpan (c = '\\' && !escaped) text).map fun (body, after) => (c :: body, after) := by
  rw [stringSpan, if_neg line, if_neg (by simp [quote])]

theorem stringSpan_spellChar (c : Char) (text : List Char) :
    stringSpan false (spellChar c ++ text) =
      (stringSpan false text).map fun (body, after) => (spellChar c ++ body, after) := by
  unfold spellChar
  split
  · next special =>
    rw [List.cons_append, stringSpan_cons (by decide) (by decide)]
    -- Behind a backslash a character is passed over, be it a quote.
    have passed : stringSpan true (c :: text) =
        (stringSpan false text).map fun (body, after) => (c :: body, after) := by
      rw [stringSpan, if_neg, if_neg] <;> simp_all
      rintro rfl
      simp at special
    simp [passed, Function.comp_def]
  next plain =>
  split
  · next control =>
    obtain ⟨d₁, d₂, d₃, d₄, digits, -, others⟩ := hexDigits_control control
    simp only [List.mem_cons, List.not_mem_nil, or_false, forall_eq_or_imp, forall_eq] at others
    obtain ⟨⟨l₁, q₁, b₁⟩, ⟨l₂, q₂, b₂⟩, ⟨l₃, q₃, b₃⟩, l₄, q₄, b₄⟩ := others
    simp [digits, stringSpan_cons, l₁, q₁, b₁, l₂, q₂, b₂, l₃, q₃, b₃, l₄, q₄, b₄, Function.comp_def]
  · next visible =>
    have line : c ≠ '\n' := by
      rintro rfl
      exact visible (by decide)
    simp only [Bool.or_eq_true, decide_eq_true_eq, not_or] at plain
    simp [stringSpan_cons line plain.1, plain.2]

theorem unescape_spellChar (c : Char) (text : List Char) :
    unescape (spellChar c ++ text) = (unescape text).map (c :: ·) := by
  unfold spellChar
  split
  · next special =>
    simp only [Bool.or_eq_true, decide_eq_true_eq] at special
    rcases special with rfl | rfl <;> rfl
  next plain =>
  split
  · next control =>
    obtain ⟨d₁, d₂, d₃, d₄, digits, code, -⟩ := hexDigits_control control
    rw [digits]
    show unescape ('\\' :: 'u' :: d₁ :: d₂ :: d₃ :: d₄ :: text) = _
    have small : c.toNat < 0xA0 := toNat_control control
    rw [unescape, code]
    show (if 0xD800 ≤ c.toNat ∧ c.toNat ≤ 0xDFFF then none else (unescape text).map (Char.ofNat c.toNat :: ·)) = _
    rw [if_neg (by omega), Char.ofNat_toNat]
  · next visible =>
    simp only [Bool.or_eq_true, decide_eq_true_eq, not_or] at plain
    rw [List.cons_append, List.nil_append, unescape]
    all_goals grind

/-- What a string is spelled as is scanned as the string, with nothing left out or changed. -/
theorem spells_string (budget : Nat) (s : String) : Spells budget (spellString s) [.string s] budget := by
  intro more others last delimited scans
  have span (chars : List Char) :
      stringSpan false (chars.flatMap spellChar ++ '"' :: more) = some (chars.flatMap spellChar, more) := by
    induction chars with
    | nil => rfl
    | cons c rest ih =>
      rw [List.flatMap_cons, List.append_assoc, stringSpan_spellChar, ih]
      rfl
  have meant (chars : List Char) : unescape (chars.flatMap spellChar) = some chars := by
    induction chars with
    | nil => rfl
    | cons c rest ih =>
      rw [List.flatMap_cons, unescape_spellChar, ih]
      rfl
  -- Two quotation marks with nothing between them are no block string, as no third one follows.
  have single : ¬ ['"', '"'] <+: s.toList.flatMap spellChar ++ '"' :: more := by
    rintro ⟨rest, same⟩
    cases chars : s.toList with
    | nil =>
      rw [chars] at same
      cases same
      exact (delimited '"' rfl).2 rfl
    | cons c rest' =>
      rw [chars, List.flatMap_cons] at same
      unfold spellChar at same
      split at same
      · cases same
      next plain =>
      split at same
      · cases same
      · have quote : '"' = c := (List.cons.inj same).1
        simp [← quote] at plain
  have first := Lexeme.string single (span s.toList) (meant s.toList)
  rw [String.ofList_toList] at first
  have text : spellString s ++ more = '"' :: (s.toList.flatMap spellChar ++ '"' :: more) := by simp [spellString]
  rw [text]
  exact .token (unblank_of_not_mem (by decide) _) (spend_of_isPunctuator (by decide) _) first (by simp) scans

end Fixtures.Sdl
