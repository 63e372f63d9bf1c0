import Fixtures.Proofs.Runs
import Fixtures.Proofs.Text.Secrets
import Fixtures.Toml.Statement
import Mathlib.Data.List.Infix

/-!
# Readings of two settings texts

Two texts that differ in a secret are read by one reader after another. `Alike` relates the outcomes: both
readings succeed, with related values, or both are refused in the same words at the same distance from the end.
The words around a reader keep outcomes alike, and so does one reader behind another (`Alike.andThen`).

A key that holds the secret is another key in the other text. `KeysUnmarked` excludes this: what could be read as a
key holds no slash. `Rests` relates what is left of the texts outside of strings, `Within` inside of them.
-/

namespace Fixtures.Toml

open Text (Veiled Twins AlikeOrHidden isGuarded)

/-! ## What is left of the texts -/

/-- Whether what follows tells that a key was read. -/
def EndsKey (rest : List Char) : Prop := ∃ c ∈ ['=', '.', ']'], rest.head? = some c

instance (rest : List Char) : Decidable (EndsKey rest) :=
  List.decidableBEx (fun c => rest.head? = some c) ['=', '.', ']']

/-- What could be read as a key at the beginning of a text holds no slash. -/
def KeyUnmarked (rest : List Char) : Prop :=
  ∀ key left, simpleKey rest = .ok (key, left) → EndsKey (skipBlanks left) → '/' ∉ key.name.toList

instance (rest : List Char) : Decidable (KeyUnmarked rest) :=
  match h : simpleKey rest with
  | .ok (key, left) => decidable_of_iff (EndsKey (skipBlanks left) → '/' ∉ key.name.toList) <| by
      simp only [KeyUnmarked, h, Except.ok.injEq, Prod.mk.injEq, and_imp, forall_eq', forall_apply_eq_imp_iff]
  | .error _ => .isTrue fun _ _ read => by simp [h] at read

/-- Nothing in a text that could be read as a key holds a slash. -/
def KeysUnmarked (text : List Char) : Prop := ∀ rest, rest <:+ text → KeyUnmarked rest

instance (text : List Char) : Decidable (KeysUnmarked text) :=
  decidable_of_iff (∀ rest ∈ text.tails, KeyUnmarked rest) (by simp only [KeysUnmarked, List.mem_tails])

/-- What is left of two texts outside of strings and comments. -/
structure Rests (a b : List Char) : Prop where
  veiled : Veiled a b
  keys : KeysUnmarked a

/-- What is left of two texts anywhere. -/
structure Within (a b : List Char) : Prop where
  twins : Twins a b
  keys : KeysUnmarked a

theorem KeysUnmarked.suffix {a b : List Char} (h : KeysUnmarked b) (part : a <:+ b) : KeysUnmarked a :=
  fun rest hrest => h rest (hrest.trans part)

variable {a b : List Char}

theorem Rests.within (h : Rests a b) : Within a b := ⟨h.veiled.twins, h.keys⟩

theorem Within.length_eq (h : Within a b) : a.length = b.length := h.twins.length_eq

theorem Rests.length_eq (h : Rests a b) : a.length = b.length := h.veiled.length_eq

theorem Rests.cases (h : Rests a b) :
    (a = [] ∧ b = []) ∨ ∃ c a' b', a = c :: a' ∧ b = c :: b' ∧ Within a' b' ∧ (c ≠ '/' → Rests a' b') := by
  refine h.veiled.cases.imp_right ?_
  rintro ⟨c, a', b', rfl, rfl, twins, rest⟩
  have keys := h.keys.suffix (List.suffix_cons c a')
  exact ⟨c, a', b', rfl, rfl, ⟨twins, keys⟩, fun other => ⟨rest other, keys⟩⟩

theorem Rests.behind {c : Char} (h : Rests (c :: a) (c :: b)) (other : c ≠ '/') : Rests a b := by
  obtain ⟨empty, -⟩ | ⟨d, a', b', e, e', -, rest⟩ := h.cases
  · cases empty
  · cases e
    cases e'
    exact rest other

theorem Within.cases (h : Within a b) :
    (a = [] ∧ b = []) ∨ ∃ c d a' b', a = c :: a' ∧ b = d :: b' ∧ Within a' b' ∧ AlikeOrHidden c d ∧
      (isGuarded c = false → c = d ∧ Rests a' b') := by
  refine h.twins.cases.imp_right ?_
  rintro ⟨c, d, a', b', rfl, rfl, twins, alike, free⟩
  have keys := h.keys.suffix (List.suffix_cons c a')
  exact ⟨c, d, a', b', rfl, rfl, ⟨twins, keys⟩, alike, fun other => ⟨(free other).1, (free other).2, keys⟩⟩

theorem Rests.dropWhile (h : Rests a b) {p : Char → Bool} (free : p '/' = false) :
    Rests (a.dropWhile p) (b.dropWhile p) := ⟨h.veiled.dropWhile free, h.keys.suffix (List.dropWhile_suffix p)⟩

theorem skipBlanks_rests (h : Rests a b) : Rests (skipBlanks a) (skipBlanks b) := h.dropWhile (by decide)

/-- The first characters of both texts: the mark is among them, or they are the same. -/
theorem Rests.take_cases (h : Rests a b) (n : Nat) :
    ('/' ∈ a.take n ∧ '/' ∈ b.take n) ∨ (a.take n = b.take n ∧ Rests (a.drop n) (b.drop n)) :=
  (h.veiled.take_cases n).imp_right fun both => ⟨both.1, both.2, h.keys.suffix (List.drop_suffix n a)⟩

/-! ## Outcomes that are alike -/

/-- Refusals in the same words, at places equally far from the end of the text. -/
structure Refusal.Alike (e f : Refusal) : Prop where
  length : e.rest.length = f.rest.length
  words : { e with rest := [] } = { f with rest := [] }

/-- Two outcomes that both succeed, with values and texts behind them that are related, or are refused alike. What is
left may tell more about the values. -/
def Alike {α β : Type} (R : List Char → List Char → Prop) (V : α → β → List Char → Prop) :
    Outcome α → Outcome β → Prop
  | .ok (v, a), .ok (w, b) => V v w a ∧ R a b
  | .error e, .error f => e.Alike f
  | _, _ => False

/-- Two outcomes with the same value, or alike refusals. -/
abbrev Same {α : Type} : Outcome α → Outcome α → Prop := Alike Rests fun v w _ => v = w

/-- Outcomes with any values, or alike refusals. -/
abbrev AlikeUpToValue {α β : Type} : Outcome α → Outcome β → Prop := Alike Rests fun _ _ _ => True

section Refusals

variable {e f : Refusal}

theorem Refusal.Alike.firm_eq (h : e.Alike f) : e.firm = f.firm := by
  have words := congrArg Refusal.firm h.words
  exact words

theorem soft_alike (h : a.length = b.length) : (Refusal.soft a).Alike (Refusal.soft b) := ⟨h, rfl⟩

theorem because_alike (cause : String) (h : a.length = b.length) :
    (Refusal.because cause a).Alike (Refusal.because cause b) := ⟨h, rfl⟩

theorem Refusal.Alike.settled (h : e.Alike f) : e.settled.Alike f.settled :=
  ⟨h.length, congrArg Refusal.settled h.words⟩

end Refusals

section Alike

variable {α β γ δ : Type} {R S : List Char → List Char → Prop} {V : α → β → List Char → Prop}
  {W : γ → δ → List Char → Prop} {x : Outcome α} {y : Outcome β}

theorem Alike.cases (h : Alike R V x y) :
    (∃ v a w b, x = .ok (v, a) ∧ y = .ok (w, b) ∧ V v w a ∧ R a b) ∨
      ∃ e f, x = .error e ∧ y = .error f ∧ e.Alike f := by
  rcases x with e | ⟨v, a⟩ <;> rcases y with f | ⟨w, b⟩
  · exact .inr ⟨e, f, rfl, rfl, h⟩
  · exact h.elim
  · exact h.elim
  · exact .inl ⟨v, a, w, b, rfl, rfl, h.1, h.2⟩

/-- The words of a refusal may change as long as its place stays. -/
theorem Alike.mapError (h : Alike R V x y) {f : Refusal → Refusal} (kept : ∀ e g : Refusal, e.Alike g → (f e).Alike (f g)) :
    Alike R V (x.mapError f) (y.mapError f) := by
  obtain ⟨v, a, w, b, rfl, rfl, value, rest⟩ | ⟨e, g, rfl, rfl, refusal⟩ := h.cases
  · exact ⟨value, rest⟩
  · exact kept e g refusal

theorem Alike.firmly (h : Alike R V x y) : Alike R V (firmly x) (firmly y) := h.mapError fun _ _ alike => alike.settled

theorem Alike.labelled (label : String) (h : Alike R V x y) : Alike R V (labelled label x) (labelled label y) :=
  h.mapError fun _ _ alike => ⟨alike.length, congrArg
    (fun e : Refusal => { e with label := e.label.or (some label) }) alike.words⟩

theorem Alike.expecting (what : String) (h : Alike R V x y) : Alike R V (expecting what x) (expecting what y) :=
  h.mapError fun _ _ alike => ⟨alike.length, congrArg
    (fun e : Refusal => { e with expected := e.expected ++ [what] }) alike.words⟩

theorem Alike.expectingMark (mark : String) (h : Alike R V x y) :
    Alike R V (expectingMark mark x) (expectingMark mark y) := h.expecting _

theorem Alike.expectingString (h : Alike R V x y) : Alike R V (expectingString x) (expectingString y) :=
  ((h.labelled _).expectingMark _).expectingMark _

/-- One reader behind another. -/
theorem Alike.andThen (h : Alike R V x y) {f : α → List Char → Outcome γ} {g : β → List Char → Outcome δ}
    (next : ∀ v a w b, x = .ok (v, a) → y = .ok (w, b) → V v w a → R a b → Alike S W (f v a) (g w b)) :
    Alike S W (andThen x f) (andThen y g) := by
  obtain ⟨v, a, w, b, rfl, rfl, value, rest⟩ | ⟨e, f, rfl, rfl, refusal⟩ := h.cases
  · exact next v a w b rfl rfl value rest
  · exact refusal

theorem Alike.map (h : Alike R V x y) {f : α → γ} {g : β → δ} (hf : ∀ v w a, V v w a → W (f v) (g w) a) :
    Alike R W (mapOutcome f x) (mapOutcome g y) :=
  h.andThen fun v a w _ _ _ value rest => ⟨hf v w a value, rest⟩

theorem Alike.map_eq {x y : Outcome α} (h : Alike R (fun v w _ => v = w) x y) (f : α → γ) :
    Alike R (fun v w _ => v = w) (mapOutcome f x) (mapOutcome f y) := h.map fun _ _ _ same => congrArg f same

theorem Alike.mono (h : Alike R V x y) {V' : α → β → List Char → Prop} (weaker : ∀ v w a, V v w a → V' v w a)
    (larger : ∀ a b, R a b → S a b) : Alike S V' x y := by
  obtain ⟨v, a, w, b, rfl, rfl, value, rest⟩ | ⟨e, f, rfl, rfl, refusal⟩ := h.cases
  · exact ⟨weaker v w a value, larger a b rest⟩
  · exact refusal

theorem Alike.any (h : Alike R V x y) : Alike R (fun _ _ _ => True) x y :=
  h.mono (fun _ _ _ _ => trivial) fun _ _ rest => rest

theorem Alike.ite {p : Prop} [Decidable p] {x' : Outcome α} {y' : Outcome β} (h : p → Alike R V x y)
    (h' : ¬p → Alike R V x' y') : Alike R V (if p then x else x') (if p then y else y') := by
  split
  · next yes => exact h yes
  · next no => exact h' no

theorem Alike.orElse (h : Alike R V x y) {other : Unit → Outcome α} {other' : Unit → Outcome β}
    (second : Alike R V (other ()) (other' ())) : Alike R V (orElse x other) (orElse y other') := by
  obtain ⟨v, a, w, b, rfl, rfl, value, rest⟩ | ⟨e, f, rfl, rfl, refusal⟩ := h.cases
  · exact ⟨value, rest⟩
  · rw [Toml.orElse, Toml.orElse, refusal.firm_eq]
    split
    · exact refusal
    · exact second

/-- What may be missing, from texts that are alike. -/
theorem Alike.optionally_of {read : List Char → Outcome α} {read' : List Char → Outcome β}
    (h : Alike Rests V (read a) (read' b)) (rest : Rests a b) {V' : Option α → Option β → List Char → Prop}
    (there : ∀ v w left, V v w left → V' (some v) (some w) left) (missing : ∀ left, V' none none left) :
    Alike Rests V' (optionally read a) (optionally read' b) := by
  unfold Toml.optionally
  obtain ⟨v, a', w, b', ha, hb, value, left⟩ | ⟨e, f, ha, hb, refusal⟩ := h.cases <;> rw [ha, hb]
  · exact ⟨there v w a' value, left⟩
  · dsimp only
    rw [refusal.firm_eq]
    split
    · exact refusal
    · exact ⟨missing a, rest⟩

theorem Alike.optionally {read read' : List Char → Outcome α} (h : Same (read a) (read' b)) (rest : Rests a b) :
    Same (optionally read a) (optionally read' b) :=
  h.optionally_of rest (fun _ _ _ same => congrArg some same) fun _ => rfl

end Alike

/-! ## Single characters and words -/

/-- A reader of one character that is no slash. -/
theorem one_alike {wanted : Char → Bool} (free : wanted '/' = false) (h : Rests a b) :
    Same (one wanted a) (one wanted b) := by
  obtain ⟨rfl, rfl⟩ | ⟨c, a, b, rfl, rfl, -, rest⟩ := h.cases
  · exact soft_alike rfl
  · rw [one, one]
    split
    · next took =>
      refine ⟨rfl, rest ?_⟩
      rintro rfl
      exact absurd took (by simp [free])
    · exact soft_alike h.length_eq

theorem mark_alike {c : Char} (other : c ≠ '/') (h : Rests a b) : Same (mark c a) (mark c b) :=
  one_alike (by simpa using other.symm) h

/-- A character that was taken stood first. -/
theorem eq_cons_of_mark {c v : Char} {left : List Char} (h : mark c a = .ok (v, left)) : a = c :: left := by
  cases a with
  | nil => cases h
  | cons d a =>
    rw [mark, one] at h
    split at h
    · next same =>
      cases h
      rw [of_decide_eq_true same]
    · cases h

theorem isPrefixOf_iff_take {word text : List Char} : word.isPrefixOf text = true ↔ text.take word.length = word := by
  rw [List.isPrefixOf_iff_prefix, List.prefix_iff_eq_take]
  exact eq_comm

theorem exactly_alike {text : List Char} (free : '/' ∉ text) (h : Rests a b) : Same (exactly text a) (exactly text b) := by
  have same : text.isPrefixOf a = text.isPrefixOf b ∧ (text.isPrefixOf a = true → Rests (a.drop text.length) (b.drop text.length)) := by
    obtain ⟨ha, hb⟩ | ⟨same, rest⟩ := h.take_cases text.length
    · have first : text.isPrefixOf a = false := by
        rw [Bool.eq_false_iff]
        intro found
        exact free (isPrefixOf_iff_take.1 found ▸ ha)
      have second : text.isPrefixOf b = false := by
        rw [Bool.eq_false_iff]
        intro found
        exact free (isPrefixOf_iff_take.1 found ▸ hb)
      exact ⟨first.trans second.symm, fun found => absurd found (by simp [first])⟩
    · refine ⟨?_, fun _ => rest⟩
      rw [Bool.eq_iff_iff, isPrefixOf_iff_take, isPrefixOf_iff_take, same]
  unfold exactly
  rw [← same.1]
  split
  · next found => exact ⟨rfl, same.2 found⟩
  · exact soft_alike h.length_eq

theorem word_alike (text : String) (free : '/' ∉ text.toList) (h : Rests a b) : Same (word text a) (word text b) :=
  exactly_alike free h

theorem newline_alike (h : Rests a b) : Same (newline a) (newline b) := by
  obtain ⟨rfl, rfl⟩ | ⟨c, a, b, rfl, rfl, -, rest⟩ := h.cases
  · exact soft_alike rfl
  · by_cases line : c = '\n'
    · subst line
      exact ⟨rfl, rest (by decide)⟩
    · by_cases back : c = '\r'
      · subst back
        have rest := rest (by decide)
        obtain ⟨rfl, rfl⟩ | ⟨c, a, b, rfl, rfl, -, more⟩ := rest.cases
        · exact soft_alike rfl
        · by_cases line : c = '\n'
          · subst line
            exact ⟨rfl, more (by decide)⟩
          · simp only [newline, List.cons.injEq, line, false_and, imp_self, implies_true]
            exact soft_alike rest.length_eq
      · have eq (x : List Char) : newline (c :: x) = .error (.soft (c :: x)) := by
          simp only [newline, List.cons.injEq, line, back, false_and, imp_self, implies_true]
        rw [eq, eq]
        exact soft_alike h.length_eq

end Fixtures.Toml
