import Fixtures.Proofs.Json.Strings

/-!
# Values passed over in two JSON texts

Keys, separators and values that no field takes. What stands at the place of a value of another shape is shown in
the fault, and is the same in both texts unless it is a string.
-/

namespace Fixtures.Json

open Text (Veiled)
open Data (Found)

variable {a b : List Char}

/-! ## Separators -/

/-- The first character behind white space. -/
theorem skip_cases (h : Veiled a b) : (skipSpace a = [] ∧ skipSpace b = []) ∨
    ∃ c a' b', skipSpace a = c :: a' ∧ skipSpace b = c :: b' ∧ Veiled (c :: a') (c :: b') ∧
      (c ≠ '/' → Veiled a' b') := by
  have skipped := skipSpace_veiled h
  refine skipped.cases.imp_right ?_
  rintro ⟨c, a', b', ha, hb, -, rest⟩
  exact ⟨c, a', b', ha, hb, by rwa [ha, hb] at skipped, rest⟩

theorem nextItem_alike (first : Bool) (h : Veiled a b) : Same (nextItem first a) (nextItem first b) := by
  unfold nextItem
  obtain ⟨ha, hb⟩ | ⟨c, a, b, ha, hb, whole, rest⟩ := skip_cases h <;> rw [ha, hb]
  · exact faultNext_alike _ (.alike [])
  · split
    · next e => cases e
    · next e =>
      cases e
      exact ⟨rfl, whole⟩
    · next e =>
      cases e
      simp only []
      split
      · exact ⟨rfl, whole⟩
      · split
        · next comma =>
          subst comma
          obtain ⟨ha, hb⟩ | ⟨c, a, b, ha, hb, whole, -⟩ := skip_cases (rest (by decide)) <;> rw [ha, hb]
          · exact faultNext_alike _ (.alike [])
          · split
            · next e => cases e
            · next e =>
              cases e
              exact faultNext_alike _ whole
            · next closing =>
              have closing : c ≠ ']' := by simpa using closing
              simp only [List.cons.injEq, closing, false_and, imp_self, implies_true]
              exact ⟨rfl, whole⟩
        · exact faultNext_alike _ whole

/-- The keys of two members, or none: they are the same, or hold the mark before a secret. -/
def KeysAlike : Option String → Option String → Prop
  | none, none => True
  | some k, some l => AlikeOrMarked k l
  | _, _ => False

theorem key_alike (h : Veiled a b) : Alike Veiled KeysAlike (nextKey.key a) (nextKey.key b) := by
  unfold nextKey.key
  obtain ⟨k, a', l, b', ha, hb, keys, rest⟩ | ⟨f, g, ha, hb, fault⟩ := (stringBody_alike h).cases <;> rw [ha, hb]
  · exact ⟨keys, rest⟩
  · exact fault

theorem nextKey_alike (first : Bool) (h : Veiled a b) : Alike Veiled KeysAlike (nextKey first a) (nextKey first b) := by
  unfold nextKey
  obtain ⟨ha, hb⟩ | ⟨c, a, b, ha, hb, whole, rest⟩ := skip_cases h <;> rw [ha, hb]
  · exact faultNext_alike _ (.alike [])
  · split
    · next e => cases e
    · next e =>
      cases e
      exact ⟨trivial, whole⟩
    · next e =>
      cases e
      simp only []
      split
      · split
        · next quote => exact key_alike (rest (by rw [quote]; decide))
        · exact faultNext_alike _ whole
      · split
        · next comma =>
          subst comma
          obtain ⟨ha, hb⟩ | ⟨c, a, b, ha, hb, whole, rest⟩ := skip_cases (rest (by decide)) <;> rw [ha, hb]
          · exact faultNext_alike _ (.alike [])
          · split
            · next e => cases e
            · next e =>
              cases e
              exact key_alike (rest (by decide))
            · next e =>
              cases e
              exact faultNext_alike _ whole
            · next quote closing =>
              have quote : c ≠ '"' := by simpa using quote
              have closing : c ≠ '\x7d' := by simpa using closing
              simp only [List.cons.injEq, quote, closing, false_and, imp_self, implies_true]
              exact faultNext_alike _ whole
        · exact faultNext_alike _ whole

theorem colon_alike (h : Veiled a b) : Same (colon a) (colon b) := by
  unfold colon
  obtain ⟨ha, hb⟩ | ⟨c, a, b, ha, hb, whole, rest⟩ := skip_cases h <;> rw [ha, hb]
  · exact faultNext_alike _ (.alike [])
  · split
    · next e => cases e
    · next e =>
      cases e
      exact ⟨rfl, rest (by decide)⟩
    · next colon =>
      have colon : c ≠ ':' := by simpa using colon
      simp only [List.cons.injEq, colon, false_and, imp_self, implies_true]
      exact faultNext_alike _ whole

/-- What stands behind a comma at the end of an array is refused alike. -/
theorem trailing_alike (h : Veiled a b) :
    Same
      (match skipSpace a with
        | ']' :: rest => .error (faultNext .trailingComma (']' :: rest))
        | rest => .error (faultNext .trailingCharacters rest) : Outcome Unit)
      (match skipSpace b with
        | ']' :: rest => .error (faultNext .trailingComma (']' :: rest))
        | rest => .error (faultNext .trailingCharacters rest)) := by
  obtain ⟨ha, hb⟩ | ⟨c, a, b, ha, hb, whole, -⟩ := skip_cases h <;> rw [ha, hb]
  · exact faultNext_alike _ (.alike [])
  · split
    · next e =>
      cases e
      exact faultNext_alike _ whole
    · next closing =>
      have closing : c ≠ ']' := by simpa using closing
      simp only [List.cons.injEq, closing, false_and, imp_self, implies_true]
      exact faultNext_alike _ whole

theorem arrayEnd_alike (h : Veiled a b) : Same (arrayEnd a) (arrayEnd b) := by
  unfold arrayEnd
  obtain ⟨ha, hb⟩ | ⟨c, a, b, ha, hb, whole, rest⟩ := skip_cases h <;> rw [ha, hb]
  · exact faultNext_alike _ (.alike [])
  · split
    · next e => cases e
    · next e =>
      cases e
      exact ⟨rfl, rest (by decide)⟩
    · next e =>
      cases e
      exact trailing_alike (rest (by decide))
    · next closing comma =>
      have closing : c ≠ ']' := by simpa using closing
      have comma : c ≠ ',' := by simpa using comma
      simp only [List.cons.injEq, closing, comma, false_and, imp_self, implies_true]
      exact faultNext_alike _ whole

theorem objectEnd_alike (h : Veiled a b) : Same (objectEnd a) (objectEnd b) := by
  unfold objectEnd
  obtain ⟨ha, hb⟩ | ⟨c, a, b, ha, hb, whole, rest⟩ := skip_cases h <;> rw [ha, hb]
  · exact faultNext_alike _ (.alike [])
  · split
    · next e => cases e
    · next e =>
      cases e
      exact ⟨rfl, rest (by decide)⟩
    · next e =>
      cases e
      exact faultNext_alike _ whole
    · next closing comma =>
      have closing : c ≠ '\x7d' := by simpa using closing
      have comma : c ≠ ',' := by simpa using comma
      simp only [List.cons.injEq, closing, comma, false_and, imp_self, implies_true]
      exact faultNext_alike _ whole

/-- A container is ended alike, whether its content was read or refused. -/
theorem close_alike {α : Type} {V : α → α → Prop} {end_ : List Char → Outcome Unit}
    (ends : ∀ {a b : List Char}, Veiled a b → Same (end_ a) (end_ b)) {x y : Outcome α} (h : Alike Veiled V x y) :
    Alike Veiled V (close end_ x) (close end_ y) := by
  obtain ⟨v, a, w, b, rfl, rfl, value, rest⟩ | ⟨f, g, rfl, rfl, fault⟩ := h.cases
  · rw [close, close]
    obtain ⟨_, a, _, b, ha, hb, -, rest⟩ | ⟨f, g, ha, hb, fault⟩ := (ends rest).cases <;> rw [ha, hb]
    · exact ⟨value, rest⟩
    · exact fault
  · rw [close, close]
    obtain ⟨_, a, _, b, ha, hb, -, rest⟩ | ⟨f', g', ha, hb, fault'⟩ := (ends fault.rest).cases <;> rw [ha, hb]
    · exact ⟨fault.cause, rest, fault.place⟩
    · exact ⟨fault.cause, fault'.rest, fault.place⟩

/-! ## Values of another shape -/

/-- What stands where no string stands is the same. -/
theorem found_alike (h : Veiled a b) (other : (skipSpace a).head? ≠ some '"') : Same (found a) (found b) := by
  unfold found
  obtain ⟨ha, hb⟩ | ⟨c, a', b', ha, hb, whole, rest⟩ := skip_cases h
  · rw [ha, hb]
    exact faultNext_alike _ (.alike [])
  · rw [ha] at other
    rw [ha, hb]
    split
    · next e => cases e
    · next e =>
      cases e
      exact (literal_alike (by decide) (rest (by decide))).map_eq
    · next e =>
      cases e
      exact (literal_alike (by decide) (rest (by decide))).map_eq
    · next e =>
      cases e
      exact (literal_alike (by decide) (rest (by decide))).map_eq
    · next e =>
      cases e
      exact absurd rfl other
    · next e =>
      cases e
      exact (number_alike true (rest (by decide))).map_eq
    · next e =>
      cases e
      exact ⟨rfl, whole⟩
    · next e =>
      cases e
      exact ⟨rfl, whole⟩
    · next e =>
      cases e
      simp only []
      split
      · exact (number_alike false whole).map_eq
      · exact faultNext_alike _ whole

theorem refuse_alike {α : Type} {V : α → α → Prop} (expected : String) (h : Veiled a b)
    (other : (skipSpace a).head? ≠ some '"') : Alike Veiled V (refuse expected a) (refuse expected b) := by
  unfold refuse
  obtain ⟨what, a', _, b', ha, hb, rfl, rest⟩ | ⟨f, g, ha, hb, fault⟩ := (found_alike h other).cases <;> rw [ha, hb]
  · exact (shapeFault_alike _ rest).settle
  · exact fault

/-! ## Values passed over -/

/-- What is passed over behind something is passed over alike. -/
theorem behind_alike {k l : List Char → Outcome Unit} (next : ∀ {a b : List Char}, Veiled a b → Same (k a) (l b))
    (x y : Outcome Unit) :
    Same x y → Same (match x with | .ok ((), rest) => k rest | .error f => .error f)
      (match y with | .ok ((), rest) => l rest | .error f => .error f) := by
  intro h
  obtain ⟨_, a, _, b, rfl, rfl, -, rest⟩ | ⟨f, g, rfl, rfl, fault⟩ := h.cases
  · exact next rest
  · exact fault

theorem skipKey_alike (h : Veiled a b) : Same (skipKey a) (skipKey b) := by
  unfold skipKey
  obtain ⟨ha, hb⟩ | ⟨c, a, b, ha, hb, whole, rest⟩ := skip_cases h <;> rw [ha, hb]
  · exact faultNext_alike _ (.alike [])
  · split
    · next e => cases e
    · next e =>
      cases e
      exact behind_alike colon_alike _ _ (skipBody_alike (rest (by decide)))
    · next quote =>
      have quote : c ≠ '"' := by simpa using quote
      simp only [List.cons.injEq, quote, false_and, imp_self, implies_true]
      exact faultNext_alike _ whole

section OneMore

variable {fuel : Nat} (passed : ∀ {a b : List Char} (next : Passing) (open_ : List Bool), Veiled a b →
  Same (skipNested fuel next open_ a) (skipNested fuel next open_ b))

include passed

/-- A value, whose first character says what it is. -/
theorem skipNested_value_alike (open_ : List Bool) (h : Veiled a b) :
    Same (skipNested (fuel + 1) .value open_ a) (skipNested (fuel + 1) .value open_ b) := by
  rw [skipNested, skipNested]
  obtain ⟨ha, hb⟩ | ⟨c, a, b, ha, hb, whole, rest⟩ := skip_cases h <;> rw [ha, hb]
  · exact faultNext_alike _ (.alike [])
  · split
    · next e => cases e
    · next e =>
      cases e
      exact behind_alike (passed _ _) _ _ (literal_alike (by decide) (rest (by decide)))
    · next e =>
      cases e
      exact behind_alike (passed _ _) _ _ (literal_alike (by decide) (rest (by decide)))
    · next e =>
      cases e
      exact behind_alike (passed _ _) _ _ (literal_alike (by decide) (rest (by decide)))
    · next e =>
      cases e
      exact behind_alike (passed _ _) _ _ (skipBody_alike (rest (by decide)))
    · next e =>
      cases e
      exact behind_alike (passed _ _) _ _ (skipNumber_alike (rest (by decide)))
    · next e =>
      cases e
      exact passed _ _ (rest (by decide))
    · next e =>
      cases e
      exact passed _ _ (rest (by decide))
    · next e =>
      cases e
      simp only []
      split
      · exact behind_alike (passed _ _) _ _ (skipNumber_alike whole)
      · exact faultNext_alike _ whole

/-- The next item of an array, or the next member of an object. -/
theorem skipNested_next_alike (isArray : Bool) (outer : List Bool) (h : Veiled a b) :
    Same
      (if isArray then skipNested fuel .value (isArray :: outer) a
      else
        match skipKey a with
        | .ok ((), rest) => skipNested fuel .value (isArray :: outer) rest
        | .error f => .error f)
      (if isArray then skipNested fuel .value (isArray :: outer) b
      else
        match skipKey b with
        | .ok ((), rest) => skipNested fuel .value (isArray :: outer) rest
        | .error f => .error f) := by
  split
  · exact passed _ _ h
  · exact behind_alike (passed _ _) _ _ (skipKey_alike h)

/-- What stands inside a container: a comma and what follows it, the end of the container, or its first content. -/
theorem skipNested_inside_alike (first : Bool) (open_ : List Bool) (h : Veiled a b) :
    Same (skipNested (fuel + 1) (.inside first) open_ a) (skipNested (fuel + 1) (.inside first) open_ b) := by
  cases open_ with
  | nil => exact ⟨rfl, h⟩
  | cons isArray outer =>
    rw [skipNested, skipNested]
    obtain ⟨ha, hb⟩ | ⟨c, a, b, ha, hb, whole, rest⟩ := skip_cases h <;> rw [ha, hb]
    · exact faultNext_alike _ (.alike [])
    · dsimp only
      -- Neither a comma nor the end of a container is the slash before a secret, so what is behind it is alike.
      split
      · next comma =>
        refine skipNested_next_alike passed _ _ (rest ?_)
        rintro rfl
        exact absurd comma (by simp)
      · by_cases closing : c = if isArray then ']' else '\x7d'
        · rw [if_pos closing, if_pos closing]
          refine passed _ _ (rest ?_)
          rintro rfl
          exact absurd closing (by cases isArray <;> decide)
        · rw [if_neg closing, if_neg closing]
          cases first with
          | true => exact skipNested_next_alike passed _ _ whole
          | false => exact faultNext_alike _ whole

end OneMore

/-- Whatever is done next, a value is passed over alike. -/
theorem skipNested_alike (fuel : Nat) (next : Passing) (open_ : List Bool) (h : Veiled a b) :
    Same (skipNested fuel next open_ a) (skipNested fuel next open_ b) := by
  induction fuel generalizing next open_ a b with
  | zero => exact faultNext_alike _ h
  | succ fuel ih =>
    cases next with
    | value => exact skipNested_value_alike ih open_ h
    | inside first => exact skipNested_inside_alike ih first open_ h

theorem skipValue_alike (h : Veiled a b) : Same (skipValue a) (skipValue b) := by
  unfold skipValue
  rw [h.length_eq]
  exact skipNested_alike _ _ _ h

end Fixtures.Json
