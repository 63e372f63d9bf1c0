import Mathlib.Data.List.Infix
import Fixtures.Text.Split

/-!
# Putting texts together and cutting them again

A text that was put together around a delimiter is cut where it was put together, if the delimiter does not
stand on the side from which the cut is made: `cutFirst_append`, `cutLast_append`, `pieces_append`. A text that
was cut at every delimiter has pieces without any. A text is cut at the first occurrence of a word: `cutWord_eq`,
`not_infix_of_cutWord`.
-/

namespace Fixtures.Text

/-! ## One cut -/

/-- A text is cut at a delimiter before which there is no other. -/
theorem cutFirst_append {d : Char} {before : List Char} (h : d ∉ before) (after : List Char) :
    cutFirst d (before ++ d :: after) = some (before, after) := by
  induction before with
  | nil => simp [cutFirst]
  | cons c before ih =>
    simp only [List.mem_cons, not_or] at h
    have rest := ih h.2
    rw [List.cons_append, cutFirst, if_neg (Ne.symm h.1), rest]
    rfl

/-- A text is cut at a delimiter after which there is no other. -/
theorem cutLast_append {d : Char} (before : List Char) {after : List Char} (h : d ∉ after) :
    cutLast d (before ++ d :: after) = some (before, after) := by
  induction before with
  | nil =>
    have none_ := cutLast_eq_none.2 h
    simp [cutLast, none_]
  | cons c before ih => rw [List.cons_append, cutLast, ih]

/-! ## One cut at a word -/

theorem dropLead?_eq_some {lead text after : List Char} :
    dropLead? lead text = some after ↔ text = lead ++ after := by
  induction lead generalizing text with
  | nil => exact ⟨Option.some.inj, congrArg some⟩
  | cons l lead ih =>
    cases text with
    | nil => simp [dropLead?]
    | cons c text =>
      by_cases same : l = c
      · simp [dropLead?, same, ih]
      · simp [dropLead?, same, Ne.symm same]

theorem dropLead?_eq_none {lead text : List Char} : dropLead? lead text = none ↔ ¬ lead <+: text := by
  rw [Option.eq_none_iff_forall_not_mem]
  constructor
  · rintro none_ ⟨after, rfl⟩
    exact none_ after (dropLead?_eq_some.2 rfl)
  · intro apart after found
    exact apart ⟨after, (dropLead?_eq_some.1 found).symm⟩

theorem cutWord_eq {w text before after : List Char} (h : cutWord w text = some (before, after)) :
    text = before ++ w ++ after := by
  induction text generalizing before with
  | nil =>
    obtain ⟨rest, found, same⟩ := Option.map_eq_some_iff.1 h
    cases same
    exact dropLead?_eq_some.1 found
  | cons c text ih =>
    rw [cutWord] at h
    split at h
    · next found =>
      cases h
      exact dropLead?_eq_some.1 found
    · obtain ⟨⟨front, _⟩, found, same⟩ := Option.map_eq_some_iff.1 h
      cases same
      rw [ih found, List.cons_append, List.cons_append]

/-- The word does not occur before the place of the cut. -/
theorem not_infix_of_cutWord {w text before after : List Char} (some_ : w ≠ [])
    (h : cutWord w text = some (before, after)) : ¬ w <:+: before := by
  have notEmpty : ¬ w <:+: [] := fun inside => some_ (List.infix_nil.1 inside)
  induction text generalizing before with
  | nil =>
    obtain ⟨rest, -, same⟩ := Option.map_eq_some_iff.1 h
    cases same
    exact notEmpty
  | cons c text ih =>
    have whole := cutWord_eq h
    rw [cutWord] at h
    split at h
    · cases h
      exact notEmpty
    · next none_ =>
      obtain ⟨⟨front, _⟩, found, same⟩ := Option.map_eq_some_iff.1 h
      cases same
      rw [List.infix_cons_iff, not_or]
      refine ⟨fun first => dropLead?_eq_none.1 none_ ?_, ih found⟩
      rw [whole, List.append_assoc]
      exact first.trans (List.prefix_append _ _)

theorem cutWord_eq_none {w text : List Char} : cutWord w text = none ↔ ¬ w <:+: text := by
  induction text with
  | nil => rw [cutWord, Option.map_eq_none_iff, dropLead?_eq_none, List.prefix_nil, List.infix_nil]
  | cons c text ih =>
    rw [cutWord, List.infix_cons_iff, not_or, ← ih, ← dropLead?_eq_none]
    cases dropLead? w (c :: text) with
    | none => simp
    | some after => simp

/-! ## All cuts -/

/-- A text cut at a delimiter is cut on both sides of it. -/
theorem pieces_append (d : Char) (left right : List Char) :
    pieces d (left ++ d :: right) = pieces d left ++ pieces d right := by
  induction left with
  | nil => simp [pieces]
  | cons c left ih =>
    by_cases hc : c = d
    · simp [pieces, hc, ih]
    · obtain ⟨piece, others, hp⟩ := List.exists_cons_of_ne_nil (pieces_ne_nil d left)
      simp [pieces, hc, ih, hp]

theorem pieces_of_not_mem {d : Char} {text : List Char} (h : d ∉ text) : pieces d text = [text] := by
  induction text with
  | nil => rfl
  | cons c text ih =>
    simp only [List.mem_cons, not_or] at h
    simp [pieces, Ne.symm h.1, ih h.2]

theorem not_mem_of_mem_pieces {d : Char} {text piece : List Char} (h : piece ∈ pieces d text) :
    d ∉ piece := by
  induction text generalizing piece with
  | nil =>
    rw [pieces, List.mem_singleton] at h
    simp [h]
  | cons c text ih =>
    obtain ⟨first, others, hp⟩ := List.exists_cons_of_ne_nil (pieces_ne_nil d text)
    rw [hp] at ih
    by_cases hc : c = d
    · rw [pieces, if_pos hc, hp, List.mem_cons] at h
      rcases h with rfl | h
      · exact List.not_mem_nil
      · exact ih h
    · rw [pieces, if_neg hc, hp] at h
      rcases List.mem_cons.1 h with rfl | h
      · have inFirst := ih List.mem_cons_self
        simp [Ne.symm hc, inFirst]
      · exact ih (List.mem_cons_of_mem _ h)

theorem length_pieces (d : Char) (text : List Char) : (pieces d text).length = text.count d + 1 := by
  induction text with
  | nil => rfl
  | cons c text ih =>
    obtain ⟨first, others, hp⟩ := List.exists_cons_of_ne_nil (pieces_ne_nil d text)
    by_cases hc : c = d
    · rw [pieces, if_pos hc, List.length_cons, ih, hc, List.count_cons_self]
    · rw [hp] at ih
      rw [pieces, if_neg hc, hp, List.count_cons_of_ne hc, ← ih]
      rfl

/-- Of two texts one behind the other, the last piece of the first and the first piece of the second become one. -/
theorem pieces_append_eq (d : Char) (left right : List Char) :
    ∃ before last first after, pieces d left = before ++ [last] ∧ pieces d right = first :: after ∧
      pieces d (left ++ right) = before ++ (last ++ first) :: after := by
  induction left with
  | nil =>
    obtain ⟨first, after, whole⟩ := List.exists_cons_of_ne_nil (pieces_ne_nil d right)
    exact ⟨[], [], first, after, rfl, whole, whole⟩
  | cons c left ih =>
    obtain ⟨before, last, first, after, short, whole, long⟩ := ih
    by_cases hc : c = d
    · refine ⟨[] :: before, last, first, after, ?_, whole, ?_⟩
      · rw [pieces, if_pos hc, short, List.cons_append]
      · rw [List.cons_append, pieces, if_pos hc, long, List.cons_append]
    · -- The character comes in front of the first piece, which may be the last one as well.
      cases before with
      | nil =>
        refine ⟨[], c :: last, first, after, ?_, whole, ?_⟩
        · rw [pieces, if_neg hc, short]
          rfl
        · rw [List.cons_append, pieces, if_neg hc, long]
          rfl
      | cons piece before =>
        refine ⟨(c :: piece) :: before, last, first, after, ?_, whole, ?_⟩
        · rw [pieces, if_neg hc, short]
          rfl
        · rw [List.cons_append, pieces, if_neg hc, long]
          rfl

/-- What is added to a text without a delimiter in it belongs to the last piece. -/
theorem pieces_append_of_not_mem {d : Char} (text : List Char) {more : List Char} (h : d ∉ more) :
    ∃ before last, pieces d text = before ++ [last] ∧ pieces d (text ++ more) = before ++ [last ++ more] := by
  obtain ⟨before, last, first, after, short, whole, long⟩ := pieces_append_eq d text more
  rw [pieces_of_not_mem h] at whole
  cases whole
  exact ⟨before, last, short, long⟩

/-- Around what holds no delimiter, the pieces of a text are the same whatever it is. -/
theorem pieces_around (d : Char) (before after : List Char) :
    ∃ left last first right, left.length = before.count d ∧ ∀ more, d ∉ more →
      pieces d (before ++ more ++ after) = left ++ (last ++ more ++ first) :: right := by
  obtain ⟨left, last, hl⟩ := (pieces d before).eq_nil_or_concat.resolve_left (pieces_ne_nil d before)
  rw [List.concat_eq_append] at hl
  obtain ⟨first, right, hr⟩ := List.exists_cons_of_ne_nil (pieces_ne_nil d after)
  have count : left.length + 1 = before.count d + 1 := by
    rw [← length_pieces, hl, List.length_append, List.length_singleton]
  refine ⟨left, last, first, right, Nat.succ.inj count, fun more free => ?_⟩
  obtain ⟨left', last', short, long⟩ := pieces_append_of_not_mem before free
  obtain ⟨left'', last'', first', right', short', hr', whole⟩ := pieces_append_eq d (before ++ more) after
  rw [hl] at short
  rw [long] at short'
  rw [hr] at hr'
  obtain ⟨rfl, e⟩ := List.append_inj' short rfl
  obtain ⟨rfl, e'⟩ := List.append_inj' short' rfl
  cases e
  cases e'
  cases hr'
  exact whole

/-! ## Joining -/

theorem join_cons_cons (sep piece second : List Char) (others : List (List Char)) :
    join sep (piece :: second :: others) = piece ++ sep ++ join sep (second :: others) := rfl

/-- Texts joined in two groups are joined at the delimiter between the groups. -/
theorem join_append (sep : List Char) {left right : List (List Char)} (hl : left ≠ []) (hr : right ≠ []) :
    join sep (left ++ right) = join sep left ++ sep ++ join sep right := by
  induction left with
  | nil => exact absurd rfl hl
  | cons piece left ih =>
    cases left with
    | nil =>
      obtain ⟨first, others, rfl⟩ := List.exists_cons_of_ne_nil hr
      simp [join]
    | cons second left =>
      have more := ih (List.cons_ne_nil second left)
      rw [List.cons_append] at more ⊢
      rw [List.cons_append, join_cons_cons, join_cons_cons, more]
      simp only [List.append_assoc]

/-- A text in the middle may itself be two, the second of which is joined to those that follow. -/
theorem join_cut (sep : List Char) (before : List (List Char)) (left right : List Char)
    (after : List (List Char)) :
    join sep (before ++ (left ++ right) :: after) =
      join sep (before ++ [left]) ++ join sep (right :: after) := by
  have middle : join sep ((left ++ right) :: after) = left ++ join sep (right :: after) := by
    cases after with
    | nil => rfl
    | cons second after =>
      rw [join_cons_cons, join_cons_cons]
      simp only [List.append_assoc]
  by_cases first : before = []
  · rw [first, List.nil_append, middle, List.nil_append, join]
  · rw [join_append sep first (List.cons_ne_nil _ _), join_append sep first (List.cons_ne_nil _ _), middle, join]
    simp only [List.append_assoc]

theorem mem_join {c : Char} {text : List Char} (sep : List Char) {texts : List (List Char)} (h : text ∈ texts)
    (hc : c ∈ text) : c ∈ join sep texts := by
  induction texts with
  | nil => exact absurd h List.not_mem_nil
  | cons first texts ih =>
    cases texts with
    | nil =>
      cases List.mem_singleton.1 h
      exact hc
    | cons second texts =>
      rw [join_cons_cons, List.append_assoc, List.mem_append]
      rcases List.mem_cons.1 h with rfl | h
      · exact .inl hc
      · exact .inr (List.mem_append_right _ (ih h))

theorem not_mem_join {c : Char} {sep : List Char} {texts : List (List Char)} (hsep : c ∉ sep)
    (h : ∀ text ∈ texts, c ∉ text) : c ∉ join sep texts := by
  induction texts with
  | nil => exact List.not_mem_nil
  | cons text texts ih =>
    have inFirst := h text List.mem_cons_self
    cases texts with
    | nil => rwa [join]
    | cons second texts =>
      have later := ih fun other hother => h other (List.mem_cons_of_mem _ hother)
      rw [join_cons_cons]
      simp [inFirst, hsep, later]

/-- A delimiter between texts that do not hold it is where they are cut again. -/
theorem pieces_join {d : Char} {texts : List (List Char)} (some_ : texts ≠ []) (h : ∀ text ∈ texts, d ∉ text) :
    pieces d (join [d] texts) = texts := by
  induction texts with
  | nil => exact absurd rfl some_
  | cons text texts ih =>
    have first := pieces_of_not_mem (h text List.mem_cons_self)
    cases texts with
    | nil => exact first
    | cons second texts =>
      have later := ih (List.cons_ne_nil _ _) fun other hother => h other (List.mem_cons_of_mem _ hother)
      rw [join_cons_cons, List.append_assoc, List.singleton_append, pieces_append, first, later]
      rfl

/-- Cutting a text adds nothing to it. -/
theorem mem_of_mem_pieces {c d : Char} {text piece : List Char} (h : piece ∈ pieces d text) (hc : c ∈ piece) :
    c ∈ text := by
  rw [← join_pieces d text]
  exact mem_join [d] h hc

end Fixtures.Text
