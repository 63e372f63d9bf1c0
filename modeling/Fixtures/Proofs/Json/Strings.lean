import Fixtures.Proofs.Json.Outcomes

/-!
# Strings of two JSON texts

A secret of a text can only stand in a string. The readers of strings carry the texts through it: two strings that
were read are the same, or both hold the slash before the secret, and behind the quotation mark the texts are the
same again.
-/

namespace Fixtures.Json

open Text (Veiled Twins ReadAlike)

variable {a b : List Char}

/-! ## Escapes -/

theorem byteCount_eq (h : Twins a b) : byteCount a = byteCount b := by
  unfold byteCount
  generalize 0 = n
  have alike := h.forall₂
  clear h
  induction alike generalizing n with
  | nil => rfl
  | cons first _ ih =>
    rw [List.foldl_cons, List.foldl_cons, first.utf8Size_eq]
    exact ih _

/-- Four digits are read if there are four characters. -/
theorem fourHex_eq (rest : List Char) : fourHex rest =
    if 4 ≤ rest.length then
      match Text.readHex? (rest.take 4) with
      | some n => .ok (n, rest.drop 4)
      | none => .error (fault .invalidEscape rest 4)
    else if 4 ≤ byteCount rest then .error (fault .invalidEscape rest 4)
    else .error (fault .eofString [] 0) := by
  unfold fourHex
  split
  · rfl
  · next short =>
    have long : ¬ 4 ≤ rest.length := by
      intro long
      match rest, short, long with
      | a :: b :: c :: d :: after, short, _ => exact short a b c d after rfl
    rw [if_neg long]

theorem fourHex_alike (h : Veiled a b) : Same (fourHex a) (fourHex b) := by
  rw [fourHex_eq, fourHex_eq, h.length_eq, byteCount_eq h.twins]
  split
  · obtain ⟨ha, hb⟩ | ⟨same, rest⟩ := h.take_cases 4
    · rw [Text.readHex?, Text.readHex?, Text.readBase?_eq_none ha (by decide),
        Text.readBase?_eq_none hb (by decide)]
      exact fault_alike _ h 4
    · rw [same]
      split
      · exact ⟨rfl, rest⟩
      · exact fault_alike _ h 4
  · split
    · exact fault_alike _ h 4
    · exact fault_alike _ (.alike []) 0

theorem lowSurrogate_alike (high : Nat) (h : Veiled a b) : Same (lowSurrogate high a) (lowSurrogate high b) := by
  obtain ⟨rfl, rfl⟩ | ⟨c, a, b, rfl, rfl, -, rest⟩ := h.cases
  · exact fault_alike _ h 0
  · by_cases slash : c = '\\'
    · subst slash
      have rest := rest (by decide)
      obtain ⟨rfl, rfl⟩ | ⟨c, a, b, rfl, rfl, -, more⟩ := rest.cases
      · exact fault_alike _ rest 0
      · by_cases code : c = 'u'
        · subst code
          rw [lowSurrogate, lowSurrogate]
          obtain ⟨n, a, _, b, ha, hb, rfl, rest⟩ | ⟨f, g, ha, hb, fault⟩ := (fourHex_alike (more (by decide))).cases
          · rw [ha, hb]
            dsimp only
            split
            · exact ⟨rfl, rest⟩
            · exact fault_alike _ rest 0
          · rw [ha, hb]
            exact fault
        · simp only [lowSurrogate, List.cons.injEq, code, false_and, imp_self, implies_true]
          exact fault_alike _ rest 1
    · have eq (x : List Char) : lowSurrogate high (c :: x) = .error (fault .hexEscapeEnd (c :: x) 1) := by
        simp only [lowSurrogate, List.cons.injEq, slash, false_and, imp_self, implies_true]
      rw [eq, eq]
      exact fault_alike _ h 1

/-- The characters that may follow a backslash. -/
def escapeMarks : List Char := ['"', '\\', '/', 'b', 'f', 'n', 'r', 't', 'u']

theorem length_fourHex {rest after : List Char} {n : Nat} (h : fourHex rest = .ok (n, after)) :
    after.length ≤ rest.length := by
  rw [fourHex_eq] at h
  split at h
  · split at h
    · cases h
      rw [List.length_drop]
      exact Nat.sub_le _ 4
    · cases h
  · split at h <;> cases h

theorem length_lowSurrogate {high : Nat} {rest after : List Char} {c : Char}
    (h : lowSurrogate high rest = .ok (c, after)) : after.length ≤ rest.length := by
  unfold lowSurrogate at h
  split at h
  case h_3 =>
    split at h
    · cases h
    · next hex =>
      split at h
      · injection h with h
        injection h with _ h
        subst h
        exact Nat.le_trans (length_fourHex hex) (Nat.le_add_right _ 2)
      · cases h
  all_goals cases h

theorem length_escaped {rest after : List Char} {c : Char} (h : escaped rest = .ok (c, after)) :
    after.length ≤ rest.length := by
  unfold escaped at h
  split at h
  case h_1 | h_11 => cases h
  case h_10 =>
    split at h
    · cases h
    · next hex =>
      have short := Nat.le_trans (length_fourHex hex) (Nat.le_succ _)
      split at h
      · cases h
      · split at h
        · exact Nat.le_trans (length_lowSurrogate h) short
        · cases h
          exact short
  all_goals
    cases h
    exact Nat.le_succ _

/-- An escape stays before the secret, or it is the slash of its mark. -/
theorem escaped_alike (h : Veiled a b) : Same (escaped a) (escaped b) ∨
    ∃ a' b', escaped a = .ok ('/', a') ∧ escaped b = .ok ('/', b') ∧ Twins a' b' := by
  obtain ⟨rfl, rfl⟩ | ⟨c, a, b, rfl, rfl, twins, rest⟩ := h.cases
  · exact .inl (fault_alike _ h 0)
  · by_cases marked : c ∈ escapeMarks
    · simp only [escapeMarks, List.mem_cons, List.not_mem_nil, or_false] at marked
      rcases marked with rfl | rfl | rfl | rfl | rfl | rfl | rfl | rfl | rfl
      -- The secret begins behind a slash, so the text behind this mark alone may differ at once.
      case inr.inr.inl => exact .inr ⟨a, b, rfl, rfl, twins⟩
      -- A code has four digits, none of which is in the secret, and may need a second one.
      case inr.inr.inr.inr.inr.inr.inr.inr =>
        left
        rw [escaped, escaped]
        obtain ⟨n, a, _, b, ha, hb, rfl, rest⟩ | ⟨f, g, ha, hb, fault⟩ := (fourHex_alike (rest (by decide))).cases
        · rw [ha, hb]
          dsimp only
          split
          · exact fault_alike _ rest 0
          · split
            · exact lowSurrogate_alike n rest
            · exact ⟨rfl, rest⟩
        · rw [ha, hb]
          exact fault
      all_goals exact .inl ⟨rfl, rest (by decide)⟩
    · have eq (x : List Char) : escaped (c :: x) = .error (fault .invalidEscape (c :: x) 1) := by
        simp only [escapeMarks, List.mem_cons, List.not_mem_nil, or_false, not_or] at marked
        simp [escaped, marked]
      rw [eq, eq]
      exact .inl (fault_alike _ h 1)

theorem length_skipEscape {rest after : List Char} (h : skipEscape rest = .ok ((), after)) :
    after.length ≤ rest.length := by
  unfold skipEscape at h
  split at h
  · cases h
  · rcases hex : fourHex _ with f | ⟨n, left⟩ <;> rw [hex] at h <;> cases h
    exact Nat.le_trans (length_fourHex hex) (Nat.le_succ _)
  · split at h <;> cases h
    exact Nat.le_succ _

/-- An escape without a code is one character. -/
theorem skipEscape_cons {c : Char} (h : c ≠ 'u') (rest : List Char) :
    skipEscape (c :: rest) =
      if ['"', '\\', '/', 'b', 'f', 'n', 'r', 't'].contains c then .ok ((), rest)
      else .error (fault .invalidEscape (c :: rest) 1) := by
  rw [skipEscape]
  exact h

theorem skipEscape_alike (h : Veiled a b) : Alike Twins (· = ·) (skipEscape a) (skipEscape b) := by
  obtain ⟨rfl, rfl⟩ | ⟨c, a, b, rfl, rfl, twins, rest⟩ := h.cases
  · exact fault_alike _ h 0
  · by_cases code : c = 'u'
    · subst code
      rw [skipEscape, skipEscape]
      obtain ⟨n, a, _, b, ha, hb, rfl, rest⟩ | ⟨f, g, ha, hb, fault⟩ := (fourHex_alike (rest (by decide))).cases
      · rw [ha, hb]
        exact ⟨rfl, rest.twins⟩
      · rw [ha, hb]
        exact fault
    · rw [skipEscape_cons code, skipEscape_cons code]
      split
      · exact ⟨rfl, twins⟩
      · exact fault_alike _ h 1

/-! ## Strings -/

/-- Two strings that are the same, or both hold the slash of the mark before a secret. -/
def AlikeOrMarked (s t : String) : Prop := s = t ∨ '/' ∈ s.toList ∧ '/' ∈ t.toList

/-- Hidden letters end no string and begin no escape. -/
theorem plain_of_isLower {c : Char} (h : c.isLower) : c ≠ '"' ∧ c ≠ '\\' ∧ ¬ c.toNat < 0x20 := by
  refine ⟨?_, ?_, fun control => ?_⟩
  · rintro rfl
    exact absurd h (by decide)
  · rintro rfl
    exact absurd h (by decide)
  · have low := (Text.toNat_of_isLower h).1
    omega

theorem not_guarded_of_control {c : Char} (h : c.toNat < 0x20) : Text.isGuarded c = false := by
  rw [Bool.eq_false_iff]
  intro guarded
  simp only [Text.isGuarded, Bool.or_eq_true, decide_eq_true_eq] at guarded
  rcases guarded with (lower | rfl) | rfl
  · exact (plain_of_isLower lower).2.2 h
  · exact absurd h (by decide)
  · exact absurd h (by decide)

/-- Behind an escape the texts are read on as before it. -/
theorem escaped_readAlike {read read' : List Char} (h : ReadAlike read read' ('\\' :: a) ('\\' :: b)) :
    (∃ c a' b', escaped a = .ok (c, a') ∧ escaped b = .ok (c, b') ∧
      ReadAlike (c :: read) (c :: read') a' b') ∨
      ∃ f g, escaped a = .error f ∧ escaped b = .error g ∧ f.Alike g := by
  have rest : Veiled a b := by
    obtain ⟨empty, -⟩ | ⟨_, _, _, _, e, e', -, -, free⟩ := h.twins.cases
    · cases empty
    · cases e
      cases e'
      exact (free (by decide)).2
  rcases escaped_alike rest with same | ⟨a', b', ha, hb, twins⟩
  · obtain ⟨c, a', _, b', ha, hb, rfl, rest⟩ | fault := same.cases
    · exact .inl ⟨c, a', b', ha, hb, h.push c rest⟩
    · exact .inr fault
  · exact .inl ⟨'/', a', b', ha, hb, .inr ⟨List.mem_cons_self, List.mem_cons_self, twins⟩⟩

/-- A string is read through the secret, and ends before or behind it. -/
theorem stringChars_alike {fuel : Nat} {read read' : List Char} (enough : a.length < fuel)
    (h : ReadAlike read read' a b) :
    Alike Veiled AlikeOrMarked (stringChars fuel read a) (stringChars fuel read' b) := by
  induction fuel generalizing read read' a b with
  | zero => cases enough
  | succ fuel ih =>
    obtain ⟨rfl, rfl⟩ | ⟨c, d, a, b, rfl, rfl, twins, alike, free⟩ := h.twins.cases
    · exact fault_alike _ (.alike []) 0
    · rw [List.length_cons, Nat.add_lt_add_iff_right] at enough
      rw [stringChars, stringChars]
      -- The same character, or two hidden letters, which neither end the string nor begin an escape.
      rcases alike with rfl | ⟨hc, hd⟩
      · split
        · next quote =>
          subst quote
          refine ⟨?_, (free (by decide)).2⟩
          rcases h with ⟨rfl, -⟩ | ⟨first, second, -⟩
          · exact .inl rfl
          · exact .inr ⟨by simpa using first, by simpa using second⟩
        · split
          · next backslash =>
            subst backslash
            obtain ⟨e, a', b', ha, hb, rest⟩ | ⟨f, g, ha, hb, fault⟩ := escaped_readAlike h
            · rw [ha, hb]
              exact ih (Nat.lt_of_le_of_lt (length_escaped ha) enough) rest
            · rw [ha, hb]
              exact fault
          · split
            · next control =>
              exact fault_alike _ (.cons c (free (not_guarded_of_control control)).2) 1
            · exact ih enough h.cons
      · obtain ⟨hc₁, hc₂, hc₃⟩ := plain_of_isLower hc
        obtain ⟨hd₁, hd₂, hd₃⟩ := plain_of_isLower hd
        rw [if_neg hc₁, if_neg hc₂, if_neg hc₃, if_neg hd₁, if_neg hd₂, if_neg hd₃]
        exact ih enough h.cons

theorem stringBody_alike (h : Veiled a b) : Alike Veiled AlikeOrMarked (stringBody a) (stringBody b) := by
  unfold stringBody
  rw [← h.length_eq]
  exact stringChars_alike (Nat.lt_succ_self _) (.inl ⟨rfl, h⟩)

/-- A string is passed over through the secret. -/
theorem skipString_alike {fuel : Nat} (enough : a.length < fuel) (h : Twins a b) :
    Same (skipString fuel a) (skipString fuel b) := by
  induction fuel generalizing a b with
  | zero => cases enough
  | succ fuel ih =>
    obtain ⟨rfl, rfl⟩ | ⟨c, d, a, b, rfl, rfl, twins, alike, free⟩ := h.cases
    · exact fault_alike _ (.alike []) 0
    · rw [List.length_cons, Nat.add_lt_add_iff_right] at enough
      rw [skipString, skipString]
      rcases alike with rfl | ⟨hc, hd⟩
      · split
        · next quote =>
          subst quote
          exact ⟨rfl, (free (by decide)).2⟩
        · split
          · next backslash =>
            subst backslash
            obtain ⟨_, a', _, b', ha, hb, -, rest⟩ | ⟨f, g, ha, hb, fault⟩ :=
              (skipEscape_alike (free (by decide)).2).cases
            · rw [ha, hb]
              exact ih (Nat.lt_of_le_of_lt (length_skipEscape ha) enough) rest
            · rw [ha, hb]
              exact fault
          · split
            · next control => exact fault_alike _ (.cons c (free (not_guarded_of_control control)).2) 0
            · exact ih enough twins
      · obtain ⟨hc₁, hc₂, hc₃⟩ := plain_of_isLower hc
        obtain ⟨hd₁, hd₂, hd₃⟩ := plain_of_isLower hd
        rw [if_neg hc₁, if_neg hc₂, if_neg hc₃, if_neg hd₁, if_neg hd₂, if_neg hd₃]
        exact ih enough twins

theorem skipBody_alike (h : Veiled a b) : Same (skipString (a.length + 1) a) (skipString (b.length + 1) b) := by
  rw [← h.length_eq]
  exact skipString_alike (Nat.lt_succ_self _) h.twins

end Fixtures.Json
