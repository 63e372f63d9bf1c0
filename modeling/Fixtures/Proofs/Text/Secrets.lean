import Mathlib.Data.List.Forall2

/-!
# Texts that differ in a secret

A connection string holds a password between `//`, the name of the user, a colon and an at sign. `Veiled` relates
two texts that differ at most in such a secret, for a user named `u`: what stands before the slash, what stands
behind the secret and the length of the secret are the same. `Twins` relates what is left of veiled texts at
any place.

A reader that passes no slash therefore stays before the secret or comes to where the texts are the same
(`Veiled.cases`). A reader that passes over the secret comes back to veiled texts at the first character that stands
neither in a secret nor before one (`Twins.cases`).
-/

namespace Fixtures.Text

/-- Two texts that begin with secrets of one length, and are the same behind them. Secrets are made of small
letters. -/
inductive Secret : List Char → List Char → Prop where
  | alike (text : List Char) : Secret text text
  | letter {c d : Char} {a b : List Char} : c.isLower → d.isLower → Secret a b → Secret (c :: a) (d :: b)

/-- Two texts that are the same but for a secret behind `/u:`. -/
inductive Veiled : List Char → List Char → Prop where
  | alike (text : List Char) : Veiled text text
  | mark {a b : List Char} : Secret a b → Veiled ('/' :: 'u' :: ':' :: a) ('/' :: 'u' :: ':' :: b)
  | cons (c : Char) {a b : List Char} : Veiled a b → Veiled (c :: a) (c :: b)

/-- What is left of two veiled texts behind as many characters of each. -/
inductive Twins : List Char → List Char → Prop where
  | veiled {a b : List Char} : Veiled a b → Twins a b
  | user {a b : List Char} : Secret a b → Twins ('u' :: ':' :: a) ('u' :: ':' :: b)
  | colon {a b : List Char} : Secret a b → Twins (':' :: a) (':' :: b)
  | secret {a b : List Char} : Secret a b → Twins a b

/-- The characters in a secret and in the mark before it. -/
def isGuarded (c : Char) : Bool := c.isLower || c = '/' || c = ':'

/-- The same character, or two letters of a secret. -/
def AlikeOrHidden (c d : Char) : Prop := c = d ∨ c.isLower ∧ d.isLower

/-- Texts of these two forms, one with each secret. -/
theorem Veiled.of_append {p q : List Char} (hp : ∀ c ∈ p, c.isLower) (hq : ∀ c ∈ q, c.isLower)
    (same : p.length = q.length) (before after : List Char) :
    Veiled (before ++ '/' :: 'u' :: ':' :: (p ++ after)) (before ++ '/' :: 'u' :: ':' :: (q ++ after)) := by
  have hidden : Secret (p ++ after) (q ++ after) := by
    induction p generalizing q with
    | nil =>
      rw [List.length_eq_zero_iff.1 same.symm]
      exact .alike after
    | cons c p ih =>
      obtain ⟨d, q, rfl⟩ := List.exists_cons_of_length_eq_add_one same.symm
      rw [List.forall_mem_cons] at hp hq
      exact .letter hp.1 hq.1 (ih hp.2 hq.2 (Nat.succ.inj same))
  induction before with
  | nil => exact .mark hidden
  | cons c before ih => exact .cons c ih

/-- A text with a connection string in it that holds a password. -/
def keyText (before password after : String) : String := before ++ "://u:" ++ password ++ "@h" ++ after

theorem keyText_toList (before password after : String) : (keyText before password after).toList =
    before.toList ++ ("://u:".toList ++ password.toList ++ "@h".toList) ++ after.toList := by
  simp only [keyText, String.toList_append, List.append_assoc]

/-- Key files with passwords of one length are the same but for the passwords. -/
theorem keyText_veiled {p q : String} (hp : ∀ c ∈ p.toList, c.isLower) (hq : ∀ c ∈ q.toList, c.isLower)
    (same : p.length = q.length) (before after : String) :
    Veiled (keyText before p after).toList (keyText before q after).toList := by
  have split (password : String) : (keyText before password after).toList =
      (before.toList ++ [':', '/']) ++ '/' :: 'u' :: ':' :: (password.toList ++ '@' :: 'h' :: after.toList) := by
    rw [keyText_toList]
    simp only [List.append_assoc]
    rfl
  rw [split, split]
  exact .of_append hp hq same _ _

/-! ## One character -/

/-- Of two veiled texts the first characters are the same; behind them the texts are veiled, unless the mark
begins here. -/
theorem Veiled.cases {a b : List Char} (h : Veiled a b) :
    (a = [] ∧ b = []) ∨ ∃ c a' b', a = c :: a' ∧ b = c :: b' ∧ Twins a' b' ∧ (c ≠ '/' → Veiled a' b') := by
  cases h with
  | alike =>
    cases a with
    | nil => exact .inl ⟨rfl, rfl⟩
    | cons c rest => exact .inr ⟨c, rest, rest, rfl, rfl, .veiled (.alike rest), fun _ => .alike rest⟩
  | mark hidden => exact .inr ⟨_, _, _, rfl, rfl, .user hidden, fun other => absurd rfl other⟩
  | cons c rest => exact .inr ⟨c, _, _, rfl, rfl, .veiled rest, fun _ => rest⟩

/-- Of two twin texts the first characters are the same, or both are hidden; and if the first is not guarded, the
texts are veiled. -/
theorem Twins.cases {a b : List Char} (h : Twins a b) :
    (a = [] ∧ b = []) ∨ ∃ c d a' b', a = c :: a' ∧ b = d :: b' ∧ Twins a' b' ∧ AlikeOrHidden c d ∧
      (isGuarded c = false → c = d ∧ Veiled a' b') := by
  have cons (c : Char) {a b : List Char} (rest : Twins a b) (guarded : isGuarded c = true) :
      (c :: a = [] ∧ c :: b = []) ∨ ∃ e d a' b', c :: a = e :: a' ∧ c :: b = d :: b' ∧ Twins a' b' ∧
        AlikeOrHidden e d ∧ (isGuarded e = false → e = d ∧ Veiled a' b') :=
    .inr ⟨c, c, a, b, rfl, rfl, rest, .inl rfl, fun free => absurd guarded (by simp [free])⟩
  have same {a b : List Char} (h : Veiled a b) :
      (a = [] ∧ b = []) ∨ ∃ c d a' b', a = c :: a' ∧ b = d :: b' ∧ Twins a' b' ∧ AlikeOrHidden c d ∧
        (isGuarded c = false → c = d ∧ Veiled a' b') := by
    refine h.cases.imp_right ?_
    rintro ⟨c, a', b', rfl, rfl, rest, veiled⟩
    refine ⟨c, c, a', b', rfl, rfl, rest, .inl rfl, fun free => ⟨rfl, veiled ?_⟩⟩
    rintro rfl
    exact absurd free (by decide)
  cases h with
  | veiled h => exact same h
  | user hidden => exact cons 'u' (.colon hidden) (by decide)
  | colon hidden => exact cons ':' (.secret hidden) (by decide)
  | secret hidden =>
    cases hidden with
    | alike => exact same (.alike a)
    | @letter c d a b hc hd rest =>
      refine .inr ⟨c, d, a, b, rfl, rfl, .secret rest, .inr ⟨hc, hd⟩, fun free => ?_⟩
      exact absurd free (by simp [isGuarded, hc])

theorem Veiled.twins {a b : List Char} (h : Veiled a b) : Twins a b := .veiled h

/-- Passing over characters other than the slash. -/
theorem Veiled.dropWhile {a b : List Char} (h : Veiled a b) {p : Char → Bool} (free : p '/' = false) :
    Veiled (a.dropWhile p) (b.dropWhile p) := by
  induction a generalizing b with
  | nil =>
    obtain ⟨-, rfl⟩ | ⟨_, _, _, first, -⟩ := h.cases
    · exact h
    · cases first
  | cons c a ih =>
    obtain ⟨empty, -⟩ | ⟨_, _, b, first, rfl, -, rest⟩ := h.cases
    · cases empty
    · cases first
      rw [List.dropWhile_cons, List.dropWhile_cons]
      split
      · next passed =>
        refine ih (rest ?_)
        rintro rfl
        exact absurd passed (by simp [free])
      · exact h

/-- The characters passed over are the same. -/
theorem Veiled.takeWhile_eq {a b : List Char} (h : Veiled a b) {p : Char → Bool} (free : p '/' = false) :
    a.takeWhile p = b.takeWhile p := by
  induction a generalizing b with
  | nil =>
    obtain ⟨-, rfl⟩ | ⟨_, _, _, first, -⟩ := h.cases
    · rfl
    · cases first
  | cons c a ih =>
    obtain ⟨empty, -⟩ | ⟨_, _, b, first, rfl, -, rest⟩ := h.cases
    · cases empty
    · cases first
      rw [List.takeWhile_cons, List.takeWhile_cons]
      split
      · next passed =>
        rw [ih (rest ?_)]
        rintro rfl
        exact absurd passed (by simp [free])
      · rfl

/-- The first characters of veiled texts: the mark is among them, or they are the same and the texts behind them are
veiled. -/
theorem Veiled.take_cases {a b : List Char} (h : Veiled a b) (n : Nat) :
    ('/' ∈ a.take n ∧ '/' ∈ b.take n) ∨ (a.take n = b.take n ∧ Veiled (a.drop n) (b.drop n)) := by
  induction n generalizing a b with
  | zero => exact .inr ⟨rfl, h⟩
  | succ n ih =>
    obtain ⟨rfl, rfl⟩ | ⟨c, a, b, rfl, rfl, -, rest⟩ := h.cases
    · exact .inr ⟨rfl, h⟩
    · by_cases slash : c = '/'
      · subst slash
        exact .inl ⟨List.mem_cons_self, List.mem_cons_self⟩
      · obtain ⟨ha, hb⟩ | ⟨same, rest⟩ := ih (rest slash)
        · exact .inl ⟨List.mem_cons_of_mem c ha, List.mem_cons_of_mem c hb⟩
        · exact .inr ⟨by rw [List.take_succ_cons, List.take_succ_cons, same], rest⟩

/-! ## What was read -/

/-- What was read of two texts, the last character first, and what is left: the same was read and the texts are
veiled, or the slash of the mark was passed. -/
def ReadAlike (read read' rest rest' : List Char) : Prop :=
  (read = read' ∧ Veiled rest rest') ∨ ('/' ∈ read ∧ '/' ∈ read' ∧ Twins rest rest')

theorem ReadAlike.twins {read read' a b : List Char} (h : ReadAlike read read' a b) : Twins a b := by
  rcases h with ⟨-, h⟩ | ⟨-, -, h⟩
  · exact h.twins
  · exact h

/-- One more character is read of each text. -/
theorem ReadAlike.cons {read read' a b : List Char} {c d : Char} (h : ReadAlike read read' (c :: a) (d :: b)) :
    ReadAlike (c :: read) (d :: read') a b := by
  rcases h with ⟨rfl, h⟩ | ⟨first, second, h⟩
  · obtain ⟨empty, -⟩ | ⟨_, _, _, e, e', twins, rest⟩ := h.cases
    · cases empty
    · cases e
      cases e'
      by_cases slash : c = '/'
      · subst slash
        exact .inr ⟨List.mem_cons_self, List.mem_cons_self, twins⟩
      · exact .inl ⟨rfl, rest slash⟩
  · obtain ⟨empty, -⟩ | ⟨_, _, _, _, e, e', twins, -⟩ := h.cases
    · cases empty
    · cases e
      cases e'
      exact .inr ⟨List.mem_cons_of_mem c first, List.mem_cons_of_mem d second, twins⟩

/-- The same character is read of veiled texts, wherever they begin. -/
theorem ReadAlike.push {read read' a b a' b' : List Char} (h : ReadAlike read read' a b) (c : Char)
    (rest : Veiled a' b') : ReadAlike (c :: read) (c :: read') a' b' := by
  rcases h with ⟨rfl, -⟩ | ⟨first, second, -⟩
  · exact .inl ⟨rfl, rest⟩
  · exact .inr ⟨List.mem_cons_of_mem c first, List.mem_cons_of_mem c second, rest.twins⟩

/-! ## Lengths and places -/

theorem Twins.forall₂ {a b : List Char} (h : Twins a b) : List.Forall₂ AlikeOrHidden a b := by
  induction a generalizing b with
  | nil =>
    obtain ⟨-, rfl⟩ | ⟨_, _, _, _, first, -⟩ := h.cases
    · exact .nil
    · cases first
  | cons c a ih =>
    obtain ⟨empty, -⟩ | ⟨_, d, _, b, first, rfl, rest, alike, -⟩ := h.cases
    · cases empty
    · cases first
      exact .cons alike (ih rest)

theorem Twins.length_eq {a b : List Char} (h : Twins a b) : a.length = b.length := h.forall₂.length_eq

theorem Veiled.length_eq {a b : List Char} (h : Veiled a b) : a.length = b.length := h.twins.length_eq

/-- The letters that secrets are made of. -/
theorem toNat_of_isLower {c : Char} (h : c.isLower) : 97 ≤ c.toNat ∧ c.toNat ≤ 122 := by
  obtain ⟨low, high⟩ := Bool.and_eq_true_iff.1 h
  exact ⟨of_decide_eq_true low, of_decide_eq_true high⟩

theorem AlikeOrHidden.utf8Size_eq {c d : Char} (h : AlikeOrHidden c d) : c.utf8Size = d.utf8Size := by
  have small {c : Char} (h : c.isLower) : c.utf8Size = 1 := by
    have : c.val ≤ 0x7f := Nat.le_trans (toNat_of_isLower h).2 (by decide)
    simp [Char.utf8Size, this]
  rcases h with rfl | ⟨hc, hd⟩
  · rfl
  · rw [small hc, small hd]

/-- A character outside of secrets is at the same places of both texts. -/
theorem AlikeOrHidden.eq_iff {c d e : Char} (h : AlikeOrHidden c d) (he : e.isLower = false) : c = e ↔ d = e := by
  rcases h with rfl | ⟨hc, hd⟩
  · rfl
  · refine iff_of_false ?_ ?_
    · rintro rfl
      simp [hc] at he
    · rintro rfl
      simp [hd] at he

/-- A character that is guarded in one of two texts is so in the other one. -/
theorem AlikeOrHidden.guarded {c d : Char} (h : AlikeOrHidden c d) (guarded : isGuarded c = true) :
    isGuarded d = true := by
  rcases h with rfl | ⟨-, hd⟩
  · exact guarded
  · simp [isGuarded, hd]

end Fixtures.Text
