import Fixtures.Proofs.Text.Cutting
import Fixtures.Proofs.Text.Secrets
import Fixtures.Toml.Decode

/-!
# Faults shown in two settings texts

A fault is shown with its place and with the line at that place. In texts that differ in a secret the places are the
same and so are the marks, and of the lines only the one with the secret differs. So what is shown differs exactly if
this line is shown (`render_eq_iff`).
-/

namespace Fixtures.Toml

open Text (AlikeOrHidden keyText pieces)

/-- The characters of two texts one after another. -/
abbrev Paired : List Char → List Char → Prop := List.Forall₂ AlikeOrHidden

variable {a b : List Char}

/-! ## Places -/

theorem bytes_cons (c : Char) (text : List Char) : bytes (c :: text) = c.utf8Size + bytes text := by
  rw [bytes, bytes, String.ofList_cons, String.utf8ByteSize_append, String.utf8ByteSize_singleton]

theorem bytes_eq (h : Paired a b) : bytes a = bytes b := by
  induction h with
  | nil => rfl
  | cons first _ ih => rw [bytes_cons, bytes_cons, first.utf8Size_eq, ih]

theorem count_eq (h : Paired a b) : a.count '\n' = b.count '\n' := by
  induction h with
  | nil => rfl
  | @cons c d _ _ first _ ih =>
    have same := first.eq_iff (e := '\n') (by decide)
    rw [List.count_cons, List.count_cons, ih]
    simp only [beq_iff_eq, same]

/-- What stands in the line before a place. -/
theorem takeWhile_paired (h : Paired a b) : Paired (a.takeWhile (· ≠ '\n')) (b.takeWhile (· ≠ '\n')) := by
  induction h with
  | nil => exact .nil
  | @cons c d _ _ first _ ih =>
    have same := first.eq_iff (e := '\n') (by decide)
    rw [List.takeWhile_cons, List.takeWhile_cons]
    by_cases ends : c = '\n'
    · simp only [ends, same.1 ends]
      exact .nil
    · have ends' : d ≠ '\n' := fun e => ends (same.2 e)
      simp only [ne_eq, ends, ends', not_false_iff, decide_true, if_true]
      exact .cons first ih

/-- Whether a character has several bytes. -/
def isWide (text : List Char) (index : Nat) : Bool :=
  match text[index]? with
  | some c => c.utf8Size ≠ 1
  | none => false

theorem isWide_eq (h : Paired a b) (index : Nat) : isWide a index = isWide b index := by
  induction h generalizing index with
  | nil => rfl
  | cons first _ ih =>
    cases index with
    | zero =>
      unfold isWide
      rw [List.getElem?_cons_zero, List.getElem?_cons_zero]
      dsimp only
      rw [first.utf8Size_eq]
    | succ index => exact ih index

theorem Position.of_line (text : List Char) (index : Nat) :
    (Position.of text index).line = (text.take (min index (text.length - 1))).count '\n' := rfl

theorem Position.of_content (text : List Char) (index : Nat) :
    (Position.of text index).content = ((pieces '\n' text)[(Position.of text index).line]?).getD [] := rfl

theorem line_eq (h : Paired a b) (index : Nat) : (Position.of a index).line = (Position.of b index).line := by
  rw [Position.of_line, Position.of_line, h.length_eq]
  exact count_eq (List.forall₂_take _ h)

theorem column_eq (h : Paired a b) (index : Nat) : (Position.of a index).column = (Position.of b index).column := by
  have line := takeWhile_paired (List.rel_reverse (List.forall₂_take (min index (b.length - 1)) h))
  show (if isWide a index then bytes _ else List.length _) + _ = (if isWide b index then bytes _ else List.length _) + _
  rw [isWide_eq h, h.length_eq, bytes_eq line, line.length_eq]

/-! ## Lines -/

theorem pieces_paired (h : Paired a b) : List.Forall₂ Paired (pieces '\n' a) (pieces '\n' b) := by
  induction h with
  | nil => exact .cons .nil .nil
  | @cons c d a b first _ ih =>
    have same := first.eq_iff (e := '\n') (by decide)
    by_cases ends : c = '\n'
    · rw [pieces, pieces, if_pos ends, if_pos (same.1 ends)]
      exact .cons .nil ih
    · obtain ⟨line, more, ha⟩ := List.exists_cons_of_ne_nil (Text.pieces_ne_nil '\n' a)
      obtain ⟨line', more', hb⟩ := List.exists_cons_of_ne_nil (Text.pieces_ne_nil '\n' b)
      rw [ha, hb, List.forall₂_cons] at ih
      rw [pieces, pieces, if_neg ends, if_neg fun e => ends (same.2 e), ha, hb]
      exact .cons (.cons first ih.1) ih.2

theorem content_paired (h : Paired a b) (index : Nat) :
    Paired (Position.of a index).content (Position.of b index).content := by
  have lines := pieces_paired h
  rw [Position.of_content, Position.of_content, line_eq h]
  generalize (Position.of b index).line = line
  generalize pieces '\n' a = x at lines ⊢
  generalize pieces '\n' b = y at lines ⊢
  induction lines generalizing line with
  | nil => exact .nil
  | cons first _ ih =>
    cases line with
    | zero => exact first
    | succ line => exact ih line

/-! ## What is shown -/

/-- Where a fault is shown. -/
def Fault.position (f : Fault) (text : String) : Position := .of text.toList (text.toList.length - f.span.first)

/-- How many characters of its line are marked. -/
def Fault.marks (f : Fault) (text : String) : Nat :=
  let index := text.toList.length - f.span.first
  min (bytes ((text.toList.drop index).take (f.span.first - f.span.last)))
    (bytes (f.position text).content - (f.position text).column)

/-- The space before the bar on the lines without a number. -/
def margin (line : Nat) : String :=
  String.ofList (List.replicate ((Text.natText (line + 1)).length + 1) ' ') ++ "|"

/-- What is shown before the line. -/
def above (line column : Nat) : String :=
  "TOML parse error at line " ++ Text.natText (line + 1) ++ ", column " ++ Text.natText (column + 1) ++ "\n" ++
    margin line ++ "\n" ++ Text.natText (line + 1) ++ " | "

/-- What is shown behind the line. -/
def Fault.below (f : Fault) (line column marks : Nat) : String :=
  "\n" ++ margin line ++ String.ofList (List.replicate (column + 1) ' ' ++ List.replicate (max marks 1) '^') ++ "\n" ++
    f.message ++ "\n"

theorem Fault.render_eq (f : Fault) (text : String) : f.render text =
    above (f.position text).line (f.position text).column ++ String.ofList (f.position text).content ++
      f.below (f.position text).line (f.position text).column (f.marks text) := by
  have place : Position.of text.toList (text.toList.length - f.span.first) = f.position text := rfl
  unfold Fault.render Fault.below Fault.marks above margin
  dsimp only
  rw [place]
  generalize f.position text = p
  simp only [String.append_assoc]

/-- A fault is shown alike in texts that differ in a secret if and only if the same line is shown. -/
theorem Fault.render_eq_iff_content (f : Fault) {t u : String} (h : Paired t.toList u.toList) :
    f.render t = f.render u ↔ (f.position t).content = (f.position u).content := by
  have length := h.length_eq
  have line : (f.position t).line = (f.position u).line := by
    rw [Fault.position, Fault.position, length]
    exact line_eq h _
  have column : (f.position t).column = (f.position u).column := by
    rw [Fault.position, Fault.position, length]
    exact column_eq h _
  have content : bytes (f.position t).content = bytes (f.position u).content := by
    rw [Fault.position, Fault.position, length]
    exact bytes_eq (content_paired h _)
  have marks : f.marks t = f.marks u := by
    unfold Fault.marks
    dsimp only
    rw [content, column, length]
    exact congrArg (min · _) (bytes_eq (List.forall₂_take _ (List.forall₂_drop _ h)))
  rw [f.render_eq, f.render_eq, line, column, marks, String.append_left_inj, String.append_right_inj]
  exact String.ofList_inj

/-- The line of a password is the only one that differs. -/
theorem content_eq_iff {p q : String} (hp : ∀ c ∈ p.toList, c.isLower) (hq : ∀ c ∈ q.toList, c.isLower)
    (same : p.length = q.length) (before after : String) (index : Nat) :
    (Position.of (keyText before p after).toList index).content =
        (Position.of (keyText before q after).toList index).content ↔
      ((Position.of (keyText before p after).toList index).line = before.toList.count '\n' → p = q) := by
  have paired := (Text.keyText_veiled hp hq same before after).twins.forall₂
  have free {password : String} (h : ∀ c ∈ password.toList, c.isLower) :
      '\n' ∉ "://u:".toList ++ password.toList ++ "@h".toList := by
    simp only [List.mem_append, not_or]
    exact ⟨⟨by decide, fun line => absurd (h _ line) (by decide)⟩, by decide⟩
  obtain ⟨left, last, first, right, count, lines⟩ := Text.pieces_around '\n' before.toList after.toList
  rw [Position.of_content, Position.of_content, ← line_eq paired, Text.keyText_toList, Text.keyText_toList,
    lines _ (free hp), lines _ (free hq), ← count]
  generalize (Position.of _ index).line = line
  rcases Nat.lt_trichotomy line left.length with before | rfl | behind
  · rw [List.getElem?_append_left before, List.getElem?_append_left before]
    exact iff_of_true rfl fun e => absurd e (Nat.ne_of_lt before)
  · rw [List.getElem?_append_right (Nat.le_refl _), List.getElem?_append_right (Nat.le_refl _), Nat.sub_self]
    simp only [List.getElem?_cons_zero, Option.getD_some, List.append_cancel_left_eq, List.append_cancel_right_eq,
      String.toList_inj, true_imp_iff]
  · rw [List.getElem?_append_right (Nat.le_of_lt behind), List.getElem?_append_right (Nat.le_of_lt behind)]
    obtain ⟨n, e⟩ := Nat.exists_eq_add_of_lt behind
    rw [e, show left.length + n + 1 - left.length = n + 1 by omega]
    exact iff_of_true rfl fun e => absurd e (by omega)

/-- A fault is shown alike with both passwords unless the line of the password is shown. -/
theorem Fault.render_eq_iff (f : Fault) {p q : String} (hp : ∀ c ∈ p.toList, c.isLower)
    (hq : ∀ c ∈ q.toList, c.isLower) (same : p.length = q.length) (before after : String) :
    f.render (keyText before p after) = f.render (keyText before q after) ↔
      ((f.position (keyText before p after)).line = before.toList.count '\n' → p = q) := by
  have veiled := Text.keyText_veiled hp hq same before after
  rw [f.render_eq_iff_content veiled.twins.forall₂, Fault.position, Fault.position, ← veiled.length_eq]
  exact content_eq_iff hp hq same before after _

end Fixtures.Toml
