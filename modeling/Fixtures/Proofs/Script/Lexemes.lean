import Fixtures.Script.Lexer

/-!
# The words of a text

Each step of reading goes on with an end of the text that it began with, and the words among the tokens that it
reads stand in that text. So every word of a script stands in its text.

## Shape of the proof

A `_suffix` lemma beside each reader says that what it leaves is an end of what it was given. `Step.Reads` says
both of a step, and `words_lexemesFrom` repeats it.
-/

namespace Fixtures.Script

/-- The word that a token is, if it is one. -/
def Token.word? : Token → Option String
  | name s | word s | reserved s => some s
  | _ => none

/-- A token that is no word, or one that stands in the text. -/
def Token.StandsIn (chars : List Char) (token : Token) : Prop := ∀ w ∈ token.word?, w.toList <:+: chars

theorem Token.StandsIn.mono {chars more : List Char} {token : Token} (h : token.StandsIn chars)
    (part : chars <:+: more) : token.StandsIn more := fun w hw => (h w hw).trans part

theorem Token.standsIn_of_none {chars : List Char} {token : Token} (h : token.word? = none) :
    token.StandsIn chars := by
  intro w hw
  rw [h] at hw
  cases hw

theorem Token.standsIn_ofMark {chars : List Char} {s : String} (h : s.toList <:+: chars) :
    (Token.ofMark s).StandsIn chars := by
  intro w hw
  unfold Token.ofMark at hw
  split at hw
  · split at hw
    · cases hw
    · cases hw
      exact h
  · cases hw

theorem Token.standsIn_ofWord {chars : List Char} {s : String} (h : s.toList <:+: chars) :
    (Token.ofWord s).StandsIn chars := by
  intro w hw
  unfold Token.ofWord at hw
  repeat' split at hw
  all_goals cases hw
  all_goals exact h

namespace Lexer

/-! ## What is left -/

theorem skipLine_suffix (p : Place) (chars : List Char) : (skipLine p chars).2 <:+ chars := by
  fun_induction skipLine p chars with
  | case1 => exact List.suffix_rfl
  | case2 p rest => exact (List.suffix_cons _ rest).trans (List.suffix_cons _ _)
  | case3 p rest => exact List.suffix_cons _ rest
  | case4 p rest => exact List.suffix_cons _ rest
  | case5 p c rest _ _ _ ih => exact ih.trans (List.suffix_cons _ rest)

theorem skipBlock_suffix (level : Nat) (p : Place) (chars : List Char) :
    (skipBlock level p chars).2 <:+ chars := by
  have two (c d : Char) (rest : List Char) : rest <:+ c :: d :: rest :=
    (List.suffix_cons _ rest).trans (List.suffix_cons _ _)
  fun_induction skipBlock level p chars with
  | case1 => exact List.suffix_rfl
  | case2 level p rest ih => exact ih.trans (two _ _ rest)
  | case3 level p rest _ => exact two _ _ rest
  | case4 level p rest _ ih => exact ih.trans (two _ _ rest)
  | case5 level p rest ih => exact ih.trans (List.suffix_cons _ rest)
  | case6 level p c rest _ _ _ ih => exact ih.trans (List.suffix_cons _ rest)

theorem numeralTail_suffix (point exponent : Bool) (text : List Char) (count : Nat) (chars : List Char) :
    (numeralTail point exponent text count chars).2.2 <:+ chars := by
  fun_induction numeralTail point exponent text count chars
  all_goals simp_all [List.suffix_cons_iff]

theorem number_suffix (negative : Bool) (c : Char) (chars : List Char) :
    (number negative c chars).2.2 <:+ chars := by
  unfold number
  dsimp only
  split
  · next letter base after based =>
    -- The digits of a base stand behind underscores and the letter of the base.
    have behind : after <:+ chars := by
      split at based
      · split at based
        · next l rest found =>
          obtain ⟨_, _, same⟩ := Option.map_eq_some_iff.mp based
          cases same
          exact (List.suffix_cons _ _).trans (found ▸ List.dropWhile_suffix _)
        · cases based
      · cases based
    exact (List.dropWhile_suffix _).trans behind
  · exact numeralTail_suffix _ _ _ _ _

/-- What of a text is left behind quoted text. -/
def TextEnd.left : TextEnd → List Char
  | closed _ _ rest | opened _ _ rest => rest
  | refused .. => []

theorem quoted_suffix (q : Quote) (start : Place) (e : Escape) (skip : Nat) (text : List Char) (p : Place)
    (chars : List Char) : (quoted q start e skip text p chars).left <:+ chars := by
  fun_induction quoted q start e skip text p chars
  all_goals first
    | exact List.nil_suffix
    | simp_all [List.suffix_cons_iff, TextEnd.left]

theorem dropBreak_suffix (p : Place) (chars : List Char) : (dropBreak p chars).2 <:+ chars := by
  unfold dropBreak
  split <;> simp [List.suffix_cons_iff]

theorem eq_append_of_dropMark? {mark chars rest : List Char} (h : dropMark? mark chars = some rest) :
    chars = mark ++ rest := by
  fun_induction dropMark? mark chars with
  | case1 => simpa using h
  | case2 m mark chars ih => rw [List.cons_append, ih h]
  | case3 => cases h
  | case4 => cases h

/-! ## Steps -/

/-- A step that reads on: it leaves an end of the text, and the words of its tokens stand in the text. -/
def Step.Reads (chars : List Char) : Step → Prop
  | .skipped scan => scan.rest <:+ chars
  | .read lexemes scan => (∀ l ∈ lexemes, l.token.StandsIn chars) ∧ scan.rest <:+ chars
  | .ended lexeme => lexeme.token.StandsIn chars

theorem reads_textStep {chars : List Char} {before : List Lexeme} (start : Place) (scan : Scan) {e : TextEnd}
    (hbefore : ∀ l ∈ before, l.token.StandsIn chars) (hleft : e.left <:+ chars) :
    (textStep before start scan e).Reads chars := by
  have wordless (token : Token) (place : Place) (h : token.word? = none) :
      ∀ l ∈ before ++ [⟨token, place⟩], l.token.StandsIn chars := by
    rw [List.forall_mem_append]
    exact ⟨hbefore, by simpa using Token.standsIn_of_none h⟩
  cases e with
  | closed text place rest => exact ⟨wordless _ _ rfl, hleft⟩
  | opened text place rest => exact ⟨wordless _ _ rfl, hleft⟩
  | refused complaint place => exact ⟨wordless _ _ rfl, List.nil_suffix⟩

theorem reads_markStep {chars : List Char} (scan : Scan) (start : Place) {s : String} {rest : List Char}
    (h : chars = s.toList ++ rest) : (markStep scan start s rest).Reads chars := by
  have left : rest <:+ chars := h ▸ List.suffix_append _ _
  have mark : ∀ l ∈ [Lexeme.mk (Token.ofMark s) start], l.token.StandsIn chars := by
    simpa using Token.standsIn_ofMark (h ▸ (List.prefix_append _ _).isInfix)
  unfold markStep
  dsimp only
  split
  · exact ⟨mark, left⟩
  · exact ⟨mark, left⟩
  · split
    · exact reads_textStep _ _ mark ((quoted_suffix _ _ _ _ _ _ _).trans left)
    · exact ⟨mark, left⟩
    · exact ⟨mark, left⟩
  · exact ⟨mark, left⟩

theorem word?_decimalToken (negative : Bool) (text : List Char) : (decimalToken negative text).word? = none := by
  unfold decimalToken
  dsimp only
  split
  · rfl
  · split <;> rfl

theorem word?_basedToken (negative : Bool) (letter : Char) (base : Nat) (digits : List Char) :
    (basedToken negative letter base digits).word? = none := by
  unfold basedToken
  split
  · rfl
  · split <;> rfl

theorem word?_number (negative : Bool) (c : Char) (chars : List Char) :
    (number negative c chars).1.word? = none := by
  unfold number
  dsimp only
  split
  · exact word?_basedToken _ _ _ _
  · exact word?_decimalToken _ _

theorem reads_numberStep {chars : List Char} (scan : Scan) (start digit : Place) (negative : Bool) (c : Char)
    {rest : List Char} (h : rest <:+ chars) : (numberStep scan start digit negative c rest).Reads chars := by
  exact ⟨List.forall_mem_singleton.mpr (Token.standsIn_of_none (word?_number _ _ _)), (number_suffix _ _ _).trans h⟩

theorem reads_step (scan : Scan) : (step scan).Reads scan.rest := by
  have wordless (token : Token) (h : token.word? = none) (start : Place) :
      ∀ l ∈ [Lexeme.mk token start], l.token.StandsIn scan.rest :=
    List.forall_mem_singleton.mpr (Token.standsIn_of_none h)
  unfold step
  split
  -- Behind each kind of lexeme the rest is a suffix of what was there, and only words have to stand in the text.
  · exact Token.standsIn_of_none rfl
  · next rest text =>
    rw [text]
    exact List.suffix_cons _ _
  · next rest text =>
    rw [text]
    exact (skipLine_suffix _ _).trans ((List.suffix_cons _ _).trans (List.suffix_cons _ _))
  · next rest text =>
    rw [text]
    exact (skipBlock_suffix _ _ _).trans ((List.suffix_cons _ _).trans (List.suffix_cons _ _))
  · next c rest _ _ _ text =>
    have left : rest <:+ scan.rest := text ▸ List.suffix_cons c rest
    dsimp only
    split
    · exact reads_numberStep _ _ _ _ _ left
    split
    · refine ⟨List.forall_mem_singleton.mpr (Token.standsIn_ofWord ?_), (List.dropWhile_suffix _).trans left⟩
      rw [String.toList_ofList, text]
      exact ((List.prefix_cons_inj c).mpr (List.takeWhile_prefix _)).isInfix
    split
    · exact reads_textStep _ _ (List.forall_mem_nil _) ((quoted_suffix _ _ _ _ _ _ _).trans left)
    split
    · exact reads_textStep _ _ (List.forall_mem_nil _)
        ((quoted_suffix _ _ _ _ _ _ _).trans ((dropBreak_suffix _ _).trans left))
    split
    · split
      · exact Token.standsIn_of_none rfl
      · split
        · next d place after closed =>
          have behind := quoted_suffix singleQuote scan.place.next .none 0 [] scan.place.next rest
          rw [closed] at behind
          exact ⟨wordless _ rfl _, behind.trans left⟩
        all_goals exact Token.standsIn_of_none rfl
    split
    · exact ⟨wordless _ rfl _, (List.drop_suffix _ _).trans left⟩
    split
    · exact left
    split
    -- A sign directly before a digit belongs to the number.
    · next d after signed =>
      refine reads_numberStep _ _ _ _ _ (List.IsSuffix.trans ?_ left)
      split at signed
      · split at signed
        · cases signed
          exact List.suffix_cons _ _
        · cases signed
      · cases signed
    · split
      · next s after found =>
        obtain ⟨mark, _, same⟩ := List.exists_of_findSome?_eq_some found
        obtain ⟨_, dropped, pair⟩ := Option.map_eq_some_iff.mp same
        cases pair
        exact reads_markStep _ _ (text.trans (eq_append_of_dropMark? dropped))
      · exact Token.standsIn_of_none rfl

/-- Reading on from an end of a text, after words of it. -/
theorem standsIn_lexemesFrom {chars : List Char} {fuel : Nat} {scan : Scan} {seen : List Lexeme}
    (hrest : scan.rest <:+ chars) (hseen : ∀ l ∈ seen, l.token.StandsIn chars) :
    ∀ l ∈ lexemesFrom fuel scan seen, l.token.StandsIn chars := by
  induction fuel generalizing scan seen with
  | zero =>
    simp only [lexemesFrom, List.mem_reverse, List.forall_mem_cons]
    exact ⟨Token.standsIn_of_none rfl, hseen⟩
  | succ fuel ih =>
    have reads := reads_step scan
    rw [lexemesFrom]
    cases hstep : step scan with
    | skipped next =>
      rw [hstep] at reads
      exact ih (reads.trans hrest) hseen
    | read lexemes next =>
      rw [hstep] at reads
      refine ih (reads.2.trans hrest) ?_
      rw [List.forall_mem_append]
      exact ⟨fun l hl => (reads.1 l (List.mem_reverse.mp hl)).mono hrest.isInfix, hseen⟩
    | ended lexeme =>
      rw [hstep] at reads
      simp only [List.mem_reverse, List.forall_mem_cons]
      exact ⟨reads.mono hrest.isInfix, hseen⟩

end Lexer

/-- Every word among the tokens of a script stands in its text. -/
theorem standsIn_lexemes (text : String) : ∀ l ∈ lexemes text, l.token.StandsIn text.toList :=
  Lexer.standsIn_lexemesFrom List.suffix_rfl (List.forall_mem_nil _)

end Fixtures.Script
