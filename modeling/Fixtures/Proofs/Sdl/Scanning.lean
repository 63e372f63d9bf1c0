import Mathlib.Algebra.Ring.Int.Defs
import Mathlib.Data.Bool.AllAny
import Fixtures.Proofs.Sdl.Names

/-!
# How texts are scanned

What a text's tokens mean does not depend on the place where the text starts, nor on fuel: `Scans` is the
relation between a text, its tokens and the bracket budgets before and after them. `scans_of_scanFrom` and
`words_of_scans` say that the scanner computes it.

## Main results

* `Scans.join`: the tokens of two texts on lines of their own are those of the first and then those of the second.
* `Scans.budget_eq`: tokens change the budget by the brackets among them.
-/

namespace Fixtures.Sdl

/-- The tokens by themselves, without their places. -/
def words (tokens : List Placed) : List Token := tokens.map (·.token)

@[simp] theorem words_nil : words [] = [] := rfl

@[simp] theorem words_cons (placed : Placed) (rest : List Placed) :
    words (placed :: rest) = placed.token :: words rest := rfl

@[simp] theorem length_words (tokens : List Placed) : (words tokens).length = tokens.length := List.length_map _

/-! ## Between tokens -/

/-- What is left of a text behind blanks. -/
def unblank (comment : Bool) (text : List Char) : List Char := (skipBlank comment ⟨1, 1⟩ text).2

/-- What blanks are skipped does not depend on the place. -/
theorem skipBlank_snd (comment : Bool) (p q : Place) (text : List Char) :
    (skipBlank comment p text).2 = (skipBlank comment q text).2 := by
  induction text generalizing comment p q with
  | nil => rfl
  | cons c rest ih =>
    unfold skipBlank
    grind

theorem unblank_cons (comment : Bool) (c : Char) (rest : List Char) :
    unblank comment (c :: rest) =
      if comment then unblank (!(c = '\n' || c = '\r')) rest
      else if c = '\ufeff' || c = '\r' || c = '\t' || c = '\n' || c = ' ' || c = ',' then unblank false rest
      else if c = '#' then unblank true rest else c :: rest := by
  have anywhere (comment : Bool) (p : Place) : (skipBlank comment p rest).2 = unblank comment rest :=
    skipBlank_snd comment p _ rest
  rw [unblank, skipBlank]
  grind

/-- Blanks to the end of a line are skipped with it. -/
theorem unblank_append_newline {comment : Bool} {text : List Char} (h : unblank comment text = [])
    (more : List Char) : unblank comment (text ++ '\n' :: more) = unblank false more := by
  induction text generalizing comment with
  | nil => cases comment <;> rw [List.nil_append, unblank_cons] <;> simp
  | cons c rest ih =>
    rw [unblank_cons] at h
    rw [List.cons_append, unblank_cons]
    grind

theorem unblank_append {comment : Bool} {text rest : List Char} {c : Char} (h : unblank comment text = c :: rest)
    (more : List Char) : unblank comment (text ++ more) = c :: rest ++ more := by
  induction text generalizing comment with
  | nil => cases h
  | cons d text ih =>
    rw [unblank_cons] at h
    rw [List.cons_append, unblank_cons]
    grind

theorem length_unblank_le (comment : Bool) (text : List Char) : (unblank comment text).length ≤ text.length := by
  induction text generalizing comment with
  | nil => exact Nat.le_refl _
  | cons c rest ih =>
    have shorter := ih
    rw [unblank_cons]
    grind

/-! ## Spans -/

theorem takeWhile_append_cons {p : Char → Bool} {c : Char} (h : p c = false) (text more : List Char) :
    (text ++ c :: more).takeWhile p = text.takeWhile p ∧
      (text ++ c :: more).dropWhile p = text.dropWhile p ++ c :: more := by
  induction text with
  | nil => simp [h]
  | cons d rest ih =>
    rw [List.cons_append, List.takeWhile_cons, List.dropWhile_cons, List.takeWhile_cons, List.dropWhile_cons]
    split <;> simp [ih]

theorem stringSpan_append {escaped : Bool} {text body after : List Char}
    (h : stringSpan escaped text = some (body, after)) (more : List Char) :
    stringSpan escaped (text ++ more) = some (body, after ++ more) := by
  induction text generalizing escaped body after with
  | nil => cases h
  | cons c rest ih =>
    rw [stringSpan] at h
    rw [List.cons_append, stringSpan]
    split at h
    · cases h
    split at h
    · next newline ends =>
      cases h
      rw [if_neg newline, if_pos ends]
    · next newline ends =>
      obtain ⟨⟨body', after'⟩, span, made⟩ := Option.map_eq_some_iff.1 h
      cases made
      rw [if_neg newline, if_neg ends, ih span]
      rfl

theorem length_stringSpan_lt {escaped : Bool} {text body after : List Char}
    (h : stringSpan escaped text = some (body, after)) : after.length < text.length := by
  induction text generalizing escaped body after with
  | nil => cases h
  | cons c rest ih =>
    rw [stringSpan] at h
    split at h
    · cases h
    split at h
    · cases h
      exact Nat.lt_succ_self _
    · obtain ⟨⟨body', after'⟩, span, made⟩ := Option.map_eq_some_iff.1 h
      cases made
      exact Nat.lt_succ_of_lt (ih span)

/-- A block string ends where it did, if a line is added behind it. -/
theorem blockSpan_append {fuel fuel' : Nat} {previous : Char} {text body after : List Char}
    (h : blockSpan fuel previous text = some (body, after)) (enough : fuel ≤ fuel') (more : List Char) :
    blockSpan fuel' previous (text ++ '\n' :: more) = some (body, after ++ '\n' :: more) := by
  induction fuel generalizing fuel' previous text body after with
  | zero => cases h
  | succ fuel ih =>
    obtain ⟨fuel', rfl⟩ := Nat.exists_eq_add_of_le' (Nat.le_trans (Nat.le_add_left 1 fuel) enough)
    unfold blockSpan at h
    split at h
    · cases h
    · next rest =>
      show blockSpan (fuel' + 1) previous ('"' :: '"' :: '"' :: (rest ++ '\n' :: more)) = _
      rw [blockSpan]
      split at h
      · next escaped =>
        obtain ⟨⟨body', after'⟩, span, made⟩ := Option.map_eq_some_iff.1 h
        cases made
        rw [if_pos escaped, ih span (Nat.le_of_succ_le_succ enough)]
        rfl
      · next unescaped =>
        cases h
        rw [if_neg unescaped]
    · next c rest notTriple =>
      obtain ⟨⟨body', after'⟩, span, made⟩ := Option.map_eq_some_iff.1 h
      cases made
      rw [List.cons_append, blockSpan, ih span (Nat.le_of_succ_le_succ enough)]
      · rfl
      · -- With fewer than two characters left, the third one would be the end of the line.
        rintro rest' ⟨⟩ same
        match rest, same with
        | [], same => cases same
        | [_], same => cases same
        | _ :: _ :: _, same => cases same; exact notTriple _ rfl rfl

theorem length_blockSpan_lt {fuel : Nat} {previous : Char} {text body after : List Char}
    (h : blockSpan fuel previous text = some (body, after)) : after.length < text.length := by
  induction fuel generalizing previous text body after with
  | zero => cases h
  | succ fuel ih =>
    unfold blockSpan at h
    split at h
    · cases h
    · split at h
      · obtain ⟨⟨body', after'⟩, span, made⟩ := Option.map_eq_some_iff.1 h
        cases made
        have shorter := ih span
        simp only [List.length_cons]
        omega
      · cases h
        simp only [List.length_cons]
        omega
    · obtain ⟨⟨body', after'⟩, span, made⟩ := Option.map_eq_some_iff.1 h
      cases made
      exact Nat.lt_succ_of_lt (ih span)

/-! ## One token -/

/-- What a token at the start of a text means, and what is left of the text. -/
inductive Lexeme : List Char → Token → List Char → Prop
  | ellipsis (rest : List Char) : Lexeme ('.' :: '.' :: '.' :: rest) .ellipsis rest
  | block {rest body after : List Char} (span : blockSpan (rest.length + 1) ' ' rest = some (body, after)) :
    Lexeme ('"' :: '"' :: '"' :: rest) (.string (String.ofList (blockText body))) after
  | string {rest body after s : List Char} (single : ¬ ['"', '"'] <+: rest)
    (span : stringSpan false rest = some (body, after)) (meant : unescape body = some s) :
    Lexeme ('"' :: rest) (.string (String.ofList s)) after
  | punctuator {c : Char} (rest : List Char) (known : isPunctuator c) : Lexeme (c :: rest) (.punctuator c) rest
  | name {c : Char} (rest : List Char) (starts : isNameStart c) :
    Lexeme (c :: rest) (.name (String.ofList (c :: rest.takeWhile isNameRest))) (rest.dropWhile isNameRest)
  | number {c : Char} (rest : List Char) (starts : c = '-' ∨ Text.isDigit c)
    (good : numberToken (c :: rest.takeWhile (!endsNumber ·)) ≠ .bad) :
    Lexeme (c :: rest) (numberToken (c :: rest.takeWhile (!endsNumber ·))) (rest.dropWhile (!endsNumber ·))

/-- What is scanned is a token, unless it is bad. -/
theorem lexeme_of_scanToken {p : Place} {text : List Char} (h : (scanToken p text).token ≠ .bad) :
    Lexeme text (scanToken p text).token (scanToken p text).rest := by
  revert h
  unfold scanToken
  -- One case a kind of token; three quotation marks are tried before one.
  split
  · exact fun h => absurd rfl h
  · exact fun _ => .ellipsis _
  · split
    · exact fun h => absurd rfl h
    · next span => exact fun _ => .block span
  · next rest notBlock =>
    split
    · exact fun h => absurd rfl h
    · next span =>
      split
      · exact fun h => absurd rfl h
      · next meant =>
        refine fun _ => .string ?_ span meant
        rintro ⟨rest', rfl⟩
        exact notBlock rest' rfl
  · next c rest _ _ _ =>
    split
    · next known => exact fun _ => .punctuator rest known
    split
    · next starts => exact fun _ => .name rest starts
    split
    · next starts => exact fun good => .number rest (by simpa using starts) good
    · exact fun h => absurd rfl h

/-- A character that is a token starts no other one. -/
theorem starts_of_isPunctuator {c : Char} (h : isPunctuator c = true) :
    c ≠ '.' ∧ c ≠ '"' ∧ isNameStart c = false ∧ c ≠ '-' ∧ Text.isDigit c = false := by
  have all : ∀ d ∈ "()[]\x7b\x7d!$:=@|&".toList,
      d ≠ '.' ∧ d ≠ '"' ∧ isNameStart d = false ∧ d ≠ '-' ∧ Text.isDigit d = false :=
    List.all_iff_forall_prop.1 (by decide)
  exact all c (List.contains_iff_mem.1 h)

/-- A digit or a minus sign starts no name. -/
theorem isNameStart_of_number {c : Char} (h : c = '-' ∨ Text.isDigit c = true) : isNameStart c = false := by
  rcases h with rfl | digit
  · decide
  · have range : 48 ≤ c.toNat ∧ c.toNat ≤ 57 := by
      simpa [Text.isDigit, Char.le_def, UInt32.le_iff_toNat_le] using digit
    refine Bool.eq_false_iff.2 fun starts => ?_
    simp only [isNameStart, Bool.or_eq_true, decide_eq_true_eq] at starts
    rcases starts with rfl | letter
    · exact absurd digit (by decide)
    · -- Letters lie above the digits, in either case.
      obtain upper | lower := Bool.or_eq_true_iff.1 letter
      · have low : 65 ≤ c.toNat := (of_decide_eq_true upper).1
        omega
      · have low : 97 ≤ c.toNat := of_decide_eq_true (Bool.and_eq_true_iff.1 lower).1
        omega

theorem isPunctuator_of_isNameStart {c : Char} (h : isNameStart c = true) : isPunctuator c = false := by
  refine Bool.eq_false_iff.2 fun known => ?_
  simp [(starts_of_isPunctuator known).2.2.1] at h

theorem isPunctuator_of_number {c : Char} (h : c = '-' ∨ Text.isDigit c = true) : isPunctuator c = false := by
  refine Bool.eq_false_iff.2 fun known => ?_
  obtain ⟨-, -, -, minus, digit⟩ := starts_of_isPunctuator known
  simp [minus, digit] at h

theorem scanToken_cons {c : Char} (dot : c ≠ '.') (quote : c ≠ '"') (p : Place) (rest : List Char) :
    (scanToken p (c :: rest)).token =
        (if isPunctuator c then .punctuator c
          else if isNameStart c then .name (String.ofList (c :: rest.takeWhile isNameRest))
          else if c = '-' || Text.isDigit c then numberToken (c :: rest.takeWhile (!endsNumber ·)) else .bad) ∧
      (scanToken p (c :: rest)).rest =
        (if isPunctuator c then rest else if isNameStart c then rest.dropWhile isNameRest
          else if c = '-' || Text.isDigit c then rest.dropWhile (!endsNumber ·) else []) := by
  rw [scanToken]
  · grind
  · grind
  · grind
  · grind

/-- A token is scanned anywhere, and alike. -/
theorem scanToken_of_lexeme {text after : List Char} {token : Token} (h : Lexeme text token after) (p : Place) :
    (scanToken p text).token = token ∧ (scanToken p text).rest = after := by
  cases h with
  | ellipsis => exact ⟨rfl, rfl⟩
  | block span =>
    rw [scanToken, span]
    exact ⟨rfl, rfl⟩
  | @string rest body after s single span meant =>
    rw [scanToken, span]
    · dsimp only
      rw [meant]
      exact ⟨rfl, rfl⟩
    · rintro rest' rfl
      exact single ⟨rest', rfl⟩
  | @punctuator c rest known =>
    obtain ⟨dot, quote, -⟩ := starts_of_isPunctuator known
    simpa [known] using scanToken_cons dot quote p _
  | @name c rest starts =>
    have dot : c ≠ '.' := by rintro rfl; exact absurd starts (by decide)
    have quote : c ≠ '"' := by rintro rfl; exact absurd starts (by decide)
    simpa [isPunctuator_of_isNameStart starts, starts] using scanToken_cons dot quote p rest
  | @number c rest starts good =>
    have dot : c ≠ '.' := by rintro rfl; exact absurd starts (by decide)
    have quote : c ≠ '"' := by rintro rfl; exact absurd starts (by decide)
    simpa [isPunctuator_of_number starts, isNameStart_of_number starts, starts]
      using scanToken_cons dot quote p rest

/-- A token ends where it did, if a line is added behind it. -/
theorem Lexeme.append_newline {text after : List Char} {token : Token} (h : Lexeme text token after)
    (more : List Char) : Lexeme (text ++ '\n' :: more) token (after ++ '\n' :: more) := by
  cases h with
  | ellipsis => exact .ellipsis _
  | block span =>
    refine .block (blockSpan_append span ?_ more)
    show _ ≤ (_ ++ _ : List Char).length + 1
    rw [List.length_append]
    omega
  | @string rest body after s single span meant =>
    refine .string ?_ (stringSpan_append span _) meant
    rintro ⟨rest', same⟩
    -- The second of two characters would be the end of the line.
    match rest, same with
    | [], same => cases same
    | [_], same => cases same
    | _ :: _ :: _, same => cases same; exact single ⟨_, rfl⟩
  | punctuator _ known => exact .punctuator _ known
  | @name c rest starts =>
    have spelled := takeWhile_append_cons (show isNameRest '\n' = false by decide) rest more
    have extended := Lexeme.name (rest ++ '\n' :: more) starts
    rwa [spelled.1, spelled.2] at extended
  | @number c rest starts good =>
    have spelled := @takeWhile_append_cons (!endsNumber ·) '\n' (by decide) rest more
    have extended := Lexeme.number (rest ++ '\n' :: more) starts
    rw [spelled.1, spelled.2] at extended
    exact extended good

theorem Lexeme.length_lt {text after : List Char} {token : Token} (h : Lexeme text token after) :
    after.length < text.length := by
  have fewer (p : Char → Bool) (text : List Char) : (text.dropWhile p).length < text.length + 1 :=
    Nat.lt_succ_of_le (List.dropWhile_sublist p).length_le
  cases h with
  | ellipsis =>
    simp only [List.length_cons]
    omega
  | block span =>
    have shorter := length_blockSpan_lt span
    simp only [List.length_cons]
    omega
  | string single span meant => exact Nat.lt_succ_of_lt (length_stringSpan_lt span)
  | punctuator known => exact Nat.lt_succ_self _
  | name rest starts => exact fewer _ rest
  | number rest starts good => exact fewer _ rest

/-! ## Brackets -/

/-- By how much a token changes the bracket budget. -/
def Token.tilt : Token → Int
  | .punctuator c =>
    if c = '(' || c = '[' || c = '\x7b' then -1 else if c = ')' || c = ']' || c = '\x7d' then 1 else 0
  | _ => 0

/-- By how much some tokens change it. -/
def tilt (tokens : List Token) : Int := (tokens.map Token.tilt).sum

@[simp] theorem tilt_nil : tilt [] = 0 := rfl

@[simp] theorem tilt_cons (token : Token) (rest : List Token) :
    tilt (token :: rest) = token.tilt + tilt rest := rfl

@[simp] theorem tilt_append (first second : List Token) : tilt (first ++ second) = tilt first + tilt second := by
  rw [tilt, List.map_append, List.sum_append, tilt, tilt]

/-- Brackets are punctuators. -/
theorem ne_bracket {c : Char} (h : isPunctuator c = false) :
    (c ≠ '(' ∧ c ≠ '[' ∧ c ≠ '\x7b') ∧ c ≠ ')' ∧ c ≠ ']' ∧ c ≠ '\x7d' := by
  have brackets : ∀ d ∈ ['(', '[', '\x7b', ')', ']', '\x7d'], isPunctuator d = true :=
    List.all_iff_forall_prop.1 (by decide)
  have bracketless : c ∉ ['(', '[', '\x7b', ')', ']', '\x7d'] := fun hc => by simp [brackets c hc] at h
  simpa only [List.mem_cons, List.not_mem_nil, or_false, not_or, and_assoc] using bracketless

theorem tilt_of_isPunctuator {c : Char} (h : isPunctuator c = false) : (Token.punctuator c).tilt = 0 := by
  simp [Token.tilt, ne_bracket h]

theorem spend_of_isPunctuator {c : Char} (h : isPunctuator c = false) (budget : Nat) :
    spend budget c = some budget := by
  simp [spend, ne_bracket h]

theorem numberToken_tilt (text : List Char) : (numberToken text).tilt = 0 := by
  have double (whole fraction : List Char) (exponent : Int) : (floatOf whole fraction exponent).tilt = 0 := by
    unfold floatOf
    split <;> rfl
  have simple : (simpleNumber text).tilt = 0 := by
    unfold simpleNumber
    dsimp only
    split
    · split
      · exact double _ _ _
      · rfl
    · split <;> rfl
  unfold numberToken
  split
  · exact simple
  · dsimp only
    split
    · split
      · exact double _ _ _
      · rfl
    · rfl

/-- The budget is spent by the first character of a token, which tells as much as the token. -/
theorem Lexeme.spend_eq {c : Char} {rest after : List Char} {token : Token} (h : Lexeme (c :: rest) token after)
    {budget budget' : Nat} (spent : spend budget c = some budget') : (budget' : Int) = budget + token.tilt := by
  have plain (harmless : (Token.punctuator c).tilt = 0) : (budget' : Int) = budget := by
    unfold Token.tilt at harmless
    unfold spend at spent
    grind
  cases h with
  | ellipsis => simpa [Token.tilt] using plain (by decide)
  | block span => simpa [Token.tilt] using plain (by decide)
  | string single span meant => simpa [Token.tilt] using plain (by decide)
  | punctuator known =>
    unfold Token.tilt
    unfold spend at spent
    grind
  | name rest starts => simpa [Token.tilt] using plain (tilt_of_isPunctuator (isPunctuator_of_isNameStart starts))
  | number rest starts good =>
    rw [numberToken_tilt, Int.add_zero]
    exact plain (tilt_of_isPunctuator (isPunctuator_of_number starts))

/-! ## All tokens -/

/-- A text whose tokens are the given ones, none of them bad, with the bracket budgets before and after them. -/
inductive Scans : (budget : Nat) → List Char → List Token → (budget' : Nat) → Prop
  | done {budget : Nat} {text : List Char} (blank : unblank false text = []) : Scans budget text [] budget
  | token {budget budget' budget'' : Nat} {text rest after : List Char} {c : Char} {token : Token}
    {tokens : List Token} (starts : unblank false text = c :: rest) (spent : spend budget c = some budget')
    (first : Lexeme (c :: rest) token after) (good : token ≠ .bad) (others : Scans budget' after tokens budget'') :
    Scans budget text (token :: tokens) budget''

theorem Scans.clean {budget budget' : Nat} {text : List Char} {tokens : List Token}
    (h : Scans budget text tokens budget') : .bad ∉ tokens := by
  induction h with
  | done => exact List.not_mem_nil
  | token _ _ _ good _ ih => exact fun h => (List.mem_cons.1 h).elim (fun same => good same.symm) ih

/-- Tokens change the budget by the brackets among them. -/
theorem Scans.budget_eq {budget budget' : Nat} {text : List Char} {tokens : List Token}
    (h : Scans budget text tokens budget') : (budget' : Int) = budget + tilt tokens := by
  induction h with
  | done => simp
  | token _ spent first _ _ ih =>
    rw [ih, first.spend_eq spent, tilt_cons]
    omega

/-- The tokens of two texts on lines of their own. -/
theorem Scans.join {budget budget' budget'' : Nat} {text more : List Char} {tokens others : List Token}
    (h : Scans budget text tokens budget') (next : Scans budget' more others budget'') :
    Scans budget (text ++ '\n' :: more) (tokens ++ others) budget'' := by
  induction h with
  | done blank =>
    have line := unblank_append_newline blank more
    cases next with
    | done blank' => exact .done (line.trans blank')
    | token starts spent first good others => exact .token (line.trans starts) spent first good others
  | token starts spent first good _ ih =>
    exact .token (unblank_append starts _) spent (first.append_newline more) good (ih next)

/-- The scanner computes the relation, with as much fuel as there are characters and one. -/
theorem words_of_scans {budget budget' : Nat} {text : List Char} {tokens : List Token}
    (h : Scans budget text tokens budget') {fuel : Nat} (enough : text.length < fuel) (p : Place) :
    words (scanFrom fuel budget p text).1 = tokens := by
  -- Along the relation; blanks are skipped first, whatever the place is.
  induction h generalizing fuel p with
  | @done budget text blank =>
    obtain ⟨fuel, rfl⟩ := Nat.exists_eq_add_of_le' (Nat.succ_le_of_lt (Nat.zero_lt_of_lt enough))
    rw [scanFrom]
    rcases skipped : skipBlank false p text with ⟨p', rest⟩
    cases (skipBlank_snd false p _ text).trans blank ▸ congrArg Prod.snd skipped
    rfl
  | @token budget budget' budget'' text rest after c token tokens starts spent first good others ih =>
    obtain ⟨fuel, rfl⟩ := Nat.exists_eq_add_of_le' (Nat.succ_le_of_lt (Nat.zero_lt_of_lt enough))
    rw [scanFrom]
    rcases skipped : skipBlank false p text with ⟨p', rest'⟩
    cases (skipBlank_snd false p _ text).trans starts ▸ congrArg Prod.snd skipped
    have shorter : after.length < fuel := by
      have blanks := length_unblank_le false text
      rw [starts] at blanks
      have taken := first.length_lt
      omega
    obtain ⟨meant, left⟩ := scanToken_of_lexeme first p'
    dsimp only
    rw [spent, meant, left]
    dsimp only
    rw [if_neg good]
    exact congrArg (token :: ·) (ih shorter _)

/-- A text that is scanned without a bad token is one that has these tokens. -/
theorem scans_of_scanFrom {fuel budget : Nat} {p : Place} {text : List Char} (enough : text.length < fuel)
    (clean : .bad ∉ words (scanFrom fuel budget p text).1) :
    ∃ budget', Scans budget text (words (scanFrom fuel budget p text).1) budget' := by
  -- Each token takes at least one character, so what is left is shorter than the fuel that is left.
  induction fuel generalizing budget p text with
  | zero => exact absurd enough (Nat.not_lt_zero _)
  | succ fuel ih =>
    have skips := skipBlank_snd false p ⟨1, 1⟩ text
    rw [scanFrom] at clean ⊢
    revert skips clean
    rcases skipBlank false p text with ⟨p', _ | ⟨c, rest⟩⟩
    · exact fun _ skips => ⟨budget, .done skips.symm⟩
    · intro clean skips
      dsimp only at clean ⊢
      cases spent : spend budget c with
      | none =>
        rw [spent] at clean
        exact absurd (List.mem_singleton_self _) clean
      | some budget' =>
        rw [spent] at clean
        dsimp only at clean ⊢
        split at clean
        · exact absurd (List.mem_singleton_self _) clean
        · next good =>
          have first := lexeme_of_scanToken good
          have shorter : (scanToken p' (c :: rest)).rest.length < fuel := by
            have blanks := length_unblank_le false text
            rw [show unblank false text = c :: rest from skips.symm] at blanks
            have taken := first.length_lt
            omega
          rw [if_neg good]
          obtain ⟨budget'', others⟩ := ih shorter fun h => clean (List.mem_cons_of_mem _ h)
          exact ⟨budget'', .token skips.symm spent first good others⟩

/-- A text is scanned to its tokens. -/
theorem scans_iff {text : String} {tokens : List Token} :
    (∃ budget, Scans bracketBudget text.toList tokens budget) ↔ words (scan text).1 = tokens ∧ .bad ∉ tokens := by
  constructor
  · rintro ⟨budget, h⟩
    exact ⟨words_of_scans h (Nat.lt_succ_self _) _, h.clean⟩
  · rintro ⟨rfl, clean⟩
    exact scans_of_scanFrom (Nat.lt_succ_self _) clean

end Fixtures.Sdl
