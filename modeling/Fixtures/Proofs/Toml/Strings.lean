import Fixtures.Proofs.Toml.Scalars

/-!
# Strings and keys of two settings texts

A secret of the text can only stand in a string or in a comment, and these are read through it. They begin and end
with characters that stand in no secret and before none, so in front of them and behind them the texts are outside
of the secret. Two strings that were read are the same, or both hold the slash before the secret.
-/

namespace Fixtures.Toml

open Text (Veiled Twins ReadAlike AlikeOrHidden isGuarded)

variable {a b : List Char}

/-! ## Guarded characters -/

/-- A guarded character stands for itself in every string. -/
theorem plain_of_isGuarded {c : Char} (h : isGuarded c = true) :
    isPrintable c = true ∧ c ≠ '"' ∧ c ≠ '\'' ∧ c ≠ '\\' := by
  simp only [isGuarded, Bool.or_eq_true, decide_eq_true_eq] at h
  rcases h with (lower | rfl) | rfl
  · obtain ⟨low, high⟩ := Text.toNat_of_isLower lower
    refine ⟨?_, ?_, ?_, ?_⟩
    · have printable : 0x20 ≤ c.toNat ∧ c.toNat ≠ 0x7f := ⟨by omega, by omega⟩
      simp [isPrintable, printable]
    all_goals
      rintro rfl
      exact absurd low (by decide)
  · decide
  · decide

/-- A reader of one character that is not guarded, inside of a string. -/
theorem one_within {wanted : Char → Bool} (free : ∀ c, isGuarded c = true → wanted c = false) (h : Within a b) :
    Same (one wanted a) (one wanted b) := by
  obtain ⟨rfl, rfl⟩ | ⟨c, d, a, b, rfl, rfl, -, alike, rest⟩ := h.cases
  · exact soft_alike rfl
  · rw [one, one]
    by_cases guarded : isGuarded c = true
    · rw [free c guarded, free d (alike.guarded guarded)]
      exact soft_alike h.length_eq
    · obtain ⟨rfl, more⟩ := rest (by simpa using guarded)
      split
      · exact ⟨rfl, more⟩
      · exact soft_alike h.length_eq

/-! ## Escapes -/

theorem codePoint_alike (width : Nat) (h : Rests a b) : Same (codePoint width a) (codePoint width b) := by
  unfold codePoint
  dsimp only
  obtain ⟨ha, hb⟩ | ⟨same, rest⟩ := h.take_cases width
  · rw [if_pos (length_takeWhile_ne (digitIn?_slash 16) ha), if_pos (length_takeWhile_ne (digitIn?_slash 16) hb)]
    exact soft_alike h.length_eq
  · rw [same]
    split
    · exact soft_alike h.length_eq
    · split
      · exact soft_alike h.length_eq
      · split
        · exact ⟨rfl, rest⟩
        · exact because_alike _ h.length_eq

theorem expectingMarks_alike {α : Type} {R : List Char → List Char → Prop} {V : α → α → List Char → Prop}
    (marks : List String) {x y : Outcome α} (h : Alike R V x y) :
    Alike R V (marks.foldl (fun r mark => expectingMark mark r) x)
      (marks.foldl (fun r mark => expectingMark mark r) y) := by
  induction marks generalizing x y with
  | nil => exact h
  | cons mark marks ih => exact ih (h.expectingMark mark)

theorem escape_alike (h : Rests a b) : Same (escape a) (escape b) := by
  obtain ⟨rfl, rfl⟩ | ⟨c, a, b, rfl, rfl, within, rest⟩ := h.cases
  · exact soft_alike rfl
  · unfold escape
    dsimp only
    split
    case h_8 => exact ((codePoint_alike 4 (rest (by decide))).firmly).labelled _
    case h_9 => exact ((codePoint_alike 8 (rest (by decide))).firmly).labelled _
    case h_10 =>
      refine expectingMarks_alike _ (Alike.labelled _ ?_)
      exact (soft_alike within.length_eq).settled
    all_goals exact ⟨rfl, rest (by decide)⟩

/-! ## Strings on one line -/

/-- The same characters, or two texts that hold the slash before the secret. -/
def SameOrMarked (s t : List Char) (_ : List Char) : Prop := s = t ∨ '/' ∈ s ∧ '/' ∈ t

theorem reversed_of_readAlike {read read' : List Char} (h : ReadAlike read read' a b) (left : List Char) :
    SameOrMarked read.reverse read'.reverse left := by
  rcases h with ⟨rfl, -⟩ | ⟨first, second, -⟩
  · exact .inl rfl
  · exact .inr ⟨by simpa using first, by simpa using second⟩

theorem basicBody_alike (fuel : Nat) {read read' : List Char} (h : ReadAlike read read' a b) (keys : KeysUnmarked a) :
    Alike Rests SameOrMarked (basicBody fuel read a) (basicBody fuel read' b) := by
  induction fuel generalizing read read' a b with
  | zero => exact soft_alike h.twins.length_eq
  | succ fuel ih =>
    have within : Within a b := ⟨h.twins, keys⟩
    have close : Alike Rests SameOrMarked
        (labelled "basic string" (firmly (mapOutcome (fun _ => read.reverse) (one (· = '"') a))))
        (labelled "basic string" (firmly (mapOutcome (fun _ => read'.reverse) (one (· = '"') b)))) := by
      refine (((one_within ?_ within).map ?_).firmly).labelled _
      · intro c guarded
        simpa using (plain_of_isGuarded guarded).2.1
      · exact fun _ _ left _ => reversed_of_readAlike h left
    -- Where the characters differ both are hidden letters: neither begins an escape and both are plain.
    obtain ⟨rfl, rfl⟩ | ⟨c, d, a, b, rfl, rfl, tails, alike, free⟩ := within.cases
    · exact close
    · by_cases backslash : c = '\\'
      · subst backslash
        obtain ⟨rfl, rest⟩ := free (by decide)
        rw [basicBody, basicBody]
        obtain ⟨e, a', _, b', ha, hb, rfl, rest⟩ | ⟨e, f, ha, hb, refusal⟩ := (escape_alike rest).cases <;> rw [ha, hb]
        · exact ih (h.push e rest.veiled) rest.keys
        · dsimp only
          rw [refusal.firm_eq]
          split
          · exact refusal
          · exact close
      · have backslash' : d ≠ '\\' := fun e => backslash ((alike.eq_iff (by decide)).2 e)
        have plain : isPlain c = isPlain d := by
          by_cases guarded : isGuarded c = true
          · obtain ⟨hc, hc₁, -, hc₂⟩ := plain_of_isGuarded guarded
            obtain ⟨hd, hd₁, -, hd₂⟩ := plain_of_isGuarded (alike.guarded guarded)
            simp [isPlain, hc, hc₁, hc₂, hd, hd₁, hd₂]
          · rw [(free (by simpa using guarded)).1]
        rw [basicBody_cons backslash, basicBody_cons backslash', plain]
        split
        · exact ih h.cons tails.keys
        · exact close

theorem basicString_alike (h : Rests a b) : Alike Rests SameOrMarked (basicString a) (basicString b) := by
  refine (one_alike (by decide) h).andThen ?_
  rintro c a _ b - - - rest
  rw [rest.length_eq]
  exact basicBody_alike _ (.inl ⟨rfl, rest.veiled⟩) rest.keys

/-- Characters of a kind to which all guarded ones belong: the secret is passed if it begins among them. -/
theorem run_alike {wanted : Char → Bool} (all : ∀ c, isGuarded c = true → wanted c = true) (h : Rests a b) :
    SameOrMarked (a.takeWhile wanted) (b.takeWhile wanted) [] ∧ Rests (a.dropWhile wanted) (b.dropWhile wanted) := by
  suffices goOn : ∀ read read' : List Char, ReadAlike read read' a b → KeysUnmarked a →
      SameOrMarked (read.reverse ++ a.takeWhile wanted) (read'.reverse ++ b.takeWhile wanted) [] ∧
        Rests (a.dropWhile wanted) (b.dropWhile wanted) from goOn [] [] (.inl ⟨rfl, h.veiled⟩) h.keys
  clear h
  -- By induction on the characters, with what was read before: either alike, or both hold the slash of the mark.
  intro read read' h keys
  induction a generalizing b read read' with
  | nil =>
    obtain ⟨-, rfl⟩ | ⟨_, _, _, _, first, -⟩ := h.twins.cases
    · refine ⟨?_, .alike [], keys⟩
      simpa using reversed_of_readAlike h []
    · cases first
  | cons c a ih =>
    obtain ⟨empty, -⟩ | ⟨_, d, _, b, first, rfl, tails, alike, free⟩ := (Within.mk h.twins keys).cases
    · cases empty
    · cases first
      by_cases took : wanted c = true
      · have took' : wanted d = true := by
          by_cases guarded : isGuarded c = true
          · exact all d (alike.guarded guarded)
          · rwa [← (free (by simpa using guarded)).1]
        rw [List.takeWhile_cons_of_pos took, List.takeWhile_cons_of_pos took', List.dropWhile_cons_of_pos took,
          List.dropWhile_cons_of_pos took']
        have more := ih _ _ h.cons tails.keys
        rwa [List.reverse_cons, List.reverse_cons, List.append_assoc, List.append_assoc] at more
      · obtain ⟨rfl, rest⟩ := free (Bool.eq_false_iff.2 fun guarded => took (all c guarded))
        rw [List.takeWhile_cons_of_neg took, List.takeWhile_cons_of_neg took, List.dropWhile_cons_of_neg took,
          List.dropWhile_cons_of_neg took, List.append_nil, List.append_nil]
        exact ⟨reversed_of_readAlike h [], .cons c rest.veiled, keys⟩

theorem literalString_alike (h : Rests a b) : Alike Rests SameOrMarked (literalString a) (literalString b) := by
  refine Alike.labelled _ ((one_alike (by decide) h).andThen ?_)
  rintro c a _ b - - - rest
  have all (c : Char) (guarded : isGuarded c = true) : isLiteral c = true := by
    obtain ⟨printable, -, quote, -⟩ := plain_of_isGuarded guarded
    simp [isLiteral, printable, quote]
  obtain ⟨text, left⟩ := run_alike all rest
  exact (one_alike (by decide) left).map fun _ _ _ _ => text

/-! ## Strings on several lines -/

theorem blankLines_alike (h : Rests a b) : Same (blankLines a) (blankLines b) := by
  have skip (fuel : Nat) {a b : List Char} (h : Rests a b) : Same (blankLines.skip fuel a) (blankLines.skip fuel b) := by
    induction fuel generalizing a b with
    | zero => exact ⟨rfl, h⟩
    | succ fuel ih =>
      rw [blankLines.skip, blankLines.skip]
      have blanks := skipBlanks_rests h
      obtain ⟨_, a', _, b', ha, hb, -, rest⟩ | ⟨e, f, ha, hb, -⟩ := (newline_alike blanks).cases <;> rw [ha, hb]
      · exact ih rest
      · exact ⟨rfl, blanks⟩
  refine (newline_alike h).andThen ?_
  rintro - a - b - - - rest
  rw [rest.length_eq]
  exact skip _ rest

/-- Outcomes inside of a string: any values, or alike refusals. -/
abbrev AlikeWithin {α : Type} : Outcome α → Outcome α → Prop := Alike Within fun _ _ _ => True

/-- A mark of strings is not guarded. -/
theorem ne_quote_of_isGuarded {quote c : Char} (hquote : quote = '"' ∨ quote = '\'') (guarded : isGuarded c = true) :
    c ≠ quote := by
  obtain ⟨-, double, single, -⟩ := plain_of_isGuarded guarded
  rcases hquote with rfl | rfl
  · exact double
  · exact single

/-- In front of a character that is not guarded, the texts are outside of the secret. -/
theorem Within.rests {c : Char} (h : Within (c :: a) (c :: b)) (rest : Rests a b) : Rests (c :: a) (c :: b) :=
  ⟨.cons c rest.veiled, h.keys⟩

theorem content_alike {quote : Char} (hquote : quote = '"' ∨ quote = '\'') (h : Within a b) :
    AlikeWithin (content quote a) (content quote b) := by
  have plain {c : Char} (guarded : isGuarded c = true) (x : List Char) : content quote (c :: x) = .ok ([c], x) := by
    obtain ⟨printable, -, -, backslash⟩ := plain_of_isGuarded guarded
    simp [content, printable, backslash, ne_quote_of_isGuarded hquote guarded]
  obtain ⟨rfl, rfl⟩ | ⟨c, d, a, b, rfl, rfl, tails, alike, free⟩ := h.cases
  · exact soft_alike rfl
  · by_cases guarded : isGuarded c = true
    · rw [plain guarded, plain (alike.guarded guarded)]
      exact ⟨trivial, tails⟩
    · obtain ⟨rfl, rest⟩ := free (by simpa using guarded)
      rw [content, content]
      split
      · obtain ⟨_, a', _, b', ha, hb, -, left⟩ | ⟨e, f, ha, hb, -⟩ := (blankLines_alike (skipBlanks_rests rest)).cases <;>
          rw [ha, hb]
        · exact ⟨trivial, left.within⟩
        · exact ((escape_alike rest).map_eq _).mono (fun _ _ _ _ => trivial) fun _ _ left => left.within
      · split
        · exact ⟨trivial, tails⟩
        · exact ((newline_alike (h.rests rest)).map_eq _).mono (fun _ _ _ _ => trivial) fun _ _ left => left.within

/-- Quotation marks at the start of both texts: as many, and what is behind them. -/
theorem quotes_alike {quote : Char} (hquote : quote = '"' ∨ quote = '\'') (h : Within a b) :
    a.takeWhile (· = quote) = b.takeWhile (· = quote) ∧
      Within (a.dropWhile (· = quote)) (b.dropWhile (· = quote)) := by
  induction a generalizing b with
  | nil =>
    obtain ⟨-, rfl⟩ | ⟨_, _, _, _, first, -⟩ := h.cases
    · exact ⟨rfl, h⟩
    · cases first
  | cons c a ih =>
    obtain ⟨empty, -⟩ | ⟨_, d, _, b, first, rfl, tails, alike, free⟩ := h.cases
    · cases empty
    · cases first
      by_cases guarded : isGuarded c = true
      · have hc := ne_quote_of_isGuarded hquote guarded
        have hd := ne_quote_of_isGuarded hquote (alike.guarded guarded)
        simpa [List.takeWhile_cons, List.dropWhile_cons, hc, hd] using h
      · obtain ⟨rfl, -⟩ := free (by simpa using guarded)
        rw [List.takeWhile_cons, List.takeWhile_cons, List.dropWhile_cons, List.dropWhile_cons]
        split
        · exact ⟨congrArg (c :: ·) (ih tails).1, (ih tails).2⟩
        · exact ⟨rfl, h⟩

theorem quotesAsText_eq {quote : Char} (hquote : quote = '"' ∨ quote = '\'') (h : Within a b) :
    quotesAsText quote a = quotesAsText quote b := by
  obtain ⟨quotes, after⟩ := quotes_alike hquote h
  unfold quotesAsText run
  dsimp only
  rw [quotes]
  split
  · rfl
  · obtain ⟨_, a', _, b', ha, hb, -, -⟩ | ⟨e, f, ha, hb, refusal⟩ := (content_alike hquote after).cases <;>
      rw [ha, hb]
    dsimp only
    rw [refusal.firm_eq]

theorem Within.drop (h : Within a b) (n : Nat) : Within (a.drop n) (b.drop n) := by
  induction n generalizing a b with
  | zero => exact h
  | succ n ih =>
    obtain ⟨rfl, rfl⟩ | ⟨c, d, a, b, rfl, rfl, tails, -, -⟩ := h.cases
    · exact h
    · exact ih tails

/-- Three quotation marks close a string on several lines; behind them the texts are outside of the secret. -/
theorem closing_alike {quote : Char} (hquote : quote = '"' ∨ quote = '\'') (h : Within a b) :
    Same (exactly [quote, quote, quote] a) (exactly [quote, quote, quote] b) := by
  obtain ⟨rfl, rfl⟩ | ⟨c, d, a, b, rfl, rfl, -, alike, free⟩ := h.cases
  · exact soft_alike rfl
  · by_cases guarded : isGuarded c = true
    · have other {c : Char} (guarded : isGuarded c = true) (x : List Char) :
          exactly [quote, quote, quote] (c :: x) = .error (.soft (c :: x)) := by
        have differs : (quote == c) = false := by simpa using (ne_quote_of_isGuarded hquote guarded).symm
        simp [exactly, List.isPrefixOf, differs]
      rw [other guarded, other (alike.guarded guarded)]
      exact soft_alike h.length_eq
    · obtain ⟨rfl, rest⟩ := free (by simpa using guarded)
      refine exactly_alike ?_ (h.rests rest)
      rcases hquote with rfl | rfl <;> decide

theorem linesBody_alike {quote : Char} (hquote : quote = '"' ∨ quote = '\'') (fuel : Nat) (read read' : List Char)
    (h : Within a b) : AlikeUpToValue (linesBody quote fuel read a) (linesBody quote fuel read' b) := by
  induction fuel generalizing read read' a b with
  | zero => exact soft_alike h.length_eq
  | succ fuel ih =>
    rw [linesBody, linesBody]
    obtain ⟨_, a', _, b', ha, hb, -, left⟩ | ⟨e, f, ha, hb, refusal⟩ := (content_alike hquote h).cases <;> rw [ha, hb]
    · exact ih _ _ left
    · dsimp only
      rw [refusal.firm_eq, quotesAsText_eq hquote h]
      split
      · exact refusal
      · have left := h.drop (quotesAsText quote b)
        obtain ⟨_, a', _, b', ha, hb, -, rest⟩ | ⟨e, f, ha, hb, refusal⟩ := (closing_alike hquote left).cases <;>
          rw [ha, hb]
        · exact ⟨trivial, rest⟩
        · dsimp only
          split
          · exact refusal.settled
          · exact ih _ _ left

theorem linesString_alike {quote : Char} (hquote : quote = '"' ∨ quote = '\'') (h : Rests a b) :
    AlikeUpToValue (linesString quote a) (linesString quote b) := by
  have body : ∀ a b : List Char, Rests a b →
      AlikeUpToValue (firmly (linesBody quote (a.length + 1) [] a)) (firmly (linesBody quote (b.length + 1) [] b)) := by
    intro a b h
    rw [h.length_eq]
    exact (linesBody_alike hquote _ [] [] h.within).firmly
  refine Alike.labelled _ ((closing_alike hquote h.within).andThen ?_)
  rintro - a - b - - - rest
  obtain ⟨_, a', _, b', ha, hb, -, left⟩ | ⟨e, f, ha, hb, -⟩ := (newline_alike rest).cases <;> rw [ha, hb]
  · exact body _ _ left
  · exact body _ _ rest

theorem string_alike (h : Rests a b) : AlikeUpToValue (string a) (string b) :=
  (linesString_alike (.inl rfl) h).orElse <| (basicString_alike h).any.orElse <|
    (linesString_alike (.inr rfl) h).orElse (literalString_alike h).any

/-! ## Keys -/

/-- The name of a key, with or without quotation marks. -/
def keyName (rest : List Char) : Outcome (List Char) :=
  match rest with
  | '"' :: _ => basicString rest
  | '\'' :: _ => literalString rest
  | _ => if (rest.takeWhile isBare).isEmpty then .error (.soft rest) else .ok (run isBare rest)

theorem simpleKey_eq (rest : List Char) : simpleKey rest =
    andThen (keyName rest) fun name left => .ok (⟨String.ofList name, ⟨rest.length, left.length⟩⟩, left) := rfl

theorem keyName_alike (h : Rests a b) : Alike Rests SameOrMarked (keyName a) (keyName b) := by
  have bare : Alike Rests SameOrMarked
      (if (a.takeWhile isBare).isEmpty then .error (.soft a) else .ok (run isBare a))
      (if (b.takeWhile isBare).isEmpty then .error (.soft b) else .ok (run isBare b)) := by
    unfold run
    rw [h.veiled.takeWhile_eq (by decide)]
    split
    · exact soft_alike h.length_eq
    · exact ⟨.inl rfl, h.dropWhile (by decide)⟩
  unfold keyName
  obtain ⟨rfl, rfl⟩ | ⟨c, a, b, rfl, rfl, -, -⟩ := h.cases
  · exact bare
  · split
    · next e =>
      cases e
      exact basicString_alike h
    · next e =>
      cases e
      exact literalString_alike h
    · next double single =>
      have double : c ≠ '"' := by simpa using double
      have single : c ≠ '\'' := by simpa using single
      simp only [List.cons.injEq, double, single, false_and, imp_self, implies_true]
      exact bare

/-- The same key, if what follows tells that it is one. -/
def SameKey (k l : Key) (left : List Char) : Prop := EndsKey (skipBlanks left) → k = l

theorem simpleKey_alike (h : Rests a b) : Alike Rests SameKey (simpleKey a) (simpleKey b) := by
  rw [simpleKey_eq, simpleKey_eq]
  refine (keyName_alike h).andThen ?_
  intro v left w left' hv _ same rest
  refine ⟨fun ends => ?_, rest⟩
  rw [h.length_eq, rest.length_eq]
  rcases same with rfl | ⟨marked, -⟩
  · rfl
  · have read : simpleKey a = .ok (⟨String.ofList v, ⟨a.length, left.length⟩⟩, left) := by
      rw [simpleKey_eq, hv]
      rfl
    exact absurd (by simpa using marked) (h.keys a List.suffix_rfl _ left read ends)

end Fixtures.Toml
