import Fixtures.Proofs.Script.Lexemes
import Fixtures.Proofs.Script.Spelling
import Fixtures.Script.Grammar

/-!
# Scripts are spelled in the words of their text

The names that a script reads and calls are words among the tokens it was read from. `Yields` says of a rule of
the grammar that from tokens with words of a kind it makes trees spelled in such words: the lemmas about one
rule after another carry this from single tokens to whole scripts.

## Main results

* `Yields.bind`: the second of two rules is given what the first one leaves.
* `spelled_parsersTo`: the readers of every level yield trees spelled in the words of the tokens.
-/

namespace Fixtures.Script

variable {words : String → Prop}

/-- A token that is no word, or one of `words`. -/
def Token.Fits (words : String → Prop) (token : Token) : Prop := ∀ w ∈ token.word?, words w

/-- A state of reading in which the tokens to come and all that was read so far are spelled in `words`. -/
structure Reading.Fits (words : String → Prop) (r : Reading) : Prop where
  rest : ∀ l ∈ r.rest, l.token.Fits words
  functions : ∀ f ∈ r.functions, f.Spelled words
  captured : ∀ c ∈ r.captured, words c.1

namespace Parse

theorem forall_mem_reverse {α : Type} {as : List α} {p : α → Prop} (h : ∀ a ∈ as, p a) : ∀ a ∈ as.reverse, p a :=
  fun a ha => h a (List.mem_reverse.mp ha)

/-! ## One rule after another -/

/-- Of tokens spelled in `words`, a rule leaves such tokens, and what it yields is good. -/
def Yields {α : Type} (words : String → Prop) (rule : Parse α) (good : α → Prop) : Prop :=
  ∀ r a r', r.Fits words → rule r = .ok (a, r') → good a ∧ r'.Fits words

/-- A rule that keeps to `words`, whatever it yields. -/
abbrev Proceeds {α : Type} (words : String → Prop) (rule : Parse α) : Prop := Yields words rule fun _ => True

section Combining

variable {α β : Type} {rule : Parse α} {good : α → Prop}

theorem Yields.pure {a : α} (h : good a) : Yields words (pure a) good := by
  rintro r _ _ fits ⟨⟩
  exact ⟨h, fits⟩

/-- The second rule is given what the first one leaves. -/
theorem Yields.bind {next : α → Parse β} {fine : β → Prop} (first : Yields words rule good)
    (second : ∀ a, good a → Yields words (next a) fine) : Yields words (rule >>= next) fine := by
  intro r b r' fits hrun
  have hrun : (rule r >>= fun p => next p.1 p.2) = .ok (b, r') := hrun
  cases hrule : rule r with
  | error refusal =>
    rw [hrule] at hrun
    cases hrun
  | ok p =>
    obtain ⟨a, middle⟩ := p
    rw [hrule] at hrun
    obtain ⟨ha, fits⟩ := first r a middle fits hrule
    exact second a ha middle b r' fits hrun

/-- After a rule whose yield does not matter. -/
theorem Proceeds.bind {next : α → Parse β} {fine : β → Prop} (first : Proceeds words rule)
    (second : ∀ a, Yields words (next a) fine) : Yields words (rule >>= next) fine :=
  Yields.bind first fun a _ => second a

theorem yields_refuse (complaint : Complaint) (place : Place) : Yields words (refuse complaint place) good := by
  rintro r a r' fits ⟨⟩

theorem yields_refuseToken (l : Lexeme) (complaint : Complaint) :
    Yields words (refuseToken l complaint) good := by
  unfold refuseToken
  split <;> exact yields_refuse _ _

theorem yields_get : Yields words get (Reading.Fits words) := by
  rintro r _ _ fits ⟨⟩
  exact ⟨fits, fits⟩

theorem proceeds_set {r : Reading} (h : r.Fits words) : Proceeds words (set r) := by
  rintro _ _ _ - ⟨⟩
  exact ⟨trivial, h⟩

theorem proceeds_modify {f : Reading → Reading} (h : ∀ r, r.Fits words → (f r).Fits words) :
    Proceeds words (modify f) := by
  rintro r _ _ fits ⟨⟩
  exact ⟨trivial, h r fits⟩

/-- A refusal may be given another text. -/
theorem yields_tryCatch {handle : Refusal → Parse α} (h : Yields words rule good)
    (hhandle : ∀ refusal, Yields words (handle refusal) good) :
    Yields words (tryCatchThe Refusal rule handle) good := by
  intro r a r' fits hrun
  have hrun : (tryCatch (rule r) fun refusal => handle refusal r) = .ok (a, r') := hrun
  cases hrule : rule r with
  | error refusal =>
    rw [hrule] at hrun
    exact hhandle refusal r a r' fits hrun
  | ok p =>
    rw [hrule] at hrun
    cases hrun
    exact h r a r' fits hrule

theorem proceeds_forIn {as : List α} {f : α → β → Parse (ForInStep β)} (h : ∀ a ∈ as, ∀ b, Proceeds words (f a b))
    (b : β) : Proceeds words (forIn as b f) := by
  induction as generalizing b with
  | nil => exact .pure trivial
  | cons a as ih =>
    rw [List.forall_mem_cons] at h
    rw [List.forIn_cons]
    refine (h.1 b).bind fun step => ?_
    split
    · exact .pure trivial
    · exact ih h.2 _

theorem proceeds_mapM {as : List α} {f : α → Parse β} (h : ∀ a ∈ as, Proceeds words (f a)) :
    Proceeds words (as.mapM f) := by
  induction as with
  | nil => exact .pure trivial
  | cons a as ih =>
    rw [List.forall_mem_cons] at h
    rw [List.mapM_cons]
    exact h.1.bind fun _ => (ih h.2).bind fun _ => .pure trivial

end Combining

/-! ## Single tokens -/

theorem fits_finish (place : Place) : (Lexeme.mk .finish place).token.Fits words := by
  rintro w ⟨⟩

theorem yields_peek : Yields words peek (·.token.Fits words) := by
  refine yields_get.bind fun r fits => ?_
  split
  · next l rest text => exact .pure (fits.rest l (text ▸ List.mem_cons_self))
  · exact .pure (fits_finish _)

theorem yields_take : Yields words take (·.token.Fits words) := by
  refine yields_get.bind fun r fits => ?_
  have tokens := fits.rest
  split
  · next l rest text =>
    rw [text, List.forall_mem_cons] at tokens
    have taken : Reading.Fits words { r with rest := rest } := ⟨tokens.2, fits.functions, fits.captured⟩
    exact (proceeds_set taken).bind fun _ => .pure tokens.1
  · exact .pure (fits_finish _)

theorem proceeds_accept (token : Token) : Proceeds words (accept token) := by
  refine yields_peek.bind fun l _ => ?_
  split
  · exact yields_take.bind fun _ _ => .pure trivial
  · exact .pure trivial

theorem proceeds_isNext (token : Token) : Proceeds words (isNext token) :=
  yields_peek.bind fun _ _ => .pure trivial

theorem proceeds_expect (token : Token) (why : String) : Proceeds words (expect token why) := by
  refine yields_take.bind fun l _ => ?_
  split
  · exact .pure trivial
  · exact yields_refuseToken _ _

theorem proceeds_deeper (s : Setting) (place : Place) : Proceeds words (deeper s place) := by
  unfold deeper
  split
  · exact yields_refuse _ _
  · exact .pure trivial

theorem proceeds_stepsLeft : Proceeds words stepsLeft := yields_get.bind fun _ _ => .pure trivial

/-! ## Variables -/

theorem proceeds_declare (name : String) (constant : Bool) : Proceeds words (declare name constant) :=
  proceeds_modify fun _ fits => ⟨fits.rest, fits.functions, fits.captured⟩

theorem Yields.inScope {α : Type} {part : Parse α} {good : α → Prop} (h : Yields words part good) :
    Yields words (inScope part) good := by
  refine yields_get.bind fun r _ => h.bind fun a ha => Proceeds.bind ?_ fun _ => .pure ha
  exact proceeds_modify fun _ fits => ⟨fits.rest, fits.functions, fits.captured⟩

theorem proceeds_mention {name : String} (h : words name) (place : Place) :
    Proceeds words (mention name place) := by
  refine proceeds_modify fun r fits => ?_
  split
  · exact fits
  · refine ⟨fits.rest, fits.functions, ?_⟩
    rw [List.forall_mem_append]
    exact ⟨fits.captured, by simpa using h⟩

theorem yields_variableName : Yields words variableName (words ·.1) := by
  refine yields_take.bind fun l fits => ?_
  split
  · next s token =>
    rw [token] at fits
    exact .pure (fits s rfl)
  · exact yields_refuse _ _
  · exact yields_refuseToken _ _

end Parse

open Parse

/-- Readers that yield trees spelled in `words`. -/
structure Parsers.Fit (words : String → Prop) (parsers : Parsers) : Prop where
  expr : ∀ s, Yields words (parsers.expr s) (·.Spelled words)
  unary : ∀ s, Yields words (parsers.unary s) (·.Spelled words)
  stmt : ∀ s, Yields words (parsers.stmt s) (·.Spelled words)

namespace Grammar

variable {self : Parsers}

/-! ## Conditions -/

theorem yields_ensureCondition {e : Expr} (h : e.Spelled words) :
    Yields words (ensureCondition e) (·.Spelled words) := by
  unfold ensureCondition
  split
  · exact yields_refuse _ _
  · exact .pure h

theorem yields_ensureItems {e : Expr} (h : e.Spelled words) : Yields words (ensureItems e) (·.Spelled words) := by
  unfold ensureItems
  split
  · exact .pure h
  · exact .pure h
  · exact yields_refuse _ _
  · split
    · exact yields_refuse _ _
    · exact .pure h

theorem proceeds_ensureNoBlock : Proceeds words ensureNoBlock := by
  refine yields_peek.bind fun l _ => ?_
  split
  · exact yields_refuse _ _
  · exact .pure trivial

theorem proceeds_ensureNoAssignment : Proceeds words ensureNoAssignment := by
  refine yields_peek.bind fun l _ => ?_
  split
  · exact yields_refuse _ _
  · split
    · exact yields_refuse _ _
    · exact .pure trivial
  · exact .pure trivial

theorem yields_condition (fit : self.Fit words) (s : Setting) :
    Yields words (condition self s) (·.Spelled words) := by
  refine proceeds_ensureNoBlock.bind fun _ => (fit.expr s).bind fun e he => ?_
  refine (yields_ensureCondition he).bind fun e he => ?_
  exact proceeds_ensureNoAssignment.bind fun _ => .pure he

/-! ## Blocks -/

theorem yields_blockItems (fit : self.Fit words) (s : Setting) {fuel : Nat} {seen : List Stmt}
    (hseen : ∀ s ∈ seen, s.Spelled words) :
    Yields words (blockItems self s fuel seen) fun stmts => ∀ s ∈ stmts, s.Spelled words := by
  induction fuel generalizing seen with
  | zero => exact .pure (forall_mem_reverse hseen)
  | succ fuel ih =>
    refine yields_peek.bind fun l _ => ?_
    split
    · exact yields_take.bind fun _ _ => .pure (forall_mem_reverse hseen)
    · exact yields_refuse _ _
    · refine (fit.stmt s).bind fun stmt hstmt => ?_
      have more : ∀ s ∈ stmt :: seen, s.Spelled words := List.forall_mem_cons.mpr ⟨hstmt, hseen⟩
      split
      · exact ih hseen
      · refine yields_peek.bind fun next _ => ?_
        split
        · exact ih more
        · split
          · exact yields_take.bind fun _ _ => ih more
          · exact yields_refuseToken _ _

theorem yields_block (fit : self.Fit words) (s : Setting) :
    Yields words (block self s) fun p => ∀ s ∈ p.1, s.Spelled words := by
  refine yields_take.bind fun l _ => ?_
  split
  · refine (proceeds_deeper _ _).bind fun s => ?_
    refine (Yields.inScope (proceeds_stepsLeft.bind fun _ => yields_blockItems fit _ (List.forall_mem_nil _))).bind
      fun stmts hstmts => .pure hstmts
  · exact yields_refuseToken _ _

/-! ## Literals -/

theorem yields_arrayItems (fit : self.Fit words) (s : Setting) (place : Place) {fuel : Nat} {seen : List Expr}
    (hseen : ∀ e ∈ seen, e.Spelled words) :
    Yields words (arrayItems self s place fuel seen) fun items => ∀ e ∈ items, e.Spelled words := by
  induction fuel generalizing seen with
  | zero => exact .pure (forall_mem_reverse hseen)
  | succ fuel ih =>
    refine yields_peek.bind fun l _ => ?_
    split
    · exact yields_take.bind fun _ _ => .pure (forall_mem_reverse hseen)
    · exact yields_refuse _ _
    · refine (proceeds_deeper _ _).bind fun s => (fit.expr s).bind fun e he => ?_
      have more := List.forall_mem_cons.mpr ⟨he, hseen⟩
      refine yields_peek.bind fun next _ => ?_
      split
      · exact yields_take.bind fun _ _ => ih more
      · exact ih more
      · exact yields_refuse _ _
      · exact yields_refuseToken _ _

theorem proceeds_memberName (seen : List (String × Expr)) : Proceeds words (memberName seen) := by
  refine yields_take.bind fun l _ => ?_
  have fresh (name : String) (place : Place) : Proceeds words
      (if (seen.lookup name).isSome then refuse (.duplicateProperty name) place else pure name) := by
    split
    · exact yields_refuse _ _
    · exact .pure trivial
  dsimp only
  split
  · exact fresh _ _
  · exact fresh _ _
  · split <;> exact yields_refuse _ _
  · exact yields_refuse _ _
  · exact yields_refuseToken _ _

theorem yields_mapMembers (fit : self.Fit words) (s : Setting) (place : Place) {fuel : Nat}
    {seen : List (String × Expr)} (hseen : ∀ m ∈ seen, m.2.Spelled words) :
    Yields words (mapMembers self s place fuel seen) fun members => ∀ m ∈ members, m.2.Spelled words := by
  induction fuel generalizing seen with
  | zero => exact .pure (forall_mem_reverse hseen)
  | succ fuel ih =>
    refine yields_peek.bind fun l _ => ?_
    split
    · exact yields_take.bind fun _ _ => .pure (forall_mem_reverse hseen)
    · exact yields_refuse _ _
    · refine (proceeds_memberName _).bind fun name => (proceeds_expect _ _).bind fun _ => ?_
      refine (proceeds_deeper _ _).bind fun s => (fit.expr s).bind fun e he => ?_
      have more : ∀ m ∈ (name, e) :: seen, m.2.Spelled words := List.forall_mem_cons.mpr ⟨he, hseen⟩
      refine yields_peek.bind fun next _ => ?_
      split
      · exact yields_take.bind fun _ _ => ih more
      · exact ih more
      · exact yields_refuse _ _
      · exact yields_refuseToken _ _

theorem spelled_textPart (s : String) (place : Place) : ∀ e ∈ textPart s place, e.Spelled words := by
  unfold textPart
  split
  · exact List.forall_mem_nil _
  · exact List.forall_mem_singleton.mpr (.const trivial)

/-- A block is put behind what was seen, unless it is an empty text. -/
theorem spelled_withBlock (stmts : List Stmt) (place : Place) (seen : List Expr) :
    (∀ s ∈ stmts, s.Spelled words) → (∀ e ∈ seen, e.Spelled words) →
      ∀ e ∈ (match stmts with
        | [.expr (.const (.string "") _)] => seen
        | _ => .block stmts place :: seen : List Expr), e.Spelled words := by
  intro hstmts hseen
  split
  · exact hseen
  · exact List.forall_mem_cons.mpr ⟨.block hstmts, hseen⟩

theorem yields_textParts (fit : self.Fit words) (s : Setting) {fuel : Nat} {seen : List Expr}
    (hseen : ∀ e ∈ seen, e.Spelled words) :
    Yields words (textParts self s fuel seen) fun parts => ∀ e ∈ parts, e.Spelled words := by
  induction fuel generalizing seen with
  | zero => exact .pure (forall_mem_reverse hseen)
  | succ fuel ih =>
    refine (yields_block fit s).bind fun p hp => ?_
    obtain ⟨stmts, place⟩ := p
    have more := spelled_withBlock stmts place seen hp hseen
    refine yields_take.bind fun l _ => ?_
    split
    · exact .pure (List.forall_mem_append.mpr ⟨forall_mem_reverse more, spelled_textPart _ _⟩)
    · exact ih (List.forall_mem_append.mpr ⟨forall_mem_reverse (spelled_textPart _ _), more⟩)
    · exact yields_refuseToken _ _

/-! ## Calls -/

theorem yields_callArgs (fit : self.Fit words) (s : Setting) (name : String) {fuel : Nat} {seen : List Expr}
    (hseen : ∀ e ∈ seen, e.Spelled words) :
    Yields words (callArgs self s name fuel seen) fun args => ∀ e ∈ args, e.Spelled words := by
  induction fuel generalizing seen with
  | zero => exact .pure (forall_mem_reverse hseen)
  | succ fuel ih =>
    refine (proceeds_isNext _).bind fun closes => ?_
    extract_lets goOn
    have rest {seen : List Expr} (hseen : ∀ e ∈ seen, e.Spelled words) :
        Yields words (goOn seen) fun args => ∀ e ∈ args, e.Spelled words := by
      refine yields_peek.bind fun l _ => ?_
      split
      · exact yields_take.bind fun _ _ => .pure (forall_mem_reverse hseen)
      · exact yields_take.bind fun _ _ => ih hseen
      · exact yields_refuse _ _
      · exact yields_refuseToken _ _
    split
    · exact rest hseen
    · exact (fit.expr s).bind fun e he => rest (List.forall_mem_cons.mpr ⟨he, hseen⟩)

theorem yields_call (fit : self.Fit words) (s : Setting) (name : String) (place : Place) :
    Yields words (call self s name place) fun args => ∀ e ∈ args, e.Spelled words := by
  refine yields_take.bind fun opening _ => ?_
  split
  · exact .pure (List.forall_mem_nil _)
  · refine yields_peek.bind fun l _ => ?_
    split
    · exact yields_take.bind fun _ _ => .pure (List.forall_mem_nil _)
    · exact yields_refuse _ _
    · exact yields_refuse _ _
    · refine (proceeds_deeper _ _).bind fun s => proceeds_stepsLeft.bind fun _ => ?_
      exact yields_callArgs fit s name (List.forall_mem_nil _)

theorem proceeds_opensCall : Proceeds words opensCall := by
  exact (proceeds_isNext _).bind fun _ => (proceeds_isNext _).bind fun _ => .pure trivial

/-! ## Functions -/

theorem proceeds_parameters (function close whyClose whyComma : String) {fuel : Nat} {seen : List String} :
    Proceeds words (parameters function close whyClose whyComma fuel seen) := by
  induction fuel generalizing seen with
  | zero => exact .pure trivial
  | succ fuel ih =>
    refine yields_take.bind fun l _ => ?_
    split
    · split
      · exact yields_refuse _ _
      · refine yields_take.bind fun next _ => ?_
        split
        · exact .pure trivial
        · split
          · exact ih
          · exact yields_refuseToken _ _
    · split
      · exact .pure trivial
      · exact yields_refuseToken _ _

theorem yields_functionBody {α : Type} {part : Parse α} {good : α → Prop} (h : Yields words part good)
    (names : List String) :
    Yields words (functionBody names part) fun p => good p.1 ∧ ∀ c ∈ p.2, words c.1 := by
  refine yields_get.bind fun outer outerFits => ?_
  have begun : Reading.Fits words { outer with known := names.reverse.map (·, false), captured := [] } :=
    ⟨outerFits.rest, outerFits.functions, List.forall_mem_nil _⟩
  refine (proceeds_set begun).bind fun _ => h.bind fun a ha => yields_get.bind fun inner innerFits => ?_
  have ended : Reading.Fits words { inner with known := outer.known, captured := outer.captured } :=
    ⟨innerFits.rest, innerFits.functions, outerFits.captured⟩
  exact (proceeds_set ended).bind fun _ => .pure ⟨ha, innerFits.captured⟩

theorem yields_closure (fit : self.Fit words) (s : Setting) (place : Place) :
    Yields words (closure self s place) (·.Spelled words) := by
  refine (proceeds_deeper _ _).bind fun s => (proceeds_deeper _ _).bind fun s => ?_
  refine yields_take.bind fun opening _ => ?_
  extract_lets goOn
  -- Behind the parameters the body is read with its own variables, and is lifted out as a function.
  have rest (names : List String) : Yields words (goOn names) (·.Spelled words) := by
    refine (yields_functionBody (fit.stmt _) names).bind fun p hp => ?_
    obtain ⟨body, captured⟩ := p
    obtain ⟨hbody, hcaptured⟩ := hp
    refine Proceeds.bind (proceeds_forIn (fun c hc _ => ?_) _) fun _ => yields_get.bind fun r _ => ?_
    · exact (proceeds_mention (hcaptured c hc) c.2).bind fun _ => .pure trivial
    refine Proceeds.bind (proceeds_modify fun r fits => ?_) fun _ => .pure ?_
    · refine ⟨fits.rest, List.forall_mem_cons.mpr ⟨?_, fits.functions⟩, fits.captured⟩
      unfold Function.Spelled
      dsimp only
      split
      · cases hbody
        assumption
      · exact List.forall_mem_nil _
      · exact List.forall_mem_singleton.mpr hbody
    · split
      · exact .const trivial
      · exact .closure hcaptured
  split
  · exact rest _
  · exact proceeds_stepsLeft.bind fun _ => (proceeds_parameters _ _ _ _).bind fun names => rest names

theorem proceeds_function (fit : self.Fit words) (s : Setting) : Proceeds words (function self s) := by
  refine yields_take.bind fun l _ => ?_
  split
  · refine yields_peek.bind fun next _ => ?_
    extract_lets goOn
    have rest (names : List String) : Proceeds words (goOn names) := by
      refine yields_peek.bind fun brace _ => ?_
      split
      · refine (yields_functionBody (yields_block fit s) names).bind fun p hp => ?_
        obtain ⟨⟨stmts, place⟩, captured⟩ := p
        refine yields_get.bind fun r fits => ?_
        dsimp only
        split
        · exact yields_refuse _ _
        · refine proceeds_modify fun r fits' => ⟨fits'.rest, ?_, fits'.captured⟩
          exact List.forall_mem_cons.mpr ⟨hp.1, fits.functions⟩
      · exact yields_refuse _ _
    split
    · exact yields_take.bind fun _ _ => rest _
    · split
      · refine yields_take.bind fun _ _ => proceeds_stepsLeft.bind fun _ => ?_
        exact (proceeds_parameters _ _ _ _).bind rest
      · exact Proceeds.bind (yields_refuse _ _) rest
  · exact yields_refuse _ _
  · exact yields_refuse _ _
  · exact yields_refuse _ _

/-! ## Choices and loops as expressions -/

theorem yields_choice (fit : self.Fit words) (s : Setting) (fuel : Nat) (place : Place) :
    Yields words (choice self s fuel place) (·.Spelled words) := by
  induction fuel generalizing place with
  | zero => exact yields_refuse _ _
  | succ fuel ih =>
    refine (yields_condition fit s).bind fun e he => (yields_block fit s).bind fun yes hyes => ?_
    refine (proceeds_accept _).bind fun more => ?_
    split
    · refine yields_peek.bind fun l _ => ?_
      split
      · refine yields_take.bind fun _ _ => (ih l.place).bind fun other hother => ?_
        exact .pure (.choose he hyes (List.forall_mem_singleton.mpr hother))
      · exact (yields_block fit s).bind fun no hno => .pure (.choose he hyes hno)
    · exact .pure (.choose he hyes (List.forall_mem_nil _))

theorem proceeds_label (e : Expr) : Proceeds words (label e) := by
  unfold label
  split
  · exact .pure trivial
  · exact .pure trivial
  · exact .pure trivial
  · exact yields_refuse _ _

theorem proceeds_labels (fit : self.Fit words) (s : Setting) {fuel : Nat} {seen : List Expr} :
    Proceeds words (labels self s fuel seen) := by
  induction fuel generalizing seen with
  | zero => exact .pure trivial
  | succ fuel ih =>
    refine (yields_tryCatch (fit.expr _) fun _ => yields_refuse _ _).bind fun e _ => ?_
    refine (proceeds_accept _).bind fun more => ?_
    split
    · exact ih
    · exact .pure trivial

theorem spelled_always : always.Spelled words := .const trivial

/-- The condition of a case is spelled; its labels are literals. -/
theorem yields_caseHead (fit : self.Fit words) (s : Setting) (last : Option Place) :
    Yields words (caseHead self s last) (·.2.Spelled words) := by
  refine yields_peek.bind fun l _ => ?_
  split
  · exact yields_refuse _ _
  · split
    · refine yields_take.bind fun _ _ => yields_peek.bind fun next _ => ?_
      split
      · exact yields_refuse _ _
      · exact .pure spelled_always
    · refine proceeds_stepsLeft.bind fun _ => (proceeds_labels fit s).bind fun es => ?_
      refine (proceeds_accept _).bind fun guarded => ?_
      split
      · exact (yields_condition fit s).bind fun e he => .pure he
      · exact .pure spelled_always

theorem spelled_stmtExpr {stmt : Stmt} (h : stmt.Spelled words) : (stmtExpr stmt).Spelled words := by
  unfold stmtExpr
  split
  · cases h
    assumption
  · cases h
    exact .block ‹_›
  · exact .block (List.forall_mem_singleton.mpr h)

/-- A case whose condition and expression are spelled in `words`. -/
def SpelledCase (words : String → Prop) (c : List Value × Expr × Expr) : Prop :=
  c.2.1.Spelled words ∧ c.2.2.Spelled words

theorem yields_switchCases (fit : self.Fit words) (s : Setting) {fuel : Nat} {last : Option Place}
    {seen : List (List Value × Expr × Expr)} (hseen : ∀ c ∈ seen, SpelledCase words c) :
    Yields words (switchCases self s fuel last seen) fun cases => ∀ c ∈ cases, SpelledCase words c := by
  -- Along the loop over cases, which keeps that those seen so far are spelled.
  induction fuel generalizing last seen with
  | zero => exact .pure (forall_mem_reverse hseen)
  | succ fuel ih =>
    refine yields_peek.bind fun l _ => ?_
    split
    · exact yields_take.bind fun _ _ => .pure (forall_mem_reverse hseen)
    · exact yields_refuse _ _
    · refine (yields_caseHead fit s last).bind fun head hguard => ?_
      obtain ⟨es, guard⟩ := head
      refine (proceeds_expect _ _).bind fun _ => (proceeds_deeper _ _).bind fun deep => ?_
      refine (fit.stmt _).bind fun stmt hstmt => (proceeds_mapM fun e _ => proceeds_label e).bind fun values => ?_
      extract_lets isRange last cases goOn
      have rest (u : Unit) :
          Yields words (goOn u) fun cases => ∀ c ∈ cases, SpelledCase words c := by
        have more : ∀ c ∈ (values, guard, stmtExpr stmt) :: seen, SpelledCase words c :=
          List.forall_mem_cons.mpr ⟨⟨hguard, spelled_stmtExpr hstmt⟩, hseen⟩
        refine yields_peek.bind fun next _ => ?_
        split
        · exact yields_take.bind fun _ _ => ih more
        · split
          · exact ih more
          · split
            · exact yields_refuse _ _
            · exact yields_refuseToken _ _
      split
      · split
        · exact Proceeds.bind (yields_refuse _ _) rest
        · exact rest ()
      · exact rest ()

theorem yields_switch (fit : self.Fit words) (s : Setting) (place : Place) :
    Yields words (switch self s place) (·.Spelled words) := by
  refine (fit.expr s).bind fun e he => (proceeds_expect _ _).bind fun _ => proceeds_stepsLeft.bind fun _ => ?_
  refine (yields_switchCases fit s (List.forall_mem_nil _)).bind fun cases hcases => ?_
  exact .pure (.switch he (fun c hc => (hcases c hc).1) fun c hc => (hcases c hc).2)

theorem yields_whileLoop (fit : self.Fit words) (s : Setting) (place : Place) :
    Yields words (whileLoop self s place) (·.Spelled words) := by
  refine (yields_condition fit s).bind fun e he => (yields_block fit _).bind fun body hbody => ?_
  exact .pure (.loop (by simpa using he) hbody)

theorem yields_endlessLoop (fit : self.Fit words) (s : Setting) (place : Place) :
    Yields words (endlessLoop self s place) (·.Spelled words) :=
  (yields_block fit _).bind fun _ hbody => .pure (.loop (by simp) hbody)

theorem yields_againLoop (fit : self.Fit words) (s : Setting) (place : Place) :
    Yields words (againLoop self s place) (·.Spelled words) := by
  refine (yields_block fit _).bind fun body hbody => yields_take.bind fun l _ => ?_
  split
  · exact (yields_condition fit _).bind fun e he => .pure (.again hbody he)
  · exact (yields_condition fit _).bind fun e he => .pure (.again hbody he)
  · exact yields_refuseToken _ _

theorem yields_eachLoop (fit : self.Fit words) (s : Setting) (place : Place) :
    Yields words (eachLoop self s place) (·.Spelled words) := by
  refine (proceeds_accept _).bind fun counted => ?_
  extract_lets goOn
  have rest (p : String × Option String) : Yields words (goOn p) (·.Spelled words) := by
    obtain ⟨name, counter⟩ := p
    refine (proceeds_expect _ _).bind fun _ => proceeds_ensureNoBlock.bind fun _ => ?_
    refine (fit.expr s).bind fun items hitems => (yields_ensureItems hitems).bind fun items hitems => ?_
    refine Yields.bind (Yields.inScope ?_) fun p hp => .pure (.each hitems hp)
    extract_lets inside
    have body (u : Unit) : Yields words (inside u) fun p => ∀ s ∈ p.1, s.Spelled words :=
      (proceeds_declare _ _).bind fun _ => yields_block fit _
    split
    · exact (proceeds_declare _ _).bind body
    · exact body ()
  split
  · refine yields_variableName.bind fun ⟨name, _⟩ _ => (proceeds_expect _ _).bind fun _ => ?_
    refine yields_variableName.bind fun ⟨counter, here⟩ _ => ?_
    dsimp only
    split
    · exact Proceeds.bind (yields_refuse _ _) fun _ => (proceeds_expect _ _).bind fun _ => rest (name, some counter)
    · exact (proceeds_expect _ _).bind fun _ => rest (name, some counter)
  · exact yields_variableName.bind fun ⟨name, _⟩ _ => rest (name, none)

theorem yields_compound? (fit : self.Fit words) (s : Setting) :
    Yields words (compound? self s) fun stmt? => ∀ stmt ∈ stmt?, stmt.Spelled words := by
  refine yields_peek.bind fun l _ => ?_
  extract_lets behind
  have taken {part : Setting → Place → Parse Stmt} (h : ∀ s place, Yields words (part s place) (·.Spelled words)) :
      Yields words (behind part) fun stmt? => ∀ stmt ∈ stmt?, stmt.Spelled words := by
    refine (proceeds_deeper _ _).bind fun s => yields_take.bind fun _ _ => (h _ _).bind fun stmt hstmt => ?_
    exact .pure (by simpa using hstmt)
  split
  · exact taken fun s place => proceeds_stepsLeft.bind fun fuel => yields_choice fit s fuel place
  · exact taken (yields_switch fit)
  · exact taken (yields_whileLoop fit)
  · exact taken (yields_endlessLoop fit)
  · exact taken (yields_againLoop fit)
  · exact taken (yields_eachLoop fit)
  · exact .pure (by simp)

/-! ## Chains -/

theorem proceeds_ensureIndex (object index : Expr) (bracket : Place) :
    Proceeds words (ensureIndex object index bracket) := by
  unfold ensureIndex
  repeat' split
  all_goals first
    | exact yields_refuse _ _
    | exact .pure trivial

theorem yields_member (fit : self.Fit words) (s : Setting) (dot : Place) (optional : Bool) :
    Yields words (member self s dot optional) (·.Spelled words) := by
  refine yields_take.bind fun l fits => ?_
  extract_lets link
  have linked {name : String} (h : words name) : Yields words (link name) (·.Spelled words) := by
    refine proceeds_opensCall.bind fun opens => ?_
    split
    · split
      · exact yields_refuse _ _
      · exact (yields_call fit s _ _).bind fun args hargs => .pure (.method h hargs)
    · exact .pure .property
  split
  -- A word of the text, or a keyword that may stand for a method.
  · next name token =>
    rw [token] at fits
    refine (linked (fits name rfl)).bind fun link hlink => yields_peek.bind fun next _ => ?_
    split
    · exact yields_refuse _ _
    · exact .pure hlink
  · next word token =>
    rw [token] at fits
    split
    · exact linked (fits word rfl)
    · exact yields_refuse _ _
  · exact yields_refuse _ _

theorem yields_links (fit : self.Fit words) {root : Expr} (hroot : root.Spelled words) {fuel : Nat}
    (s : Setting) (indexed : Nat) {seen : List Link} (hseen : ∀ l ∈ seen, l.Spelled words) :
    Yields words (links self root fuel s indexed seen) (·.Spelled words) := by
  induction fuel generalizing s indexed seen with
  | zero => exact .pure (.chain hroot (forall_mem_reverse hseen))
  | succ fuel ih =>
    refine yields_peek.bind fun l _ => ?_
    -- A dot with a member, a bracket with an index, or the end of the chain.
    split
    case h_1 | h_2 =>
      refine yields_take.bind fun _ _ => (proceeds_deeper _ _).bind fun s => ?_
      refine (yields_member fit _ _ _).bind fun link hlink => ?_
      exact ih _ _ (List.forall_mem_cons.mpr ⟨hlink, hseen⟩)
    case h_3 | h_4 =>
      refine yields_take.bind fun _ _ => (proceeds_deeper _ _).bind fun inner => ?_
      refine (fit.expr _).bind fun e he => ?_
      extract_lets goOn
      have rest (u : Unit) : Yields words (goOn u) (·.Spelled words) := by
        refine yields_take.bind fun next _ => ?_
        split
        · exact ih _ _ (List.forall_mem_cons.mpr ⟨.index he, hseen⟩)
        · exact yields_refuseToken _ _
      split
      · exact (proceeds_ensureIndex _ _ _).bind rest
      · exact rest ()
    case h_5 =>
      split
      · exact .pure hroot
      · exact .pure (.chain hroot (forall_mem_reverse hseen))

/-! ## Operands -/

theorem yields_qualifiedName (fit : self.Fit words) (s : Setting) (place : Place) {fuel : Nat}
    (path last : String) : Yields words (qualifiedName self s place fuel path last) (·.Spelled words) := by
  induction fuel generalizing path last with
  | zero => exact .pure .qualified
  | succ fuel ih =>
    refine (proceeds_accept _).bind fun more => ?_
    split
    · exact yields_variableName.bind fun ⟨name, _⟩ _ => ih _ name
    · refine proceeds_opensCall.bind fun opens => ?_
      split
      · exact (yields_call fit s _ _).bind fun args _ => .pure .qualified
      · exact .pure .qualified

theorem yields_named (fit : self.Fit words) (s : Setting) {name : String} (h : words name) (place : Place) :
    Yields words (named self s name place) (·.Spelled words) := by
  refine yields_peek.bind fun next _ => ?_
  split
  case h_1 | h_2 => exact (yields_call fit s _ _).bind fun args hargs => .pure (.call h hargs)
  case h_3 => exact proceeds_stepsLeft.bind fun _ => yields_qualifiedName fit s _ _ _
  case h_4 => exact (proceeds_mention h place).bind fun _ => .pure (.var h)

theorem yields_grouped (fit : self.Fit words) (s : Setting) (place : Place) :
    Yields words (grouped self s place) (·.Spelled words) := by
  refine (proceeds_deeper _ _).bind fun s => yields_take.bind fun _ _ => (proceeds_accept _).bind fun empty => ?_
  split
  · exact .pure (.const trivial)
  · exact (fit.expr s).bind fun e he => (proceeds_expect _ _).bind fun _ => .pure he

theorem yields_reservedOperand (fit : self.Fit words) (s : Setting) {word : String} (h : words word)
    (place : Place) : Yields words (reservedOperand self s word place) (·.Spelled words) := by
  refine proceeds_opensCall.bind fun opens => ?_
  split
  · exact (yields_call fit s _ _).bind fun args hargs => .pure (.call h hargs)
  · split
    · split
      · exact .pure .this
      · exact yields_refuse _ _
    · exact yields_refuse _ _

theorem yields_operandRoot (fit : self.Fit words) (s : Setting) :
    Yields words (operandRoot self s) (·.Spelled words) := by
  refine (yields_compound? fit s).bind fun stmt? hstmt => ?_
  split
  · next stmt => exact .pure (.block (List.forall_mem_singleton.mpr (hstmt stmt rfl)))
  refine yields_peek.bind fun l fits => ?_
  extract_lets literal
  have taken {v : Value} (h : v.Harmless) : Yields words (literal v) (·.Spelled words) :=
    yields_take.bind fun _ _ => .pure (.const h)
  split
  · exact yields_refuse _ _
  · exact taken trivial
  · exact taken trivial
  · exact taken trivial
  · exact taken trivial
  · exact taken trivial
  · exact taken trivial
  · exact taken trivial
  · refine (proceeds_deeper _ _).bind fun s => (yields_block fit s).bind fun ⟨stmts, place⟩ hstmts => ?_
    exact .pure (.block hstmts)
  · exact yields_grouped fit s _
  case h_11 | h_12 =>
    split
    · exact yields_refuse _ _
    · exact yields_closure fit s _
  · refine yields_take.bind fun _ _ => (proceeds_deeper _ _).bind fun s => proceeds_stepsLeft.bind fun _ => ?_
    refine (yields_textParts fit s (spelled_textPart _ _)).bind fun parts hparts => .pure ?_
    split
    · exact .const trivial
    · exact .text hparts
  · refine (proceeds_deeper _ _).bind fun s => yields_take.bind fun _ _ => proceeds_stepsLeft.bind fun _ => ?_
    exact (yields_arrayItems fit s _ (List.forall_mem_nil _)).bind fun items hitems => .pure (.array hitems)
  · refine (proceeds_deeper _ _).bind fun s => yields_take.bind fun _ _ => proceeds_stepsLeft.bind fun _ => ?_
    exact (yields_mapMembers fit s _ (List.forall_mem_nil _)).bind fun members hmembers => .pure (.map hmembers)
  · next name token =>
    rw [token] at fits
    exact yields_take.bind fun _ _ => yields_named fit s (fits name rfl) _
  · next word token =>
    rw [token] at fits
    exact yields_take.bind fun _ _ => yields_reservedOperand fit s (fits word rfl) _
  · exact yields_refuseToken _ _

theorem yields_operand (fit : self.Fit words) (s : Setting) :
    Yields words (operand self s) (·.Spelled words) := by
  refine (yields_operandRoot fit s).bind fun root hroot => proceeds_stepsLeft.bind fun _ => ?_
  exact yields_links fit hroot _ _ (List.forall_mem_nil _)

theorem spelled_negate? (e : Expr) (place : Place) : ∀ n ∈ negate? e place, n.Spelled words := by
  intro n hn
  unfold negate? at hn
  split at hn
  · cases hn
    split <;> exact .const trivial
  · cases hn
    exact .const trivial
  · cases hn

theorem yields_unary (fit : self.Fit words) (s : Setting) : Yields words (unary self s) (·.Spelled words) := by
  refine yields_peek.bind fun l _ => ?_
  split
  · refine yields_take.bind fun _ _ => (proceeds_deeper _ _).bind fun s => (fit.unary s).bind fun e he => ?_
    cases hneg : negate? e l.place with
    | none => exact .pure (.signed he)
    | some n => exact .pure (spelled_negate? e l.place n hneg)
  · refine yields_take.bind fun _ _ => (proceeds_deeper _ _).bind fun s => (fit.unary s).bind fun e he => ?_
    split
    · exact .pure he
    · exact .pure he
    · exact .pure (.signed he)
  · refine yields_take.bind fun _ _ => (proceeds_deeper _ _).bind fun s => (fit.unary s).bind fun e he => ?_
    exact .pure (.signed he)
  · exact yields_operand fit s

/-! ## Operators -/

theorem proceeds_nextPrecedence (s : Setting) : Proceeds words (nextPrecedence s) := by
  refine yields_peek.bind fun l _ => ?_
  split
  · split
    · exact .pure trivial
    · exact yields_refuse _ _
  · exact .pure trivial
  · exact .pure trivial

theorem yields_join (operator : Lexeme) {left right : Expr} (hleft : left.Spelled words)
    (hright : right.Spelled words) : Yields words (join operator left right) (·.Spelled words) := by
  unfold join
  extract_lets place both
  have joined (j : Junction) : Yields words (both j) (·.Spelled words) := by
    refine (yields_ensureCondition hright).bind fun r hr => (yields_ensureCondition hleft).bind fun l hl => ?_
    exact .pure (.junction hl hr)
  split
  · exact joined _
  · exact joined _
  · exact .pure (.junction hleft hright)
  · exact .pure (.within hright hleft)
  · exact .pure (.within hright hleft)
  · split
    · exact .pure (.binary hleft hright)
    · exact yields_refuse _ _

theorem yields_binary (fit : self.Fit words) {fuel : Nat} (s : Setting) (least : Nat) (place : Place)
    {left : Expr} (hleft : left.Spelled words) :
    Yields words (binary self fuel s least place left) (·.Spelled words) := by
  induction fuel generalizing s least place left with
  | zero => exact .pure hleft
  | succ fuel ih =>
    refine (proceeds_nextPrecedence s).bind fun ⟨token, current⟩ => ?_
    dsimp only
    split
    · exact .pure hleft
    · refine yields_take.bind fun operator _ => (yields_unary fit s).bind fun right hright => ?_
      refine (proceeds_nextPrecedence s).bind fun ⟨_, next⟩ => ?_
      have rest {right : Expr} (hright : right.Spelled words) : Yields words
          (do
            let s ← deeper s place
            let e ← join operator left right
            binary self fuel s least operator.place e) (·.Spelled words) :=
        (proceeds_deeper _ _).bind fun s => (yields_join operator hleft hright).bind fun e he => ih _ _ _ he
      split
      · exact (ih _ _ _ hright).bind fun right hright => rest hright
      · exact rest hright

theorem yields_expr (fit : self.Fit words) (s : Setting) : Yields words (expr self s) (·.Spelled words) := by
  refine yields_peek.bind fun l _ => (proceeds_deeper _ _).bind fun s => (yields_unary fit s).bind fun left hleft => ?_
  exact proceeds_stepsLeft.bind fun _ => yields_binary fit s _ _ hleft

/-! ## Statements -/

theorem proceeds_ensureTarget (target : Expr) (op : Option Operator) (place : Place) :
    Proceeds words (ensureTarget target op place) := by
  unfold ensureTarget
  split
  case h_2 =>
    refine yields_get.bind fun r _ => ?_
    split
    · exact yields_refuse _ _
    · exact .pure trivial
  all_goals repeat' split
  all_goals first
    | exact yields_refuse _ _
    | exact .pure trivial

theorem yields_exprStmt (fit : self.Fit words) (s : Setting) :
    Yields words (exprStmt self s) (·.Spelled words) := by
  refine yields_peek.bind fun l _ => (proceeds_deeper _ _).bind fun s => (fit.expr s).bind fun target htarget => ?_
  refine yields_peek.bind fun l _ => ?_
  extract_lets inner assign
  have assigned (op : Option Operator) : Yields words (assign op) (·.Spelled words) := by
    refine yields_take.bind fun _ _ => (fit.expr _).bind fun value hvalue => ?_
    exact (proceeds_ensureTarget _ _ _).bind fun _ => .pure (.assign htarget hvalue)
  split
  · exact assigned _
  · split
    · exact assigned _
    · exact .pure (.expr htarget)
  · exact .pure (.expr htarget)

theorem yields_definition (fit : self.Fit words) (s : Setting) (constant : Bool) (place : Place) :
    Yields words (definition self s constant place) (·.Spelled words) := by
  refine yields_variableName.bind fun ⟨name, _⟩ _ => (proceeds_accept _).bind fun given => ?_
  extract_lets goOn
  have rest {value : Expr} (h : value.Spelled words) : Yields words (goOn value) (·.Spelled words) :=
    (proceeds_declare _ _).bind fun _ => .pure (.define h)
  split
  · exact (fit.expr s).bind fun value hvalue => rest hvalue
  · exact rest (.const trivial)

theorem yields_optionalValue (fit : self.Fit words) (s : Setting) (braceEnds : Bool) (place : Place) :
    Yields words (optionalValue self s braceEnds place) fun e? => ∀ e ∈ e?, e.Spelled words := by
  refine yields_peek.bind fun l _ => ?_
  split
  · exact .pure (by simp)
  · exact .pure (by simp)
  · split
    · exact .pure (by simp)
    · refine (proceeds_deeper _ _).bind fun s => (fit.expr s).bind fun e he => .pure ?_
      simpa using he

theorem yields_attempt (fit : self.Fit words) (s : Setting) (place : Place) :
    Yields words (attempt self s place) (·.Spelled words) := by
  refine (yields_block fit s).bind fun ⟨body, _⟩ hbody => (proceeds_expect _ _).bind fun _ => ?_
  refine Yields.inScope ((proceeds_accept _).bind fun named => ?_)
  extract_lets goOn
  have rest (caught : Option String) : Yields words (goOn caught) (·.Spelled words) :=
    (yields_block fit s).bind fun ⟨handler, _⟩ hhandler => .pure (.attempt hbody hhandler)
  split
  · refine yields_variableName.bind fun ⟨name, _⟩ _ => (proceeds_expect _ _).bind fun _ => ?_
    exact (proceeds_declare _ _).bind fun _ => rest (some name)
  · exact rest none

theorem yields_stmt (fit : self.Fit words) (s : Setting) : Yields words (stmt self s) (·.Spelled words) := by
  refine yields_peek.bind fun l fits => ?_
  have defined (s : Setting) : Yields words
      (do
        function self s
        pure (Stmt.nothing l.place)) (·.Spelled words) :=
    (proceeds_function fit s).bind fun _ => .pure .nothing
  dsimp only
  split
  · exact .pure .nothing
  · exact yields_take.bind fun _ _ => .pure .nothing
  · refine (proceeds_deeper _ _).bind fun s => (yields_block fit s).bind fun ⟨stmts, _⟩ hstmts => ?_
    exact .pure (.block hstmts)
  case h_4 | h_5 =>
    split
    · refine yields_take.bind fun _ _ => ?_
      split
      · exact (proceeds_expect _ _).bind fun _ => defined _
      · exact defined _
    · exact yields_refuse _ _
  · split
    · exact yields_take.bind fun _ _ => .pure .next
    · exact yields_refuse _ _
  · next token =>
    rw [token] at fits
    split
    · refine yields_take.bind fun _ _ => (yields_optionalValue fit s _ _).bind fun value hvalue => ?_
      exact .pure (.leave (fits _ rfl) hvalue)
    · exact yields_refuse _ _
  · next token =>
    rw [token] at fits
    refine yields_take.bind fun _ _ => (yields_optionalValue fit s _ _).bind fun value hvalue => ?_
    exact .pure (.give (fits _ rfl) hvalue)
  · refine yields_take.bind fun _ _ => (yields_optionalValue fit s _ _).bind fun value hvalue => ?_
    exact .pure (.throw hvalue)
  · exact (proceeds_deeper _ _).bind fun s => yields_take.bind fun _ _ => yields_attempt fit s _
  · exact (proceeds_deeper _ _).bind fun s => yields_take.bind fun _ _ => yields_definition fit s _ _
  · exact (proceeds_deeper _ _).bind fun s => yields_take.bind fun _ _ => yields_definition fit s _ _
  · refine (yields_compound? fit s).bind fun stmt? hstmt => ?_
    split
    · next stmt => exact .pure (hstmt stmt rfl)
    · exact yields_exprStmt fit s

end Grammar

/-! ## Whole scripts -/

theorem fit_next {parsers : Parsers} (fit : parsers.Fit words) : parsers.next.Fit words where
  expr := Grammar.yields_expr fit
  unary := Grammar.yields_unary fit
  stmt := Grammar.yields_stmt fit

/-- The readers of every level yield trees spelled in the words of the tokens. -/
theorem fit_parsersTo (words : String → Prop) (levels : Nat) : (parsersTo levels).Fit words := by
  induction levels with
  | zero =>
    have none {α : Type} {good : α → Prop} :
        Yields words (do refuse .tooComplex (← peek).place) good := yields_peek.bind fun _ _ => yields_refuse _ _
    exact ⟨fun _ => none, fun _ => none, fun _ => none⟩
  | succ levels ih => exact fit_next ih

theorem yields_scriptItems {parsers : Parsers} (fit : parsers.Fit words) {fuel : Nat} {seen : List Stmt}
    (hseen : ∀ s ∈ seen, s.Spelled words) :
    Yields words (scriptItems parsers fuel seen) fun stmts => ∀ s ∈ stmts, s.Spelled words := by
  induction fuel generalizing seen with
  | zero => exact .pure (forall_mem_reverse hseen)
  | succ fuel ih =>
    refine (proceeds_isNext _).bind fun ended => ?_
    split
    · exact .pure (forall_mem_reverse hseen)
    · refine (fit.stmt _).bind fun stmt hstmt => ?_
      have more : ∀ s ∈ stmt :: seen, s.Spelled words := List.forall_mem_cons.mpr ⟨hstmt, hseen⟩
      split
      · exact ih hseen
      · refine yields_peek.bind fun l _ => ?_
        split
        · exact ih more
        · split
          · exact yields_take.bind fun _ _ => ih more
          · exact yields_refuseToken _ _

/-- A script that is read is spelled in the words of its text. -/
theorem spelled_parse {text : String} {taken : Nat} {p : Program} (h : parse text taken = .ok p)
    (hwords : ∀ w : String, w.toList <:+: text.toList → words w) : p.Spelled words := by
  have begun : Reading.Fits words ⟨lexemes text, taken, [], [], []⟩ :=
    ⟨fun l hl w hw => hwords w (standsIn_lexemes text l hl w hw), List.forall_mem_nil _, List.forall_mem_nil _⟩
  simp only [parse] at h
  cases hrun : (scriptItems (parsersTo levels) ((lexemes text).length + 1) []).run
      ⟨lexemes text, taken, [], [], []⟩ with
  | error refusal =>
    rw [hrun] at h
    cases h
  | ok read =>
    obtain ⟨body, reading⟩ := read
    rw [hrun] at h
    cases h
    obtain ⟨hbody, fits⟩ :=
      yields_scriptItems (fit_parsersTo words levels) (List.forall_mem_nil _) _ body reading begun hrun
    exact ⟨hbody, fits.functions⟩

end Fixtures.Script
