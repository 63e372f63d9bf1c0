import Fixtures.Proofs.Sdl.Literals
import Fixtures.Script.Session
import Mathlib.Data.List.Forall2

/-!
# Literals in scripts

The text of a literal of the schema language, other than a string, is a script: `Session.evaluate_literal`
evaluates it to the value that the literal stands for.

## Shape of the proof

One lemma for each stage. `lexes_constant`: the text is read as the tokens of the literal, wherever it stands.
`parse_literal`: these are a script that is one expression. `Simplify.expr` makes a value of it, which takes two
operations and nothing else of the state.
-/

namespace Fixtures

open Script (Token Value)
open Text (intDigits natDigits isDigit)

namespace Scalar

/-- The token of a script. -/
def scriptToken : Scalar → Token
  | int n => .int n
  | bool b => .word (toString b)

/-- The value of a script. -/
def value : Scalar → Value
  | int n => .int n
  | bool b => .bool b

theorem toJson_value (x : Scalar) : x.value.toJson = x.json := by cases x <;> rfl

end Scalar

namespace Constant

/-- The tokens of further items up to the closing bracket. -/
def closingTokens : List Scalar → List Token
  | [] => [.mark "]"]
  | x :: xs => .mark "," :: x.scriptToken :: closingTokens xs

/-- The tokens of all items up to the closing bracket. -/
def itemTokens : List Scalar → List Token
  | [] => [.mark "]"]
  | x :: xs => x.scriptToken :: closingTokens xs

/-- The tokens of a script. -/
def scriptTokens : Constant → List Token
  | scalar x => [x.scriptToken]
  | list xs => .mark "[" :: itemTokens xs

/-- The value of a script. -/
def value : Constant → Value
  | scalar x => x.value
  | list xs => .array (xs.map Scalar.value)

theorem toJson_value (c : Constant) : c.value.toJson = c.json := by
  cases c with
  | scalar x => exact x.toJson_value
  | list xs =>
    have items (xs : List Scalar) : Value.itemsToJson (xs.map Scalar.value) = xs.map Scalar.json := by
      induction xs with
      | nil => rfl
      | cons x rest ih => rw [List.map_cons, Value.itemsToJson, ih, x.toJson_value, List.map_cons]
    exact congrArg Json.array (items xs)

end Constant

namespace Script

namespace Lexer

/-! ## Tokens -/

/-- A text is read as the given tokens, outside of quoted text; `operand` says whether an operand is expected. -/
def Lexes (operand : Bool) (text : List Char) (tokens : List Token) : Prop :=
  ∀ fuel place seen, text.length < fuel → ∃ lexemes,
    lexemesFrom fuel ⟨text, place, operand, []⟩ seen = seen.reverse ++ lexemes ∧ lexemes.map (·.token) = tokens

theorem lexes_nil (operand : Bool) : Lexes operand [] [.finish] := by
  intro fuel place seen enough
  obtain ⟨fuel, rfl⟩ := Nat.exists_eq_add_of_le' enough
  exact ⟨[⟨.finish, place.next⟩], by simp [lexemesFrom, step], rfl⟩

/-- A token and what is read behind it. -/
theorem Lexes.token {operand operand' : Bool} {text rest : List Char} {token : Token} {tokens : List Token}
    (h : ∀ place, ∃ here place',
      step ⟨text, place, operand, []⟩ = .read [⟨token, here⟩] ⟨rest, place', operand', []⟩)
    (shorter : rest.length < text.length) (others : Lexes operand' rest tokens) :
    Lexes operand text (token :: tokens) := by
  intro fuel place seen enough
  obtain ⟨fuel, rfl⟩ := Nat.exists_eq_add_of_le' (Nat.le_trans (Nat.succ_pos _) enough)
  obtain ⟨here, place', stepped⟩ := h place
  obtain ⟨lexemes, read, same⟩ := others fuel place' (⟨token, here⟩ :: seen) (by omega)
  refine ⟨⟨token, here⟩ :: lexemes, ?_, by rw [List.map_cons, same]⟩
  rw [lexemesFrom, stepped]
  simpa using read

/-- A blank is passed over. -/
theorem Lexes.blank {operand : Bool} {text : List Char} {tokens : List Token} (others : Lexes operand text tokens) :
    Lexes operand (' ' :: text) tokens := by
  intro fuel place seen enough
  obtain ⟨fuel, rfl⟩ := Nat.exists_eq_add_of_le' (Nat.le_trans (Nat.succ_pos _) enough)
  obtain ⟨lexemes, read, same⟩ := others fuel place.next seen (by rw [List.length_cons] at enough; omega)
  exact ⟨lexemes, read, same⟩

theorem lexes_comma {text : List Char} {tokens : List Token} (others : Lexes true text tokens) :
    Lexes false (',' :: ' ' :: text) (.mark "," :: tokens) :=
  .token (fun _ => ⟨_, _, rfl⟩) (Nat.lt_succ_self _) others.blank

theorem lexes_opening {text : List Char} {tokens : List Token} (others : Lexes true text tokens) :
    Lexes true ('[' :: text) (.mark "[" :: tokens) := by
  refine .token (fun place => ?_) (Nat.lt_succ_self _) others
  cases text <;> exact ⟨_, _, rfl⟩

/-- A list ends the text. -/
theorem lexes_closing (operand : Bool) : Lexes operand [']'] [.mark "]", .finish] :=
  .token (fun _ => ⟨_, _, rfl⟩) (Nat.lt_succ_self _) (lexes_nil false)

/-- Nothing that a number or a word goes on with: the end, a comma or a closing bracket. -/
def Closes (text : List Char) : Prop := ∀ c ∈ text.head?, c = ',' ∨ c = ']'

theorem numeralTail_digits {digits more : List Char} (h : ∀ c ∈ digits, isDigit c = true) (closes : Closes more)
    (text : List Char) (count : Nat) :
    ∃ count', numeralTail false false text count (digits ++ more) = (digits.reverse ++ text, count', more) := by
  induction digits generalizing text count with
  | nil =>
    refine ⟨count, ?_⟩
    cases more with
    | nil => rfl
    | cons c rest => rcases closes c rfl with rfl | rfl <;> rfl
  | cons c rest ih =>
    have digit := h c List.mem_cons_self
    obtain ⟨count', read⟩ := ih (fun d hd => h d (List.mem_cons_of_mem _ hd)) (c :: text) (count + 1)
    refine ⟨count', ?_⟩
    rw [List.reverse_cons, List.append_assoc, List.singleton_append, ← read, List.cons_append]
    have other {d : Char} (hd : isDigit d = false) : c ≠ d := Text.digit_ne digit hd
    have underscore := other (d := '_') (by decide)
    have point := other (d := '.') (by decide)
    have mark := other (d := 'e') (by decide)
    rw [numeralTail.eq_def]
    split <;> simp_all

theorem decimalToken_natDigits {negative : Bool} {n : Nat} {m : Int64}
    (value : (if negative then -(n : Int) else n) = m.toInt) :
    decimalToken negative (natDigits n) = .int m := by
  have read : Text.readNat? (natDigits n) = some n := Text.readBase?_natDigits n
  have whole : ((do let a ← some n; pure (a : Int)) : Option Int) = some (n : Int) := rfl
  have kept : Option.filter Text.isInt64 (some (if negative then -(n : Int) else n)) = some m.toInt := by
    rw [value, Option.filter_some, if_pos (Sdl.isInt64_toInt m)]
  unfold decimalToken
  rw [read, whole, Option.map_some, kept]
  dsimp only
  rw [m.ofInt_toInt]

theorem number_natDigits {c : Char} {digits more : List Char} {negative : Bool} {n : Nat} {m : Int64}
    (spelled : natDigits n = c :: digits) (closes : Closes more)
    (value : (if negative then -(n : Int) else n) = m.toInt) :
    ∃ count, number negative c (digits ++ more) = (.int m, count, more) := by
  have digital (d : Char) (hd : d ∈ c :: digits) : isDigit d = true := Text.isDigit_of_mem_natDigits (spelled ▸ hd)
  obtain ⟨count, tail⟩ := numeralTail_digits (fun d hd => digital d (List.mem_cons_of_mem _ hd)) closes [c] 0
  refine ⟨count, ?_⟩
  -- Behind a zero alone stands no letter of a base.
  have plain : c = '0' → digits = [] := by
    rintro rfl
    match n, spelled with
    | 0, spelled => exact (List.cons.inj spelled).2.symm
    | n + 1, spelled =>
      have head := Text.head_natDigits_ne (Nat.succ_pos n)
      rw [Nat.succ_eq_add_one, spelled] at head
      exact absurd rfl head
  unfold number
  dsimp only
  split
  · next based =>
    split at based
    · next zero =>
      rw [plain zero, List.nil_append] at based
      cases more with
      | nil => cases based
      | cons d rest => rcases closes d rfl with rfl | rfl <;> cases based
    · cases based
  · rw [tail]
    simp [← spelled, decimalToken_natDigits value]

/-- A number is read as far as its digits go. -/
theorem step_digits {c : Char} {digits more : List Char} {n : Nat} {m : Int64} (spelled : natDigits n = c :: digits)
    (closes : Closes more) (value : (n : Int) = m.toInt) (operand : Bool) (place : Place) :
    ∃ here place', step ⟨c :: (digits ++ more), place, operand, []⟩ =
      .read [⟨.int m, here⟩] ⟨more, place', false, []⟩ := by
  have digit : isDigit c = true := Text.isDigit_of_mem_natDigits (spelled ▸ List.mem_cons_self)
  have whole : (if false then -(n : Int) else n) = m.toInt := value
  obtain ⟨count, read⟩ := number_natDigits spelled closes whole
  refine ⟨place.next, ⟨place.next.line, place.next.column + count⟩, ?_⟩
  have other {d : Char} (hd : isDigit d = false) : c ≠ d := Text.digit_ne digit hd
  have line := other (d := '\n') (by decide)
  have slash := other (d := '/') (by decide)
  unfold step
  split <;> simp_all [numberStep]

theorem step_minus {c : Char} {digits more : List Char} {n : Nat} {m : Int64} (spelled : natDigits n = c :: digits)
    (closes : Closes more) (value : -(n : Int) = m.toInt) (place : Place) :
    ∃ here place', step ⟨'-' :: c :: (digits ++ more), place, true, []⟩ =
      .read [⟨.int m, here⟩] ⟨more, place', false, []⟩ := by
  have digit : isDigit c = true := Text.isDigit_of_mem_natDigits (spelled ▸ List.mem_cons_self)
  have whole : (if true then -(n : Int) else n) = m.toInt := value
  obtain ⟨count, read⟩ := number_natDigits spelled closes whole
  refine ⟨place.next, ⟨place.next.next.line, place.next.next.column + count⟩, ?_⟩
  have signed : step ⟨'-' :: c :: (digits ++ more), place, true, []⟩ =
      numberStep ⟨'-' :: c :: (digits ++ more), place, true, []⟩ place.next place.next.next true c
        (digits ++ more) := by
    have sign : isDigit '-' = false ∧ Text.isBlank '-' = false := by decide
    simp [step, digit, sign]
  rw [signed, numberStep, read]

/-- A truth value is read as its word. -/
theorem step_bool (b : Bool) {more : List Char} (closes : Closes more) (operand : Bool) (place : Place) :
    ∃ here place', step ⟨(toString b).toList ++ more, place, operand, []⟩ =
      .read [⟨.word (toString b), here⟩] ⟨more, place', false, []⟩ := by
  match more, closes with
  | [], _ => cases b <;> exact ⟨_, _, rfl⟩
  | d :: rest, closes => rcases closes d rfl with rfl | rfl <;> cases b <;> exact ⟨_, _, rfl⟩

theorem lexes_scalar (x : Scalar) {more : List Char} {tokens : List Token} (closes : Closes more)
    (others : Lexes false more tokens) : Lexes true (x.literal.renderChars ++ more) (x.scriptToken :: tokens) := by
  cases x with
  | bool b =>
    refine .token (step_bool b closes true) ?_ others
    rw [List.length_append]
    exact Nat.lt_add_of_pos_left (by cases b <;> decide)
  | int m =>
    show Lexes true (intDigits m.toInt ++ more) (.int m :: tokens)
    match value : m.toInt with
    | .ofNat n =>
      match spelled : natDigits n, Text.natDigits_ne_nil n with
      | c :: digits, _ =>
        rw [intDigits, spelled]
        exact .token (step_digits spelled closes value.symm true)
          (by simp only [List.cons_append, List.length_cons, List.length_append]; omega) others
    | .negSucc n =>
      match spelled : natDigits (n + 1), Text.natDigits_ne_nil (n + 1) with
      | c :: digits, _ =>
        rw [intDigits, spelled]
        exact .token (step_minus spelled closes value.symm) (by simp; omega) others

theorem closes_renderItems (xs : List Scalar) :
    Closes (Sdl.Literal.renderItems false (xs.map Scalar.literal) ++ [']']) := by
  intro c hc
  cases xs <;> cases hc <;> simp

/-- What stands behind an item of a list. -/
theorem lexes_renderItems (xs : List Scalar) :
    Lexes false (Sdl.Literal.renderItems false (xs.map Scalar.literal) ++ [']'])
      (Constant.closingTokens xs ++ [.finish]) := by
  induction xs with
  | nil => exact lexes_closing false
  | cons x rest ih =>
    have listed := lexes_comma (lexes_scalar x (closes_renderItems rest) ih)
    simpa [Sdl.Literal.renderItems, Constant.closingTokens] using listed

/-- The text of a literal is read as its tokens. -/
theorem lexes_constant (c : Constant) : Lexes true c.literal.renderChars (c.scriptTokens ++ [.finish]) := by
  cases c with
  | scalar x =>
    have ends : Closes [] := fun c none => nomatch none
    have read := lexes_scalar x ends (lexes_nil false)
    rwa [List.append_nil] at read
  | list xs =>
    cases xs with
    | nil => exact lexes_opening (lexes_closing true)
    | cons x rest =>
      have listed := lexes_opening (lexes_scalar x (closes_renderItems rest) (lexes_renderItems rest))
      simpa [Constant.literal, Sdl.Literal.renderChars, Sdl.Literal.renderItems, Constant.scriptTokens,
        Constant.itemTokens] using listed

end Lexer

/-! ## Expressions -/

namespace Parse

/-- A rule after another one, as far as the first one goes. -/
theorem bind_ok {α β : Type} {rule : Parse α} {next : α → Parse β} {r r' : Reading} {a : α}
    (h : rule r = .ok (a, r')) : (rule >>= next) r = next a r' := by
  show (rule r >>= fun p => next p.1 p.2) = _
  rw [h]
  rfl

theorem deeper_ok (r : Reading) {s : Setting} (fine : s.depth < s.limit) (place : Place) :
    deeper s place r = .ok ({ s with depth := s.depth + 1 }, r) := by
  rw [deeper, if_neg (by omega)]
  rfl

end Parse

open Parse

namespace Grammar

/-- A token at which an expression ends. -/
def EndsExpr (token : Token) : Prop := token = .mark "," ∨ token = .mark "]" ∨ token = .finish

section

variable (self : Parsers) (r : Reading) {more : List Lexeme}

theorem unary_scalar (s : Setting) (x : Scalar) (place : Place) {after : Lexeme} (ends : EndsExpr after.token) :
    unary self s { r with rest := ⟨x.scriptToken, place⟩ :: after :: more } =
      .ok (.const x.value place, { r with rest := after :: more }) := by
  obtain ⟨token, place'⟩ := after
  rcases ends with rfl | rfl | rfl <;> rcases x with n | b <;> (try cases b) <;> rfl

theorem binary_ends {after : Lexeme} (ends : EndsExpr after.token) (fuel : Nat) (s : Setting) (place : Place)
    (left : Expr) :
    binary self (fuel + 1) s 1 place left { r with rest := after :: more } =
      .ok (left, { r with rest := after :: more }) := by
  obtain ⟨token, place'⟩ := after
  rcases ends with rfl | rfl | rfl <;> rfl

/-- An expression that is an operand. -/
theorem expr_of_unary {s : Setting} (fine : s.depth < s.limit) {l after : Lexeme} {rest : List Lexeme}
    (ends : EndsExpr after.token) {e : Expr}
    (h : unary self { s with depth := s.depth + 1 } { r with rest := l :: rest } =
      .ok (e, { r with rest := after :: more })) :
    expr self s { r with rest := l :: rest } = .ok (e, { r with rest := after :: more }) := by
  have next : peek { r with rest := l :: rest } = .ok (l, { r with rest := l :: rest }) := rfl
  have steps : stepsLeft { r with rest := after :: more } =
      .ok (more.length + 2, { r with rest := after :: more }) := rfl
  unfold expr
  rw [bind_ok next, bind_ok (deeper_ok _ fine _), bind_ok h, bind_ok steps]
  exact binary_ends self r ends _ _ _ e

theorem expr_scalar {s : Setting} (fine : s.depth < s.limit) (x : Scalar) (place : Place) {after : Lexeme}
    (ends : EndsExpr after.token) :
    expr self s { r with rest := ⟨x.scriptToken, place⟩ :: after :: more } =
      .ok (.const x.value place, { r with rest := after :: more }) :=
  expr_of_unary self r fine ends (unary_scalar self r _ x place ends)

/-- A literal of a value without parts. -/
def IsLiteral (x : Scalar) (e : Expr) : Prop := ∃ place, e = .const x.value place

/-- An item of an array and the mark behind it. -/
theorem arrayItems_scalar {s : Setting} (fine : s.depth + 1 < s.limit) (place : Place) (x : Scalar)
    (here there : Place) (fuel : Nat) (seen : List Expr) (more : List Lexeme) :
    arrayItems self.next s place (fuel + 1) seen
        { r with rest := ⟨x.scriptToken, here⟩ :: ⟨.mark ",", there⟩ :: more } =
      arrayItems self.next s place fuel (.const x.value here :: seen) { r with rest := more } ∧
    arrayItems self.next s place (fuel + 1) seen
        { r with rest := ⟨x.scriptToken, here⟩ :: ⟨.mark "]", there⟩ :: more } =
      arrayItems self.next s place fuel (.const x.value here :: seen)
        { r with rest := ⟨.mark "]", there⟩ :: more } := by
  have first (token : Token) : peek { r with rest := ⟨x.scriptToken, here⟩ :: ⟨token, there⟩ :: more } =
      .ok (⟨x.scriptToken, here⟩, { r with rest := ⟨x.scriptToken, here⟩ :: ⟨token, there⟩ :: more }) := rfl
  have item (token : Token) (ends : EndsExpr token) :
      self.next.expr { s with depth := s.depth + 1 }
          { r with rest := ⟨x.scriptToken, here⟩ :: ⟨token, there⟩ :: more } =
        .ok (.const x.value here, { r with rest := ⟨token, there⟩ :: more }) :=
    expr_scalar self r fine x here ends
  -- The token of an item is neither the closing bracket nor the end, whatever the item is.
  constructor
  · rw [arrayItems, bind_ok (first _)]
    cases x
    all_goals
      dsimp only [Scalar.scriptToken] at item ⊢
      rw [bind_ok (deeper_ok _ (by omega) place), bind_ok (item _ (.inl rfl))]
      rfl
  · rw [arrayItems, bind_ok (first _)]
    cases x
    all_goals
      dsimp only [Scalar.scriptToken] at item ⊢
      rw [bind_ok (deeper_ok _ (by omega) place), bind_ok (item _ (.inr (.inl rfl)))]
      rfl

/-- The items of an array up to its closing bracket. -/
theorem arrayItems_scalars {s : Setting} (fine : s.depth + 1 < s.limit) (place : Place) (x : Scalar)
    (xs : List Scalar) {lexemes : List Lexeme}
    (spelled : lexemes.map (·.token) = x.scriptToken :: Constant.closingTokens xs) {fuel : Nat}
    (enough : lexemes.length ≤ fuel) (seen : List Expr) :
    ∃ items, arrayItems self.next s place fuel seen { r with rest := lexemes ++ more } =
        .ok (seen.reverse ++ items, { r with rest := more }) ∧ List.Forall₂ IsLiteral (x :: xs) items := by
  -- By induction on the items behind the first: each comma leads to another step of the loop.
  induction xs generalizing x lexemes fuel seen with
  | nil =>
    match lexemes, spelled with
    | [⟨_, here⟩, ⟨_, close⟩], rfl =>
      obtain ⟨fuel, rfl⟩ := Nat.exists_eq_add_of_le' enough
      have last := (arrayItems_scalar self r fine place x here close (fuel + 1) seen more).2
      refine ⟨[.const x.value here], last.trans ?_, .cons ⟨here, rfl⟩ .nil⟩
      rw [← List.reverse_cons]
      rfl
  | cons y ys ih =>
    match lexemes, spelled with
    | ⟨item, here⟩ :: ⟨mark, comma⟩ :: rest, spelled =>
      obtain ⟨same, marked⟩ := List.cons.inj spelled
      obtain ⟨separator, others⟩ := List.cons.inj marked
      have same : item = x.scriptToken := same
      have separator : mark = .mark "," := separator
      subst same separator
      obtain ⟨fuel, rfl⟩ := Nat.exists_eq_add_of_le' enough
      have enough : rest.length ≤ fuel + (rest.length + 1) := by omega
      obtain ⟨items, read, literal⟩ := ih y others enough (.const x.value here :: seen)
      have first := (arrayItems_scalar self r fine place x here comma (fuel + (rest.length + 1)) seen
        (rest ++ more)).1
      refine ⟨.const x.value here :: items, first.trans (read.trans ?_), .cons ⟨here, rfl⟩ literal⟩
      rw [List.reverse_cons, List.append_assoc, List.singleton_append]

/-- The items of an array of literals. -/
theorem arrayItems_literals {s : Setting} (fine : s.depth + 1 < s.limit) (place : Place) (xs : List Scalar)
    {lexemes : List Lexeme} (spelled : lexemes.map (·.token) = Constant.itemTokens xs) {fuel : Nat}
    (enough : lexemes.length ≤ fuel) (more : List Lexeme) :
    ∃ items, arrayItems self.next s place fuel [] { r with rest := lexemes ++ more } =
        .ok (items, { r with rest := more }) ∧ List.Forall₂ IsLiteral xs items := by
  cases xs with
  | nil =>
    match lexemes, spelled with
    | [⟨_, _⟩], rfl =>
      obtain ⟨fuel, rfl⟩ := Nat.exists_eq_add_of_le' enough
      exact ⟨[], rfl, .nil⟩
  | cons x xs => exact arrayItems_scalars self r fine place x xs spelled enough []

/-- An array of literals. -/
theorem unary_array {s : Setting} (fine : s.depth + 2 < s.limit) (place : Place) (xs : List Scalar)
    {lexemes : List Lexeme} (spelled : lexemes.map (·.token) = Constant.itemTokens xs) (after : Lexeme)
    (ends : EndsExpr after.token) (more : List Lexeme) :
    ∃ items, unary self.next s { r with rest := ⟨.mark "[", place⟩ :: lexemes ++ after :: more } =
        .ok (.array items place, { r with rest := after :: more }) ∧ List.Forall₂ IsLiteral xs items := by
  have enough : lexemes.length ≤ (lexemes ++ after :: more).length + 1 := by
    rw [List.length_append]
    omega
  obtain ⟨items, read, literals⟩ := arrayItems_literals self r (s := { s with depth := s.depth + 1 }) fine place xs
    spelled enough (after :: more)
  refine ⟨items, ?_, literals⟩
  rw [List.cons_append]
  generalize lexemes ++ after :: more = rest at read ⊢
  have taken : take { r with rest := ⟨.mark "[", place⟩ :: rest } =
      .ok (⟨.mark "[", place⟩, { r with rest := rest }) := rfl
  have steps : stepsLeft { r with rest := rest } = .ok (rest.length + 1, { r with rest := rest }) := rfl
  have root : operandRoot self.next s { r with rest := ⟨.mark "[", place⟩ :: rest } =
      .ok (.array items place, { r with rest := after :: more }) := by
    show (do
        let s ← deeper s place
        let _ ← take
        pure (.array (← arrayItems self.next s place (← stepsLeft) []) place) : Parse Expr)
        { r with rest := ⟨.mark "[", place⟩ :: rest } = _
    rw [bind_ok (deeper_ok _ (by omega) place), bind_ok taken, bind_ok steps, bind_ok read]
    rfl
  -- What follows the bracket is no link of a chain, so the operand is the array alone.
  show operand self.next s { r with rest := ⟨.mark "[", place⟩ :: rest } = _
  rw [operand, bind_ok root]
  obtain ⟨token, there⟩ := after
  rcases ends with rfl | rfl | rfl <;> rfl

end

/-- A statement that is an expression up to the end. -/
theorem exprStmt_finish {self : Parsers} {tokens : List Lexeme} {e : Expr} {place : Place}
    (h : self.expr { outermost with depth := 1 } ⟨tokens, 0, [], [], []⟩ =
      .ok (e, ⟨[⟨.finish, place⟩], 0, [], [], []⟩)) :
    exprStmt self outermost ⟨tokens, 0, [], [], []⟩ = .ok (.expr e, ⟨[⟨.finish, place⟩], 0, [], [], []⟩) := by
  have first : ∃ l, peek ⟨tokens, 0, [], [], []⟩ = .ok (l, ⟨tokens, 0, [], [], []⟩) := by
    cases tokens <;> exact ⟨_, rfl⟩
  obtain ⟨l, first⟩ := first
  have opened : deeper outermost l.place ⟨tokens, 0, [], [], []⟩ =
      .ok ({ outermost with depth := 1 }, ⟨tokens, 0, [], [], []⟩) := rfl
  unfold exprStmt
  rw [bind_ok first, bind_ok opened, bind_ok h]
  rfl

end Grammar

/-- A script of one statement, which is an expression. -/
theorem parse_of_stmt {text : String} {tokens : List Lexeme} {e : Expr} {place : Place}
    (read : lexemes text = tokens)
    (starts : Parse.isNext .finish ⟨tokens, 0, [], [], []⟩ = .ok (false, ⟨tokens, 0, [], [], []⟩))
    (stated : (parsersTo levels).stmt outermost ⟨tokens, 0, [], [], []⟩ =
      .ok (.expr e, ⟨[⟨.finish, place⟩], 0, [], [], []⟩)) : parse text = .ok ⟨[.expr e], []⟩ := by
  have items (fuel : Nat) : scriptItems (parsersTo levels) (fuel + 2) [] ⟨tokens, 0, [], [], []⟩ =
      .ok ([.expr e], ⟨[⟨.finish, place⟩], 0, [], [], []⟩) := by
    rw [scriptItems, Parse.bind_ok starts, if_neg (by simp), Parse.bind_ok stated]
    rfl
  show (scriptItems _ _ [] _ >>= fun p => pure (⟨p.1, p.2.functions⟩ : Program)) = _
  match tokens, read with
  | [], _ => cases starts
  | l :: rest, read =>
    rw [read, List.length_cons, items]
    rfl

/-- Literals are values after simplification. -/
theorem consts?_literals {xs : List Scalar} {items : List Expr} (h : List.Forall₂ Grammar.IsLiteral xs items) :
    Simplify.consts? (Simplify.exprs items) = some (xs.map Scalar.value) := by
  induction h with
  | nil => rfl
  | cons first _ ih =>
    obtain ⟨place, rfl⟩ := first
    rw [Simplify.exprs, Simplify.consts?, ih]
    rfl

/-- The tokens of a literal are one expression, which is simplified to its value. -/
theorem stmt_literal (c : Constant) {lexemes : List Lexeme} (spelled : lexemes.map (·.token) = c.scriptTokens)
    {tokens : List Lexeme} {last : Place} (whole : lexemes ++ [⟨.finish, last⟩] = tokens) :
    Parse.isNext .finish ⟨tokens, 0, [], [], []⟩ = .ok (false, ⟨tokens, 0, [], [], []⟩) ∧
      ∃ e place, (parsersTo levels).stmt outermost ⟨tokens, 0, [], [], []⟩ =
        .ok (.expr e, ⟨[⟨.finish, last⟩], 0, [], [], []⟩) ∧ Simplify.expr e = .const c.value place := by
  subst whole
  -- A literal is its one token, or an array from its opening bracket on.
  cases c with
  | scalar x =>
    match lexemes, spelled with
    | [⟨token, here⟩], spelled =>
      obtain rfl : token = x.scriptToken := (List.cons.inj spelled).1
      have read : Grammar.expr (parsersTo 126) { outermost with depth := 1 }
          ⟨[⟨x.scriptToken, here⟩, ⟨.finish, last⟩], 0, [], [], []⟩ =
            .ok (.const x.value here, ⟨[⟨.finish, last⟩], 0, [], [], []⟩) :=
        Grammar.expr_scalar _ ⟨[], 0, [], [], []⟩ (by decide) x here (.inr (.inr rfl))
      have stated : Grammar.exprStmt (parsersTo 127) outermost _ = _ := Grammar.exprStmt_finish read
      rcases x with n | b
      · exact ⟨rfl, _, here, stated, rfl⟩
      · cases b <;> exact ⟨rfl, _, here, stated, rfl⟩
  | list xs =>
    match lexemes, spelled with
    | ⟨token, here⟩ :: rest, spelled =>
      obtain ⟨same, others⟩ := List.cons.inj spelled
      obtain rfl : token = .mark "[" := same
      obtain ⟨items, array, literals⟩ := Grammar.unary_array (parsersTo 125) ⟨[], 0, [], [], []⟩
        (s := { outermost with depth := 2 }) (by decide) here xs others ⟨.finish, last⟩ (.inr (.inr rfl)) []
      have read : Grammar.expr (parsersTo 126) { outermost with depth := 1 }
          ⟨⟨.mark "[", here⟩ :: rest ++ [⟨.finish, last⟩], 0, [], [], []⟩ =
            .ok (.array items here, ⟨[⟨.finish, last⟩], 0, [], [], []⟩) :=
        Grammar.expr_of_unary _ ⟨[], 0, [], [], []⟩ (by decide) (.inr (.inr rfl)) array
      have stated : Grammar.exprStmt (parsersTo 127) outermost _ = _ := Grammar.exprStmt_finish read
      refine ⟨rfl, _, here, stated, ?_⟩
      rw [Simplify.expr, consts?_literals literals]
      rfl

theorem parse_literal (c : Constant) :
    ∃ e place, parse c.literal.text = .ok ⟨[.expr e], []⟩ ∧ Simplify.expr e = .const c.value place := by
  have text : c.literal.text.toList = c.literal.renderChars := by
    rcases c with (n | b) | xs <;> exact String.toList_ofList
  obtain ⟨tokens, read, spelled⟩ :=
    Lexer.lexes_constant c (c.literal.renderChars.length + 1) Place.start [] (Nat.lt_succ_self _)
  have read : lexemes c.literal.text = tokens := by
    rw [lexemes, text]
    exact read
  obtain ⟨items, ends, rfl, itemed, ended⟩ := List.map_eq_append_iff.1 spelled
  match ends, ended with
  | [⟨_, last⟩], rfl =>
    obtain ⟨starts, e, place, stated, simple⟩ := stmt_literal c itemed rfl
    exact ⟨e, place, parse_of_stmt read starts stated, simple⟩

/-- The text of a literal, as a script, has the value that the literal stands for, and changes nothing. -/
theorem Session.evaluate_literal (s : Session) (now : Int) (c : Constant) :
    s.evaluate now c.literal.text = (.ok c.value, s) := by
  obtain ⟨e, place, read, simple⟩ := parse_literal c
  have simplified : Simplify.program ⟨[.expr e], []⟩ = ⟨[.expr (.const c.value place)], []⟩ := by
    show (⟨Simplify.tidy true [.expr (Simplify.expr e)], []⟩ : Program) = _
    rw [simple]
    rfl
  rw [Session.evaluate, read]
  dsimp only
  rw [simplified]
  rcases c with (n | b) | xs <;> rfl

end Script

end Fixtures
