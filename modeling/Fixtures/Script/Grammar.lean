import Fixtures.Script.Lexer
import Fixtures.Script.Tree

/-!
# The grammar of scripts

A script is a sequence of statements. Expressions are read by precedence, chains of properties, methods
and indices bind tightest, and every construct that opens another counts against a limit of depth.

## Shape of the grammar

`Parsers` are the readers of nested expressions and statements. `Parsers.next` builds the readers of
one more level of nesting from those of the levels below, and `parsersTo` repeats this; the limit of
depth is reached long before the levels are used up. Inside a level, sequences of items are read one
token at a time.
-/

namespace Fixtures.Script

/-! ## Reading on -/

/-- Where the reading of a script stands: the tokens to come, the functions defined so far, the
variables of the function being read with whether they are constant, and the variables it takes from
outside. Functions made in place are numbered behind the `taken` functions that there are already. -/
structure Reading where
  rest : List Lexeme
  taken : Nat
  functions : List Function
  known : List (String × Bool)
  captured : List (String × Place)

/-- A reader of part of a script. -/
abbrev Parse (α : Type) := StateT Reading (Except Refusal) α

/-- How nested the part being read is, and what it may hold. -/
structure Setting where
  depth : Nat
  limit : Nat
  isGlobal : Bool
  inFunction : Bool
  inLoop : Bool
  /-- Whether a bar ends the expression. -/
  barEnds : Bool

namespace Parse

/-- Refuses the script. -/
def refuse {α : Type} (complaint : Complaint) (place : Place) : Parse α :=
  throw ⟨complaint, place⟩

/-- The next token, which stays. -/
def peek : Parse Lexeme := do
  match (← get).rest with
  | l :: _ => pure l
  | [] => pure ⟨.finish, Place.nowhere⟩

/-- The next token, which is taken. -/
def take : Parse Lexeme := do
  let s ← get
  match s.rest with
  | l :: rest =>
    set { s with rest := rest }
    pure l
  | [] => pure ⟨.finish, Place.nowhere⟩

/-- Takes a token if it is the one given. -/
def accept (token : Token) : Parse Bool := do
  let l ← peek
  if l.token == token then
    let _ ← take
    pure true
  else pure false

/-- Whether the next token is the one given. -/
def isNext (token : Token) : Parse Bool := do pure ((← peek).token == token)

/-- Refuses a token: one that could not be read for its own reason, any other for the given one. -/
def refuseToken {α : Type} (l : Lexeme) (complaint : Complaint) : Parse α :=
  match l.token with
  | .bad own => refuse own l.place
  | _ => refuse complaint l.place

/-- Takes a token that must be the one given. -/
def expect (token : Token) (why : String) : Parse Unit := do
  let l ← take
  if l.token == token then pure () else refuseToken l (.missing token.text why)

/-- One level deeper; the place is the one at which the depth may exceed its limit. -/
def deeper (s : Setting) (place : Place) : Parse Setting :=
  if s.limit < s.depth + 1 then refuse .tooComplex place
  else pure { s with depth := s.depth + 1 }

/-- As many steps as reading to the end takes at most. -/
def stepsLeft : Parse Nat := do pure ((← get).rest.length + 1)

/-- Declares a variable. -/
def declare (name : String) (constant : Bool) : Parse Unit :=
  modify fun s => { s with known := (name, constant) :: s.known }

/-- Reads a part whose variables are not known behind it. -/
def inScope {α : Type} (part : Parse α) : Parse α := do
  let known := (← get).known
  let a ← part
  modify fun s => { s with known := known }
  pure a

/-- Notes that a variable is used. -/
def mention (name : String) (place : Place) : Parse Unit :=
  modify fun s =>
    if (s.known.lookup name).isSome || (s.captured.lookup name).isSome then s
    else { s with captured := s.captured ++ [(name, place)] }

/-- The name of a variable to be declared. -/
def variableName : Parse (String × Place) := do
  let l ← take
  match l.token with
  | .name s => pure (s, l.place)
  | .reserved s => refuse (.reserved s) l.place
  | _ => refuseToken l .variableName

end Parse

open Parse

/-- The readers of nested parts. -/
structure Parsers where
  expr : Setting → Parse Expr
  unary : Setting → Parse Expr
  stmt : Setting → Parse Stmt

namespace Grammar

/-! ## Conditions -/

/-- What a literal is called where something else is expected. -/
def literalKind? : Expr → Option String
  | .const .unit _ => "()"
  | .const (.int _) _ => "a number"
  | .const (.float _) _ => "a floating-point number"
  | .const (.char _) _ => "a character"
  | .const (.string _) _ => "a string"
  | .text .. => "a string"
  | .array .. => "an array"
  | .map .. => "an object map"
  | _ => none

/-- Refuses a literal that is no truth value. -/
def ensureCondition (e : Expr) : Parse Expr :=
  match literalKind? e with
  | some kind => refuse (.wrongKind "a boolean expression" kind) e.start
  | none => pure e

/-- Refuses a literal that has no items. -/
def ensureItems (e : Expr) : Parse Expr :=
  match e with
  | .array .. | .text .. => pure e
  | .const (.bool _) _ => refuse (.wrongKind "an iterable value" "a boolean") e.start
  | _ =>
    match literalKind? e with
    | some kind => refuse (.wrongKind "an iterable value" kind) e.start
    | none => pure e

/-- Refuses a block where an expression is due. -/
def ensureNoBlock : Parse Unit := do
  let l ← peek
  if l.token == .mark "\x7b" then refuse (.missingExpression "a boolean") l.place else pure ()

/-- Refuses an assignment behind a condition. -/
def ensureNoAssignment : Parse Unit := do
  let l ← peek
  match l.token with
  | .mark "=" => refuse (.symbol "Possibly a typo of '=='?") l.place
  | .mark s =>
    if (assigned? s).isSome then
      refuse (.symbol "Expecting a boolean expression, not an assignment") l.place
    else pure ()
  | _ => pure ()

/-- Reads a condition and what must not follow it. -/
def condition (self : Parsers) (s : Setting) : Parse Expr := do
  ensureNoBlock
  let e ← self.expr s
  let e ← ensureCondition e
  ensureNoAssignment
  pure e

/-! ## Blocks -/

/-- What is missing where a statement goes on. -/
def missingSemicolon : Complaint := .missing ";" "to terminate this statement"

/-- Reads the statements of a block up to its closing brace; `seen` are those so far, the last
first. -/
def blockItems (self : Parsers) (s : Setting) : (fuel : Nat) → (seen : List Stmt) → Parse (List Stmt)
  | 0, seen => pure seen.reverse
  | fuel + 1, seen => do
    let l ← peek
    match l.token with
    | .mark "\x7d" =>
      let _ ← take
      pure seen.reverse
    | .finish => refuse (.missing "\x7d" "to terminate this block") l.place
    | _ =>
      let stmt ← self.stmt s
      match stmt with
      | .nothing _ => blockItems self s fuel seen
      | _ =>
        let next ← peek
        if next.token == .mark "\x7d" || stmt.endsItself then blockItems self s fuel (stmt :: seen)
        else if next.token == .mark ";" then
          let _ ← take
          blockItems self s fuel (stmt :: seen)
        else refuseToken next missingSemicolon

/-- Reads a block; its place is that of its opening brace. -/
def block (self : Parsers) (s : Setting) : Parse (List Stmt × Place) := do
  let l ← take
  if l.token == .mark "\x7b" then
    let s ← deeper s l.place
    let stmts ← inScope do blockItems self { s with isGlobal := false } (← stepsLeft) []
    pure (stmts, l.place)
  else refuseToken l (.missing "\x7b" "to start a statement block")

/-! ## Literals -/

/-- Reads the items of an array. -/
def arrayItems (self : Parsers) (s : Setting) (place : Place) :
    (fuel : Nat) → (seen : List Expr) → Parse (List Expr)
  | 0, seen => pure seen.reverse
  | fuel + 1, seen => do
    let l ← peek
    match l.token with
    | .mark "]" =>
      let _ ← take
      pure seen.reverse
    | .finish => refuse (.missing "]" "to end this array literal") l.place
    | _ =>
      let e ← self.expr (← deeper s place)
      let next ← peek
      match next.token with
      | .mark "," =>
        let _ ← take
        arrayItems self s place fuel (e :: seen)
      | .mark "]" => arrayItems self s place fuel (e :: seen)
      | .finish => refuse (.missing "]" "to end this array literal") next.place
      | _ => refuseToken next (.missing "," "to separate the items of this array literal")

/-- Reads the name of a member of a map. -/
def memberName (seen : List (String × Expr)) : Parse String := do
  let l ← take
  let fresh (name : String) : Parse String :=
    if (seen.lookup name).isSome then refuse (.duplicateProperty name) l.place else pure name
  match l.token with
  | .name name | .string name => fresh name
  | .reserved name =>
    if isWordLike name then refuse (.reserved name) l.place else refuse .propertyName l.place
  | .finish => refuse (.missing "\x7d" "to end this object map literal") l.place
  | _ => refuseToken l .propertyName

/-- Reads the members of a map. -/
def mapMembers (self : Parsers) (s : Setting) (place : Place) :
    (fuel : Nat) → (seen : List (String × Expr)) → Parse (List (String × Expr))
  | 0, seen => pure seen.reverse
  | fuel + 1, seen => do
    let l ← peek
    match l.token with
    | .mark "\x7d" =>
      let _ ← take
      pure seen.reverse
    | .finish => refuse (.missing "\x7d" "to end this object map literal") l.place
    | _ =>
      let name ← memberName seen
      expect (.mark ":")
        ("to follow the property " ++ singleQuoted name ++ " in this object map literal")
      let e ← self.expr (← deeper s place)
      let next ← peek
      match next.token with
      | .mark "," =>
        let _ ← take
        mapMembers self s place fuel ((name, e) :: seen)
      | .mark "\x7d" => mapMembers self s place fuel ((name, e) :: seen)
      | .name _ => refuse (.missing "," "to separate the items of this object map literal") next.place
      | _ => refuseToken next (.missing "\x7d" "to end this object map literal")

/-- A part of a text, unless it is empty. -/
def textPart (s : String) (place : Place) : List Expr :=
  if s.isEmpty then [] else [.const (.string s) place]

/-- Reads the expressions inside a text and what stands between them. -/
def textParts (self : Parsers) (s : Setting) : (fuel : Nat) → (seen : List Expr) → Parse (List Expr)
  | 0, seen => pure seen.reverse
  | fuel + 1, seen => do
    let (stmts, place) ← block self s
    let seen :=
      match stmts with
      | [.expr (.const (.string "") _)] => seen
      | _ => .block stmts place :: seen
    let l ← take
    match l.token with
    | .string text => pure (seen.reverse ++ textPart text l.place)
    | .openText text => textParts self s fuel ((textPart text l.place).reverse ++ seen)
    | _ => refuseToken l .openString

/-! ## Calls -/

/-- Reads the arguments of a call up to the closing parenthesis. -/
def callArgs (self : Parsers) (s : Setting) (name : String) :
    (fuel : Nat) → (seen : List Expr) → Parse (List Expr)
  | 0, seen => pure seen.reverse
  | fuel + 1, seen => do
    let close : Complaint :=
      .missing ")" ("to close the arguments list of this function call " ++ singleQuoted name)
    let seen ← if ← isNext (.mark ")") then pure seen else do pure ((← self.expr s) :: seen)
    let l ← peek
    match l.token with
    | .mark ")" =>
      let _ ← take
      pure seen.reverse
    | .mark "," =>
      let _ ← take
      callArgs self s name fuel seen
    | .finish => refuse close l.place
    | _ => refuseToken l (.missing "," ("to separate the arguments to function call " ++ singleQuoted name))

/-- Reads what follows the name of a function that is called: `()`, or arguments in parentheses. -/
def call (self : Parsers) (s : Setting) (name : String) (place : Place) : Parse (List Expr) := do
  let opening ← take
  if opening.token == .mark "()" then pure []
  else
    let l ← peek
    match l.token with
    | .mark ")" =>
      let _ ← take
      pure []
    | .finish =>
      refuse (.missing ")" ("to close the arguments list of this function call " ++ singleQuoted name))
        l.place
    | .bad own => refuse own l.place
    | _ =>
      let s ← deeper s place
      callArgs self s name (← stepsLeft) []

/-- Whether the next token opens the arguments of a call. -/
def opensCall : Parse Bool := do pure ((← isNext (.mark "(")) || (← isNext (.mark "()")))

/-! ## Functions -/

/-- Reads the names of parameters up to the closing mark. -/
def parameters (function : String) (close : String) (whyClose whyComma : String) :
    (fuel : Nat) → (seen : List String) → Parse (List String)
  | 0, seen => pure seen.reverse
  | fuel + 1, seen => do
    let l ← take
    match l.token with
    | .name name =>
      if seen.contains name then refuse (.duplicateParameter name function) l.place
      else
        let next ← take
        if next.token == .mark close then pure (name :: seen).reverse
        else if next.token == .mark "," then
          parameters function close whyClose whyComma fuel (name :: seen)
        else refuseToken next (.missing "," whyComma)
    | token =>
      if token == .mark close then pure seen.reverse
      else refuseToken l (.missing close whyClose)

/-- Reads a part as the body of a function with the given parameters. The variables taken from outside
are returned beside it. -/
def functionBody {α : Type} (names : List String) (part : Parse α) :
    Parse (α × List (String × Place)) := do
  let outer ← get
  set { outer with known := names.reverse.map (·, false), captured := [] }
  let a ← part
  let inner ← get
  set { inner with known := outer.known, captured := outer.captured }
  pure (a, inner.captured)

/-- The limit of depth outside functions. -/
def scriptDepth : Nat := 64

/-- The limit of depth inside functions. -/
def functionDepth : Nat := 32

/-- How the names of functions made in place begin. -/
def closureLead : String := "anon$"

/-- Reads a function made in place. -/
def closure (self : Parsers) (s : Setting) (place : Place) : Parse Expr := do
  let s ← deeper s place
  let s : Setting :=
    { s with limit := functionDepth, isGlobal := false, inFunction := true, inLoop := false }
  let s ← deeper s place
  let opening ← take
  let names ←
    if opening.token == .mark "||" then pure []
    else
      parameters "" "|" "to close the parameters list of anonymous function or closure"
        "to separate the parameters of anonymous function" (← stepsLeft) []
  let (body, captured) ← functionBody names (self.stmt s)
  for (name, place) in captured do mention name place
  let r ← get
  let name := closureLead ++ Text.natText (r.taken + r.functions.length)
  let stmts :=
    match body with
    | .block stmts _ => stmts
    | .nothing _ => []
    | stmt => [stmt]
  modify fun r => { r with functions := ⟨name, captured.map (·.1) ++ names, stmts⟩ :: r.functions }
  pure (if captured.isEmpty then .const (.function name []) place else .closure name captured place)

/-- Reads the definition of a function behind its first word. -/
def function (self : Parsers) (s : Setting) : Parse Unit := do
  let l ← take
  match l.token with
  | .name name =>
    let next ← peek
    let names ←
      if next.token == .mark "()" then
        let _ ← take
        pure []
      else if next.token == .mark "(" then
        let _ ← take
        parameters name ")" ("to close the parameters list of function " ++ singleQuoted name)
          ("to separate the parameters of function " ++ singleQuoted name) (← stepsLeft) []
      else refuse (.parameters name) next.place
    let brace ← peek
    if brace.token == .mark "\x7b" then
      let ((stmts, place), _) ← functionBody names (block self s)
      let functions := (← get).functions
      if functions.any fun f => f.name = name && f.parameters.length = names.length then
        refuse (.duplicateFunction name names.length) place
      else modify fun r => { r with functions := ⟨name, names, stmts⟩ :: functions }
    else refuse (.body name) brace.place
  | .reserved word => refuse (.reserved word) l.place
  | .bad own => refuse own l.place
  | _ => refuse .functionName l.place

/-! ## Choices and loops as expressions -/

/-- Reads what follows a condition, and all other choices behind it. -/
def choice (self : Parsers) (s : Setting) : (fuel : Nat) → Place → Parse Stmt
  | 0, place => refuse .incomplete place
  | fuel + 1, place => do
    let e ← condition self s
    let (yes, _) ← block self s
    if ← accept (.word "else") then
      let l ← peek
      if l.token == .word "if" then
        let _ ← take
        let other ← choice self s fuel l.place
        pure (.choose e yes [other] place)
      else
        let (no, _) ← block self s
        pure (.choose e yes no place)
    else pure (.choose e yes [] place)

/-- The values that a label of a case can have. -/
def label (e : Expr) : Parse Value :=
  match e with
  | .const v _ => pure v
  | .binary .below (.const (.int a) _) (.const (.int b) _) _ => pure (.range a b false)
  | .binary .through (.const (.int a) _) (.const (.int b) _) _ => pure (.range a b true)
  | _ => refuse (.missingExpression "a literal") e.start

/-- Reads the labels of a case. -/
def labels (self : Parsers) (s : Setting) : (fuel : Nat) → (seen : List Expr) → Parse (List Expr)
  | 0, seen => pure seen.reverse
  | fuel + 1, seen => do
    let e ← tryCatchThe Refusal (self.expr { s with barEnds := true }) fun r =>
      refuse (.missingExpression "literal") r.place
    if ← accept (.mark "|") then labels self s fuel (e :: seen) else pure (e :: seen).reverse

/-- The condition of a case that has none. -/
def always : Expr := .const (.bool true) Place.nowhere

/-- Reads the labels of a case and its condition. -/
def caseHead (self : Parsers) (s : Setting) (last : Option Place) : Parse (List Expr × Expr) := do
  let l ← peek
  match last with
  | some place => refuse .defaultNotLast place
  | none =>
    if l.token == .mark "_" then
      let _ ← take
      let next ← peek
      if next.token == .word "if" then refuse .defaultCondition next.place else pure ([], always)
    else
      let es ← labels self s (← stepsLeft) []
      if ← accept (.word "if") then pure (es, ← condition self s) else pure (es, always)

/-- A statement as an expression. -/
def stmtExpr (stmt : Stmt) : Expr :=
  match stmt with
  | .expr e => e
  | .block body place => .block body place
  | stmt => .block [stmt] stmt.place

/-- Reads the cases of a switch up to the closing brace. -/
def switchCases (self : Parsers) (s : Setting) :
    (fuel : Nat) → (last : Option Place) → (seen : List (List Value × Expr × Expr)) →
      Parse (List (List Value × Expr × Expr))
  | 0, _, seen => pure seen.reverse
  | fuel + 1, last, seen => do
    let l ← peek
    match l.token with
    | .mark "\x7d" =>
      let _ ← take
      pure seen.reverse
    | .finish => refuse (.missing "\x7d" "to end this switch block") l.place
    | _ =>
      let (es, guard) ← caseHead self s last
      expect (.mark "=>") "in this switch case"
      let stmt ← self.stmt { (← deeper s l.place) with isGlobal := false }
      let values ← es.mapM label
      let isRange : Value → Bool
        | .range .. => true
        | _ => false
      if seen.any (·.1.any isRange) then
        match es.find? fun e => literalKind? e = some "a number" with
        | some e => refuse .caseAfterRange e.start
        | none => pure ()
      let last := if es.isEmpty then some l.place else none
      let seen := (values, guard, stmtExpr stmt) :: seen
      let next ← peek
      if next.token == .mark "," then
        let _ ← take
        switchCases self s fuel last seen
      else if next.token == .mark "\x7d" || stmt.endsItself then switchCases self s fuel last seen
      else if next.token == .finish then
        refuse (.missing "\x7d" "to end this switch block") next.place
      else refuseToken next (.missing "," "to separate the items in this switch block")

/-- Reads a switch behind its word. -/
def switch (self : Parsers) (s : Setting) (place : Place) : Parse Stmt := do
  let e ← self.expr s
  expect (.mark "\x7b") "to start a switch block"
  let cases ← switchCases self s (← stepsLeft) none []
  pure (.switch e cases place)

/-- Reads a loop with a condition behind its word. -/
def whileLoop (self : Parsers) (s : Setting) (place : Place) : Parse Stmt := do
  let e ← condition self s
  let (body, bodyPlace) ← block self { s with inLoop := true }
  pure (.loop (some e) body bodyPlace place)

/-- Reads a loop without a condition behind its word. -/
def endlessLoop (self : Parsers) (s : Setting) (place : Place) : Parse Stmt := do
  let (body, bodyPlace) ← block self { s with inLoop := true }
  pure (.loop none body bodyPlace place)

/-- Reads a loop whose condition stands behind its body. -/
def againLoop (self : Parsers) (s : Setting) (place : Place) : Parse Stmt := do
  let (body, _) ← block self { s with inLoop := true }
  let l ← take
  match l.token with
  | .word "while" | .word "until" =>
    let e ← condition self { s with inLoop := false }
    pure (.again body (l.token == .word "while") e place)
  | _ => refuseToken l (.missing "while" "for the do statement")

/-- Reads a loop over items behind its word. -/
def eachLoop (self : Parsers) (s : Setting) (place : Place) : Parse Stmt := do
  let (name, counter) ←
    if ← accept (.mark "(") then
      let (name, _) ← variableName
      expect (.mark ",") "after the iteration variable name"
      let (counter, here) ← variableName
      if counter = name then refuse (.duplicateVariable counter) here
      expect (.mark ")") "to close the iteration variable"
      pure (name, some counter)
    else
      let (name, _) ← variableName
      pure (name, none)
  expect (.word "in") "after the iteration variable"
  ensureNoBlock
  let items ← self.expr s
  let items ← ensureItems items
  let (body, bodyPlace) ← inScope do
    if let some counter := counter then declare counter false
    declare name false
    block self { s with inLoop := true }
  pure (.each name counter items body bodyPlace place)

/-- Reads a statement that may stand inside an expression, if one begins here. -/
def compound? (self : Parsers) (s : Setting) : Parse (Option Stmt) := do
  let l ← peek
  let behind (part : Setting → Place → Parse Stmt) : Parse (Option Stmt) := do
    let s ← deeper s l.place
    let _ ← take
    let stmt ← part s l.place
    pure (some stmt)
  match l.token with
  | .word "if" => behind fun s place => do choice self s (← stepsLeft) place
  | .word "switch" => behind (switch self)
  | .word "while" => behind (whileLoop self)
  | .word "loop" => behind (endlessLoop self)
  | .word "do" => behind (againLoop self)
  | .word "for" => behind (eachLoop self)
  | _ => pure none

/-! ## Chains -/

/-- Refuses an index that cannot be one. -/
def ensureIndex (object index : Expr) (bracket : Place) : Parse Unit :=
  let unfit := Complaint.index "Only arrays, object maps and strings can be indexed"
  match index, object with
  | .const (.int _) _, .map .. =>
    refuse (.index "Object map expects string index, not a number") bracket
  | .const (.string _) _, .array .. | .text .., .array .. | .const (.string _) _, .text ..
  | .text .., .text .. | .const (.string _) _, .const (.string _) _
  | .text .., .const (.string _) _ =>
    refuse (.index "Array or string expects numeric index, not a string") index.start
  | .const (.int _) _, .const v _ | .const (.string _) _, .const v _ =>
    match v with
    | .int _ | .string _ => pure ()
    | _ => refuse unfit object.start
  | .const (.float _) _, _ =>
    refuse (.index "Array access expects integer index, not a float") index.start
  | .const (.char _) _, _ =>
    refuse (.index "Array access expects integer index, not a character") index.start
  | .const .unit _, _ => refuse (.index "Array access expects integer index, not ()") index.start
  | .const (.bool _) _, _ =>
    refuse (.index "Array access expects integer index, not a boolean") index.start
  | .junction .and .., _ | .junction .or .., _ =>
    refuse (.index "Array access expects integer index, not a boolean") index.start
  | _, _ => pure ()

/-- Reads the name behind a dot and, if it is called, the arguments. -/
def member (self : Parsers) (s : Setting) (dot : Place) (optional : Bool) : Parse Link := do
  let l ← take
  let link (name : String) : Parse Link := do
    if ← opensCall then
      if name = "Fn" || name = "eval" then
        refuse (.symbol (singleQuoted name ++ " should not be called in method style. Try " ++ name ++
          "(...);")) l.place
      else
        let args ← call self s name l.place
        pure (.method name args l.place dot optional)
    else pure (.property name l.place dot optional)
  match l.token with
  | .name name =>
    let link ← link name
    let next ← peek
    if next.token == .mark "::" then refuse .propertyName l.place else pure link
  | .reserved word =>
    if methodWords.contains word then link word else refuse (.reserved word) l.place
  | _ => refuse .propertyName l.place

/-- Reads the links behind the root of a chain; `seen` are those so far, the last first, and `indexed`
counts the indices read one behind the other. -/
def links (self : Parsers) (root : Expr) :
    (fuel : Nat) → Setting → (indexed : Nat) → (seen : List Link) → Parse Expr
  | 0, _, _, seen => pure (.chain root seen.reverse)
  | fuel + 1, s, indexed, seen => do
    let l ← peek
    match l.token with
    | .mark "." | .mark "?." =>
      let _ ← take
      let s ← deeper s l.place
      let link ← member self s l.place (l.token == .mark "?.")
      links self root fuel s 0 (link :: seen)
    | .mark "[" | .mark "?[" =>
      let _ ← take
      let inner ← deeper { s with depth := s.depth + indexed } l.place
      let e ← self.expr inner
      if seen.isEmpty then ensureIndex root e l.place
      let next ← take
      if next.token == .mark "]" then
        links self root fuel s (indexed + 1) (.index e l.place (l.token == .mark "?[") :: seen)
      else refuseToken next (.missing "]" "for a matching [ in this index expression")
    | _ => pure (if seen.isEmpty then root else .chain root seen.reverse)

/-! ## Operands -/

/-- Reads the names behind the name of a module, and the arguments if the last is called. -/
def qualifiedName (self : Parsers) (s : Setting) (place : Place) :
    (fuel : Nat) → (path : String) → (last : String) → Parse Expr
  | 0, path, _ => pure (.qualified path [] place)
  | fuel + 1, path, last => do
    if ← accept (.mark "::") then
      let (name, _) ← variableName
      let path := if path.isEmpty then last else path ++ "::" ++ last
      qualifiedName self s place fuel path name
    else if ← opensCall then
      let args ← call self s last place
      pure (.qualified path args place)
    else pure (.qualified path [] place)

/-- Reads what a name begins: a variable, a call or the name of a module. -/
def named (self : Parsers) (s : Setting) (name : String) (place : Place) : Parse Expr := do
  let next ← peek
  match next.token with
  | .mark "(" | .mark "()" =>
    let args ← call self s name place
    pure (.call name args place)
  | .mark "::" => qualifiedName self s place (← stepsLeft) "" name
  | _ =>
    mention name place
    pure (.var name place)

/-- Reads an expression between parentheses. -/
def grouped (self : Parsers) (s : Setting) (place : Place) : Parse Expr := do
  let s ← deeper s place
  let _ ← take
  if ← accept (.mark ")") then pure (.const .unit place)
  else
    let e ← self.expr s
    expect (.mark ")") "for a matching ( in this expression"
    pure e

/-- Reads a reserved word where an operand is due. -/
def reservedOperand (self : Parsers) (s : Setting) (word : String) (place : Place) : Parse Expr := do
  if (← opensCall) && callableWords.contains word then
    let args ← call self s word place
    pure (.call word args place)
  else if word = "this" then
    if s.inFunction then pure (.this place)
    else refuse (.symbol "'this' can only be used in functions") place
  else refuse (.reserved word) place

/-- Reads an operand without signs and links. -/
def operandRoot (self : Parsers) (s : Setting) : Parse Expr := do
  match ← compound? self s with
  | some stmt => pure (.block [stmt] stmt.place)
  | none =>
    let l ← peek
    let literal (v : Value) : Parse Expr := do
      let _ ← take
      pure (.const v l.place)
    match l.token with
    | .finish => refuse .incomplete l.place
    | .int n => literal (.int n)
    | .float x => literal (.float x)
    | .char c => literal (.char c)
    | .string t => literal (.string t)
    | .word "true" => literal (.bool true)
    | .word "false" => literal (.bool false)
    | .mark "()" => literal .unit
    | .mark "\x7b" =>
      let s ← deeper s l.place
      let (stmts, place) ← block self s
      pure (.block stmts place)
    | .mark "(" => grouped self s l.place
    | .mark "|" | .mark "||" =>
      if s.barEnds then refuse (.unexpected l.token.text) l.place else closure self s l.place
    | .openText t =>
      let _ ← take
      let s ← deeper s l.place
      let parts ← textParts self s (← stepsLeft) (textPart t l.place)
      pure (if parts.isEmpty then .const (.string "") l.place else .text parts l.place)
    | .mark "[" =>
      let s ← deeper s l.place
      let _ ← take
      pure (.array (← arrayItems self s l.place (← stepsLeft) []) l.place)
    | .mark "#\x7b" =>
      let s ← deeper s l.place
      let _ ← take
      pure (.map (← mapMembers self s l.place (← stepsLeft) []) l.place)
    | .name name =>
      let _ ← take
      named self s name l.place
    | .reserved word =>
      let _ ← take
      reservedOperand self s word l.place
    | token => refuseToken l (.unexpected token.text)

/-- Reads an operand without signs. -/
def operand (self : Parsers) (s : Setting) : Parse Expr := do
  let root ← operandRoot self s
  links self root (← stepsLeft) s 0 []

/-- A number with the opposite sign. -/
def negate? : Expr → Place → Option Expr
  | .const (.int n) _, place =>
    some (if n = Int64.minValue then .const (.float (-(Decimal.nearest n.toInt.natAbs 0))) place
      else .const (.int (-n)) place)
  | .const (.float x) _, place => some (.const (.float (-x)) place)
  | _, _ => none

/-- Reads an operand with its signs. -/
def unary (self : Parsers) (s : Setting) : Parse Expr := do
  let l ← peek
  match l.token with
  | .mark "-" =>
    let _ ← take
    let e ← self.unary (← deeper s l.place)
    pure ((negate? e l.place).getD (.signed .minus e l.place))
  | .mark "+" =>
    let _ ← take
    let e ← self.unary (← deeper s l.place)
    match e with
    | .const (.int _) _ | .const (.float _) _ => pure e
    | _ => pure (.signed .plus e l.place)
  | .mark "!" =>
    let _ ← take
    let e ← self.unary (← deeper s l.place)
    pure (.signed .not e l.place)
  | _ => operand self s

/-! ## Operators -/

/-- How tightly an operator binds; none for what is no operator. -/
def precedence : Token → Nat
  | .mark s =>
    match s with
    | "||" | "^" | "|" => 30
    | "&&" | "&" => 60
    | "==" | "!=" => 90
    | "!in" => 110
    | "<" | "<=" | ">" | ">=" => 130
    | "??" => 135
    | ".." | "..=" => 140
    | "+" | "-" => 150
    | "*" | "/" | "%" => 180
    | "**" => 190
    | "<<" | ">>" => 210
    | _ => 0
  | .word "in" => 110
  | _ => 0

/-- Whether an operator binds its right operand first. -/
def bindsRight (token : Token) : Bool := token == .mark "**"

/-- The precedence of the next token, which may not be a mark without meaning. -/
def nextPrecedence (s : Setting) : Parse (Token × Nat) := do
  let l ← peek
  match l.token with
  | .reserved sign =>
    if isWordLike sign then pure (l.token, 0) else refuse (.unknownOperator sign) l.place
  | .mark "|" => pure (l.token, if s.barEnds then 0 else precedence l.token)
  | token => pure (token, precedence token)

/-- Joins two operands. -/
def join (operator : Lexeme) (left right : Expr) : Parse Expr := do
  let place := operator.place
  let both (j : Junction) : Parse Expr := do
    let right ← ensureCondition right
    let left ← ensureCondition left
    pure (.junction j left right place)
  match operator.token with
  | .mark "||" => both .or
  | .mark "&&" => both .and
  | .mark "??" => pure (.junction .coalesce left right place)
  | .word "in" => pure (.within false right left left.start)
  | .mark "!in" => pure (.within true right left left.start)
  | token =>
    match Operator.ofMark? token.text with
    | some op => pure (.binary op left right place)
    | none => refuse (.unknownOperator token.text) place

/-- Reads the operators and operands behind `left` that bind tighter than `least`. The place is that
of the operand or operator before. -/
def binary (self : Parsers) : (fuel : Nat) → Setting → (least : Nat) → Place → Expr → Parse Expr
  | 0, _, _, _, left => pure left
  | fuel + 1, s, least, place, left => do
    let (token, current) ← nextPrecedence s
    if current < least || current = 0 || (current = least && !bindsRight token) then pure left
    else
      let operator ← take
      let right ← unary self s
      let (_, next) ← nextPrecedence s
      let right ←
        if current < next || (current = next && bindsRight token) then
          binary self fuel s current right.place right
        else pure right
      let s ← deeper s place
      let e ← join operator left right
      binary self fuel s least operator.place e

/-- Reads an expression. -/
def expr (self : Parsers) (s : Setting) : Parse Expr := do
  let s ← deeper s (← peek).place
  let left ← unary self s
  binary self (← stepsLeft) s 1 left.place left

/-! ## Statements -/

/-- Whether a chain ends in something that can be set, and else where it does not. -/
def unsettable? : List Link → Option Place
  | [] => none
  | [.method _ _ place _ _] => some place
  | [_] => none
  | .method _ _ place _ _ :: _ => some place
  | _ :: rest => unsettable? rest

/-- Refuses to assign to what cannot be set. -/
def ensureTarget (target : Expr) (op : Option Operator) (place : Place) : Parse Unit := do
  match target with
  | .this _ => pure ()
  | .var name here =>
    if (← get).known.lookup name = some true then refuse (.assignConstant name) here else pure ()
  | .chain root links =>
    match unsettable? links with
    | some here => refuse .notAssignable here
    | none =>
      match root with
      | .var .. | .this _ => pure ()
      | root => refuse .notAssignable root.place
  | .const .. => refuse .assignConstantValue target.start
  | .array items _ =>
    if items.all isLiteral then refuse .assignConstantValue target.start
    else refuse .notAssignable target.place
  | .map members _ =>
    if members.all fun m => isLiteral m.2 then refuse .assignConstantValue target.start
    else refuse .notAssignable target.place
  | .junction .. =>
    if op.isNone then refuse (.symbol "Possibly a typo of '=='?") place
    else refuse .notAssignable target.place
  | _ => refuse .notAssignable target.place
where
  /-- Whether an item is a literal. -/
  isLiteral : Expr → Bool
    | .const .. => true
    | _ => false

/-- Reads an expression, and what is assigned to it if it is assigned to. -/
def exprStmt (self : Parsers) (s : Setting) : Parse Stmt := do
  let place := (← peek).place
  let s ← deeper s place
  let target ← self.expr s
  let l ← peek
  let assign (op : Option Operator) : Parse Stmt := do
    let _ ← take
    let s := { s with isGlobal := false }
    let value ← self.expr s
    ensureTarget target op l.place
    pure (.assign target op value l.place)
  match l.token with
  | .mark "=" => assign none
  | .mark sign =>
    match assigned? sign with
    | some op => assign (Operator.ofMark? op)
    | none => pure (.expr target)
  | _ => pure (.expr target)

/-- Reads the definition of a variable behind its word. -/
def definition (self : Parsers) (s : Setting) (constant : Bool) (place : Place) : Parse Stmt := do
  let (name, _) ← variableName
  let value ← if ← accept (.mark "=") then self.expr s else pure (.const .unit Place.nowhere)
  declare name constant
  pure (.define name value constant place)

/-- Reads the value behind a word that ends a function or a loop, if there is one. -/
def optionalValue (self : Parsers) (s : Setting) (braceEnds : Bool) (place : Place) :
    Parse (Option Expr) := do
  match (← peek).token with
  | .finish | .mark ";" => pure none
  | token =>
    if token == .mark "\x7d" && braceEnds then pure none
    else
      let e ← self.expr (← deeper s place)
      pure (some e)

/-- Reads an attempt behind its word. -/
def attempt (self : Parsers) (s : Setting) (place : Place) : Parse Stmt := do
  let (body, _) ← block self s
  expect (.word "catch") "for the 'try' statement"
  inScope do
    let caught ←
      if ← accept (.mark "(") then
        let (name, _) ← variableName
        expect (.mark ")") "to enclose the catch variable"
        declare name false
        pure (some name)
      else pure none
    let (handler, _) ← block self s
    pure (.attempt body caught handler place)

/-- Reads a statement. -/
def stmt (self : Parsers) (s : Setting) : Parse Stmt := do
  let l ← peek
  let place := l.place
  match l.token with
  | .finish => pure (.nothing place)
  | .mark ";" =>
    let _ ← take
    pure (.nothing place)
  | .mark "\x7b" =>
    let (stmts, _) ← block self (← deeper s place)
    pure (.block stmts place)
  | .word "fn" | .word "private" =>
    if s.isGlobal then
      let _ ← take
      if l.token == .word "private" then expect (.word "fn") "following 'private'"
      function self ⟨1, functionDepth, false, true, false, false⟩
      pure (.nothing place)
    else refuse .nestedFunction place
  | .word "continue" =>
    if s.inLoop then
      let _ ← take
      pure (.next place)
    else refuse .looseBreak place
  | .word "break" =>
    if s.inLoop then
      let _ ← take
      pure (.leave (← optionalValue self s true place) place)
    else refuse .looseBreak place
  | .word "return" =>
    let _ ← take
    pure (.give (← optionalValue self s (!s.isGlobal) place) place)
  | .word "throw" =>
    let _ ← take
    pure (.throw (← optionalValue self s (!s.isGlobal) place) place)
  | .word "try" =>
    let s ← deeper s place
    let _ ← take
    attempt self s place
  | .word "let" =>
    let s ← deeper s place
    let _ ← take
    definition self s false place
  | .word "const" =>
    let s ← deeper s place
    let _ ← take
    definition self s true place
  | _ =>
    match ← compound? self s with
    | some stmt => pure stmt
    | none => exprStmt self s

end Grammar

/-- The readers of one more level of nesting. -/
def Parsers.next (self : Parsers) : Parsers := ⟨Grammar.expr self, Grammar.unary self, Grammar.stmt self⟩

/-- The readers of parts that nest at most so many levels. -/
def parsersTo : Nat → Parsers
  | 0 =>
    let none {α : Type} (_ : Setting) : Parse α := do refuse .tooComplex (← peek).place
    ⟨none, none, none⟩
  | n + 1 => (parsersTo n).next

/-- More levels than the limits of depth allow. -/
def levels : Nat := 2 * Grammar.scriptDepth

/-- How the statements of a script are read. -/
def outermost : Setting := ⟨0, Grammar.scriptDepth, true, false, false, false⟩

/-- Reads the statements of a script; `seen` are those so far, the last first. -/
def scriptItems (parsers : Parsers) : (fuel : Nat) → (seen : List Stmt) → Parse (List Stmt)
  | 0, seen => pure seen.reverse
  | fuel + 1, seen => do
    if ← isNext .finish then pure seen.reverse
    else
      let stmt ← parsers.stmt outermost
      match stmt with
      | .nothing _ => scriptItems parsers fuel seen
      | _ =>
        let l ← peek
        if stmt.endsItself || l.token == .finish then scriptItems parsers fuel (stmt :: seen)
        else if l.token == .mark ";" then
          let _ ← take
          scriptItems parsers fuel (stmt :: seen)
        else refuseToken l Grammar.missingSemicolon

/-- Reads a script; there are `taken` functions already. -/
def parse (text : String) (taken : Nat := 0) : Except Refusal Program := do
  let tokens := lexemes text
  let (body, reading) ←
    (scriptItems (parsersTo levels) (tokens.length + 1) []).run ⟨tokens, taken, [], [], []⟩
  pure ⟨body, reading.functions⟩

end Fixtures.Script
