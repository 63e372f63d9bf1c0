import Fixtures.Schema.Basic
import Fixtures.Sdl.Literal
import Fixtures.Sdl.Token

/-!
# The grammar of the schema language

One token decides how a text goes on. A rule takes tokens from the front of the list, and a text is
refused at the first token that no rule takes. Two rules look back: a schema definition with wrong
operations is refused at its keyword, and an extension that adds nothing at the keyword of its kind.

Of all definitions only object types count; of a field only its name and its directives.
-/

namespace Fixtures.Sdl

/-- A rule: takes tokens from the front, or refuses the text at the first token of a list. -/
abbrev Rule (α : Type) := StateT (List Placed) (Except (List Placed)) α

/-- Refuses the text at the next token. -/
def refuse {α : Type} : Rule α := fun tokens => .error tokens

/-- Refuses the text at the first of some tokens. -/
def refuseAt {α : Type} (tokens : List Placed) : Rule α := fun _ => .error tokens

/-- The next token. -/
def next? : Rule (Option Token) := fun tokens => .ok (tokens.head?.map (·.token), tokens)

/-- Passes over the next token. -/
def skip : Rule Unit := fun tokens => .ok ((), tokens.tail)

/-- Takes any name. -/
def name : Rule String := fun tokens =>
  match tokens with
  | ⟨.name s, _⟩ :: rest => .ok (s, rest)
  | _ => .error tokens

/-- Whether the next token is the given one; if so it is taken. -/
def takes (token : Token) : Rule Bool := fun tokens =>
  match tokens with
  | placed :: rest => if placed.token = token then .ok (true, rest) else .ok (false, tokens)
  | [] => .ok (false, [])

/-- Takes the given token. -/
def expect (token : Token) : Rule Unit := do
  if ← takes token then pure () else refuse

/-- Takes a punctuator. -/
def punct (c : Char) : Rule Unit := expect (.punctuator c)

/-- Whether a punctuator follows; if so it is taken. -/
def takesPunct (c : Char) : Rule Bool := takes (.punctuator c)

/-- Repeats a rule as long as the next token may start it. Every round takes a token, so the number
of tokens bounds the rounds. -/
def repeatWhile {α : Type} (starts : Token → Bool) (rule : Rule α) : (rounds : Nat) → Rule (List α)
  | 0 => pure []
  | rounds + 1 => do
    match ← next? with
    | some token =>
      if starts token then
        let first ← rule
        let others ← repeatWhile starts rule rounds
        pure (first :: others)
      else pure []
    | none => pure []

/-- A rule any number of times. -/
def many {α : Type} (starts : Token → Bool) (rule : Rule α) : Rule (List α) := do
  repeatWhile starts rule (← get).length

/-- A rule at least once. -/
def many1 {α : Type} (starts : Token → Bool) (rule : Rule α) : Rule (List α) := do
  let first ← rule
  let others ← many starts rule
  pure (first :: others)

/-- Whether the token is a name. -/
def isName : Token → Bool
  | .name _ => true
  | _ => false

/-- Whether the token is a string. -/
def isString : Token → Bool
  | .string _ => true
  | _ => false

/-- Whether the token is the punctuator. -/
def isPunct (c : Char) (token : Token) : Bool := token = .punctuator c

/-! ## Values, types and directives -/

/-- Whether the token may start a value. -/
def startsValue : Token → Bool
  | .punctuator c => c = '$' || c = '[' || c = '\x7b'
  | .name _ | .int _ | .float _ | .string _ => true
  | _ => false

/-- A value nested at most `levels` deep; variables are allowed outside of default values. -/
def value (allowed : Bool) : (levels : Nat) → Rule Literal
  | 0 => refuse
  | levels + 1 => do
    match ← next? with
    | some (.name s) => skip; pure (.name s)
    | some (.int n) => skip; pure (.int n)
    | some (.float x) => skip; pure (.float x)
    | some (.string s) => skip; pure (.string s)
    | some (.punctuator '$') =>
      if allowed then skip; return .var (← name)
      else refuse
    | some (.punctuator '[') =>
      skip
      let items ← many startsValue (value allowed levels)
      punct ']'
      pure (.list items)
    | some (.punctuator '\x7b') =>
      skip
      let members ← many isName do
        let key ← name
        punct ':'
        pure (key, ← value allowed levels)
      punct '\x7d'
      pure (.ofMembers members)
    | _ => refuse

/-- A value of any depth. -/
def anyValue (allowed : Bool) : Rule Literal := do value allowed ((← get).length + 1)

/-- The type of a field, nested at most `levels` deep. -/
def fieldType : (levels : Nat) → Rule Unit
  | 0 => refuse
  | levels + 1 => do
    match ← next? with
    | some (.name _) => skip
    | some (.punctuator '[') => skip; fieldType levels; punct ']'
    | _ => refuse
    let _ ← takesPunct '!'

/-- A type of any depth. -/
def anyType : Rule Unit := do fieldType ((← get).length + 1)

/-- An argument of a directive. -/
def argument : Rule Argument := do
  let key ← name
  punct ':'
  let literal ← anyValue true
  pure ⟨key, literal.text⟩

/-- A directive. -/
def directive : Rule Directive := do
  punct '@'
  let key ← name
  if ← takesPunct '(' then
    let arguments ← many1 isName argument
    punct ')'
    pure ⟨key, arguments⟩
  else pure ⟨key, []⟩

/-- The directives of a definition. -/
def directives : Rule (List Directive) := many (isPunct '@') directive

/-! ## Parts of definitions -/

/-- A description, which means nothing. -/
def description : Rule Bool := do
  match ← next? with
  | some (.string _) => skip; pure true
  | _ => pure false

/-- Whether the token may start a described member. -/
def startsMember (token : Token) : Bool := isName token || isString token

/-- An argument of a field or a field of an input type. -/
def inputValue : Rule Unit := do
  let _ ← description
  let _ ← name
  punct ':'
  anyType
  if ← takesPunct '=' then
    let _ ← anyValue false
  let _ ← directives

/-- The arguments of a field or a directive definition. -/
def argumentDefinitions : Rule Unit := do
  if ← takesPunct '(' then
    let _ ← many1 startsMember inputValue
    punct ')'

/-- A field of an object type or an interface. -/
def field : Rule Field := do
  let _ ← description
  let key ← name
  argumentDefinitions
  punct ':'
  anyType
  pure ⟨key, ← directives⟩

/-- Members between braces, if there are any braces. -/
def braced {α : Type} (starts : Token → Bool) (rule : Rule α) : Rule (List α) := do
  if ← takesPunct '\x7b' then
    let members ← many1 starts rule
    punct '\x7d'
    pure members
  else pure []

/-- Names separated by a punctuator, which may also stand before the first one. -/
def separated {α : Type} (c : Char) (item : Rule α) : Rule (List α) := do
  let _ ← takesPunct c
  let first ← item
  let others ← many (isPunct c) (do punct c; item)
  pure (first :: others)

/-- The interfaces of a type. -/
def interfaces : Rule (List String) := do
  if ← takes (.name "implements") then separated '&' name else pure []

/-- A value of an enumeration. -/
def enumValue : Rule Unit := do
  let _ ← description
  let _ ← name
  let _ ← directives

/-- The places where a directive may stand. -/
def locations : List String :=
  ["QUERY", "MUTATION", "SUBSCRIPTION", "FIELD", "FRAGMENT_DEFINITION", "FRAGMENT_SPREAD",
    "INLINE_FRAGMENT", "VARIABLE_DEFINITION", "SCHEMA", "SCALAR", "OBJECT", "FIELD_DEFINITION",
    "ARGUMENT_DEFINITION", "INTERFACE", "UNION", "ENUM", "ENUM_VALUE", "INPUT_OBJECT",
    "INPUT_FIELD_DEFINITION"]

/-- A place where a directive may stand. -/
def location : Rule Unit := do
  let before ← get
  let s ← name
  if locations.contains s then pure () else refuseAt before

/-! ## Definitions -/

/-- A definition: an object type, or one of another kind. -/
inductive Definition where
  | object (type : ObjectType)
  | other
  deriving DecidableEq

/-- A definition with the number of its parts besides the name. -/
abbrev Counted := Definition × Nat

/-- The kinds of definitions that may be extended, by their keyword. -/
def extensible (keyword : String) : Option (Rule Counted) :=
  match keyword with
  | "scalar" => some do
    let _ ← name
    pure (.other, (← directives).length)
  | "type" => some do
    let key ← name
    let names ← interfaces
    let ds ← directives
    let fields ← braced startsMember field
    pure (.object ⟨key, fields⟩, names.length + ds.length + fields.length)
  | "interface" => some do
    let _ ← name
    let names ← interfaces
    let ds ← directives
    let fields ← braced startsMember field
    pure (.other, names.length + ds.length + fields.length)
  | "union" => some do
    let _ ← name
    let ds ← directives
    let members ← if ← takesPunct '=' then separated '|' name else pure []
    pure (.other, ds.length + members.length)
  | "enum" => some do
    let _ ← name
    let ds ← directives
    let values ← braced startsMember enumValue
    pure (.other, ds.length + values.length)
  | "input" => some do
    let _ ← name
    let ds ← directives
    let fields ← braced startsMember inputValue
    pure (.other, ds.length + fields.length)
  | _ => none

/-- A directive definition after its keyword. -/
def directiveDefinition : Rule Definition := do
  punct '@'
  let _ ← name
  argumentDefinitions
  let _ ← takes (.name "repeatable")
  expect (.name "on")
  match ← next? with
  | some (.punctuator '|') | some (.name _) =>
    let _ ← separated '|' location
  | _ => pure ()
  pure .other

/-- The operations of a schema, each of which is named at most once. -/
def operations : List String := ["query", "mutation", "subscription"]

/-- A schema definition after its keyword; `start` holds the keyword. -/
def schemaDefinition (start : List Placed) : Rule Definition := do
  let _ ← directives
  punct '\x7b'
  let named ← many isName do
    let operation ← name
    punct ':'
    let _ ← name
    pure operation
  punct '\x7d'
  if named.all operations.contains && decide named.Nodup then pure .other else refuseAt start

/-- An extension after its keyword. -/
def extension : Rule Definition := do
  let start ← get
  let keyword ← name
  match extensible keyword with
  | none => refuseAt start
  | some rule =>
    let (_, parts) ← rule
    if parts = 0 then refuseAt start else pure .other

/-- A definition. -/
def definition : Rule Definition := do
  let described ← description
  let start ← get
  let keyword ← name
  match extensible keyword with
  | some rule => return (← rule).1
  | none =>
    if keyword = "directive" then directiveDefinition
    else if described then refuseAt start
    else if keyword = "schema" then schemaDefinition start
    else if keyword = "extend" then extension
    else refuseAt start

/-- The definitions of a whole text, at least one. -/
def document : Rule (List Definition) := many1 (fun _ => true) definition

/-- Reads a schema text. A text that is refused gives the place of the first token not taken. -/
def parse (text : String) : Except Place Schema :=
  let (tokens, finish) := scan text
  match document tokens with
  | .ok (definitions, _) =>
    .ok ⟨definitions.filterMap fun
      | .object type => some type
      | .other => none⟩
  | .error [] => .error finish
  | .error (token :: _) => .error token.place

/-- The text for a refused schema. -/
def refusalText (p : Place) : String :=
  "schema parse error: Parse error at " ++ Text.natText p.line ++ ":" ++ Text.natText p.column

end Fixtures.Sdl
