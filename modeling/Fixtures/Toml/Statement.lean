import Fixtures.Toml.Scalar

/-!
# Statements of settings texts

A text is a list of statements, each on lines of its own: a key with its item, the header of a table or the
header of one more table of a list. Comments and empty lines separate statements.

## Limits

Arrays and tables between braces nest less than `nestingLimit` deep, and a dotted key has fewer parts than
that. The reader of items is defined by recursion on the levels that may still be opened.
-/

namespace Fixtures.Toml

/-- A statement, and the text from its first character on. -/
inductive Statement where
  | item (path : List Key) (key : Key) (value : Item) (start : List Char)
  | header (path : List Key) (key : Key) (span : Span) (start : List Char)
  | tablesHeader (path : List Key) (key : Key) (span : Span) (start : List Char)

/-- The depth that nested items and dotted keys must stay below. -/
def nestingLimit : Nat := 80

/-! ## Comments and line ends -/

/-- Passes over a comment up to the end of its line. -/
def skipComment (rest : List Char) : List Char :=
  match rest with
  | '#' :: more => more.dropWhile isPrintable
  | rest => rest

/-- Reads the end of a line or of the text. -/
def lineEnd (rest : List Char) : Outcome Unit :=
  match newline rest with
  | .ok r => .ok r
  | .error _ => if rest.isEmpty then .ok ((), []) else .error (.soft rest)

/-- Reads the rest of a line behind a statement: blanks and perhaps a comment. -/
def trailing (rest : List Char) : Outcome Unit :=
  expectingMark "#" (expecting "newline" (lineEnd (skipComment (skipBlanks rest))))

/-- Passes over blanks, line ends and comments between the items of an array. A comment must end before
the text does. The fuel is the length of the text. -/
def skipLines : (fuel : Nat) → List Char → Outcome Unit
  | 0, rest => .ok ((), rest)
  | fuel + 1, rest =>
    match skipBlanks rest with
    | '#' :: more => andThen (newline (skipComment ('#' :: more))) fun _ rest => skipLines fuel rest
    | '\n' :: more => skipLines fuel more
    | '\r' :: more => andThen (newline ('\r' :: more)) fun _ rest => skipLines fuel rest
    | rest => .ok ((), rest)

/-- Passes over blanks, line ends and comments. -/
def skipSpace (rest : List Char) : Outcome Unit := skipLines (rest.length + 1) rest

/-! ## Keys -/

/-- The characters of a key without quotation marks. -/
def isBare (c : Char) : Bool :=
  ('A' ≤ c && c ≤ 'Z') || ('a' ≤ c && c ≤ 'z') || Text.isDigit c || c = '-' || c = '_'

/-- Reads one part of a key. -/
def simpleKey (rest : List Char) : Outcome Key :=
  let name : Outcome (List Char) :=
    match rest with
    | '"' :: _ => basicString rest
    | '\'' :: _ => literalString rest
    | _ =>
      let (name, left) := run isBare rest
      if name.isEmpty then .error (.soft rest) else .ok (name, left)
  andThen name fun name left => .ok (⟨String.ofList name, ⟨rest.length, left.length⟩⟩, left)

/-- The last of some keys and those before it. -/
def splitLast : List Key → Option (List Key × Key)
  | [] => none
  | key :: more =>
    match splitLast more with
    | some (path, last) => some (key :: path, last)
    | none => some ([], key)

/-- Reads a dotted key: the path to a table and a key in it. -/
def dottedKey (rest : List Char) : Outcome (List Key × Key) :=
  let part (rest : List Char) : Outcome Key :=
    andThen (simpleKey (skipBlanks rest)) fun key rest => .ok (key, skipBlanks rest)
  andThen (labelled "key" (separated part '.' (rest.length + 1) rest)) fun keys left =>
    if nestingLimit ≤ keys.length then .error (.because Refusal.tooDeep rest)
    else
      match splitLast keys with
      | some split => .ok (split, left)
      | none => .error (.soft rest)

/-! ## Items -/

/-- Reads a key, the equals sign and an item. -/
def assignment (value : List Char → Outcome Item) (rest : List Char) :
    Outcome ((List Key × Key) × Item) :=
  andThen (dottedKey rest) fun key rest =>
    firmly
      (andThen (expectingMark "=" (expectingMark "." (mark '=' rest))) fun _ rest =>
        mapOutcome (fun item => (key, item)) (value (skipBlanks rest)))

/-- Reads the items of an array up to its closing bracket. -/
def arrayBody (value : List Char → Outcome Item) (rest : List Char) : Outcome (List Item) :=
  let item (rest : List Char) : Outcome Item :=
    andThen (skipSpace rest) fun _ rest =>
      andThen (value rest) fun item rest => mapOutcome (fun _ => item) (skipSpace rest)
  let items : Outcome (List Item) :=
    match rest with
    | ']' :: _ => .ok ([], rest)
    | _ =>
      andThen (optionally (separated item ',' (rest.length + 1)) rest) fun items rest =>
        let items := items.getD []
        let rest :=
          match items, rest with
          | _ :: _, ',' :: more => more
          | _, rest => rest
        mapOutcome (fun _ => items) (skipSpace rest)
  andThen (firmly items) fun items rest =>
    mapOutcome (fun _ => items)
      (expectingMark "]" (labelled "array" (firmly (mark ']' rest))))

/-- Why a key can not be given an item. -/
inductive KeyFault where
  | duplicate (name : String) (within : Option (List String))
  | notTable (path : List String) (kind : String)
  deriving DecidableEq, Repr

/-- The wording of a fault of a key. -/
def KeyFault.message : KeyFault → String
  | duplicate name none => "duplicate key " ++ Data.backQuoted name
  | duplicate name (some []) => "duplicate key " ++ Data.backQuoted name ++ " in document root"
  | duplicate name (some path) =>
    "duplicate key " ++ Data.backQuoted name ++ " in table " ++
      Data.backQuoted (String.intercalate "." path)
  | notTable path kind =>
    "dotted key " ++ Data.backQuoted (String.intercalate "." path) ++
      " attempted to extend non-table type (" ++ kind ++ ")"

/-- Adds an item to a table between braces, under a dotted key; `done` are the parts of the key that were
followed, and `isDotted` tells whether the table was made by a dotted key. -/
def addInline (key : Key) (item : Item) : (done path : List Key) → (isDotted : Bool) → Members →
    Except KeyFault Members
  | done, [], isDotted, members =>
    if isDotted = done.isEmpty || (members.find? key.name).isSome then
      .error (.duplicate key.name none)
    else .ok (members ++ [(key, item)])
  | done, first :: path, _, members =>
    match members.find? first.name with
    | none =>
      (addInline key item (done ++ [first]) path true []).map fun inner =>
        members ++ [(first, .table .dotted inner none)]
    | some (.table form inner span) =>
      if form.isImplicit then
        (addInline key item (done ++ [first]) path (form = .dotted) inner).map fun inner =>
          members.put first (.table form inner span)
      else .error (.duplicate first.name none)
    | some other => .error (.notTable ((done ++ [first]).map (·.name)) other.kindName)

/-- Reads the members of a table between braces up to the closing brace. -/
def tableBody (value : List Char → Outcome Item) (rest : List Char) : Outcome Members :=
  let pair (rest : List Char) : Outcome ((List Key × Key) × Item) :=
    andThen (assignment value rest) fun pair rest => .ok (pair, skipBlanks rest)
  let members : Outcome Members :=
    andThen (optionally (separated pair ',' (rest.length + 1)) rest) fun pairs left =>
      let built : Except KeyFault Members :=
        (pairs.getD []).foldlM (fun members ((path, key), item) =>
          addInline key item [] path false members) []
      match built with
      | .ok members => .ok (members, skipBlanks left)
      | .error e => .error (.because e.message rest)
  andThen (firmly members) fun members rest =>
    mapOutcome (fun _ => members)
      (expectingMark "\x7d" (labelled "inline table" (firmly (mark '\x7d' rest))))

/-- Reads a number, a date or a time. -/
def numeric (rest : List Char) (place : List Char → Span) : Outcome Item :=
  orElse (andThen (dateTime rest) fun _ left => .ok (.dateTime (place left), left)) fun _ =>
    orElse (andThen (float rest) fun x left => .ok (.float x (place left), left)) fun _ =>
      andThen (integer rest) fun n left => .ok (.integer n (place left), left)

/-- Reads an item. The number of levels that may still be opened goes down with every bracket. -/
def item : (levels : Nat) → List Char → Outcome Item
  | 0, rest => .error (Refusal.because Refusal.tooDeep rest).settled
  | levels + 1, rest =>
    let place (left : List Char) : Span := ⟨rest.length, left.length⟩
    match rest with
    | [] => .error (.soft [])
    | c :: more =>
      if c = '"' || c = '\'' then
        andThen (string rest) fun s left => .ok (.string (String.ofList s) (place left), left)
      else if c = '[' then
        if levels = 0 then .error (Refusal.because Refusal.tooDeep rest).settled
        else
          andThen (arrayBody (item levels) more) fun items left =>
            .ok (.array items (place left), left)
      else if c = '\x7b' then
        if levels = 0 then .error (Refusal.because Refusal.tooDeep rest).settled
        else
          andThen (tableBody (item levels) more) fun members left =>
            .ok (.table .braces members (some (place left)), left)
      else if c = '+' || c = '-' || Text.isDigit c then numeric rest place
      else if c = '_' then
        expecting "leading digit"
          (andThen (integer rest) fun n left => .ok (.integer n (place left), left))
      else if c = '.' then
        expecting "leading digit"
          (andThen (float rest) fun x left => .ok (.float x (place left), left))
      else if c = 't' then
        expectingString
          (andThen (firmly (word "true" rest)) fun _ left => .ok (.boolean true (place left), left))
      else if c = 'f' then
        expectingString
          (andThen (firmly (word "false" rest)) fun _ left =>
            .ok (.boolean false (place left), left))
      else if c = 'i' then
        expectingString
          (andThen (word "inf" rest) fun _ left => .ok (.float (1.0 / 0.0) (place left), left))
      else if c = 'n' then
        expectingString
          (andThen (word "nan" rest) fun _ left => .ok (.float (0.0 / 0.0) (place left), left))
      else expectingString (.error (.soft rest))

/-! ## Statements -/

/-- Reads a key with its item and the rest of the line. -/
def itemStatement (rest : List Char) : Outcome Statement :=
  andThen
    (assignment
      (fun rest =>
        andThen (item nestingLimit rest) fun value left =>
          mapOutcome (fun _ => value) (trailing left))
      rest)
    fun ((path, key), value) left => .ok (.item path key value rest, left)

/-- Reads a header between brackets, of which there are one or two at either end. -/
def bracketed (brackets : Nat) (rest : List Char) : Outcome ((List Key × Key) × Span) :=
  let closing := List.replicate brackets ']'
  andThen (firmly (dottedKey (rest.drop brackets))) fun key left =>
    andThen
      (expectingMark (String.ofList closing) (expectingMark "." (firmly (exactly closing left))))
      fun _ left =>
        mapOutcome (fun _ => (key, ⟨rest.length, left.length⟩)) (firmly (trailing left))

/-- Reads a header and the rest of its line. -/
def headerStatement (rest : List Char) : Outcome Statement :=
  labelled "table header"
    (match rest.take 2 with
    | ['[', '['] =>
      andThen (bracketed 2 rest) fun ((path, key), span) left =>
        .ok (.tablesHeader path key span rest, left)
    | [_, _] =>
      andThen (bracketed 1 rest) fun ((path, key), span) left =>
        .ok (.header path key span rest, left)
    | _ => .error (.soft rest))

/-- Reads statements up to the end of the text: the statements read, and the refusal of the rest if there
is one. The fuel is the length of the text. -/
def statements : (fuel : Nat) → List Char → List Statement × Option Refusal
  | 0, rest => ([], some (.soft rest))
  | fuel + 1, rest =>
    let continued (r : Outcome Statement) : List Statement × Option Refusal :=
      match r with
      | .ok (s, left) =>
        let (more, refusal) := statements fuel left
        (s :: more, refusal)
      | .error e => ([], some e)
    match skipBlanks rest with
    | [] => ([], none)
    | '#' :: more =>
      match lineEnd (skipComment ('#' :: more)) with
      | .ok ((), left) => statements fuel left
      | .error e => ([], some e)
    | '[' :: more => continued (headerStatement ('[' :: more))
    | '\n' :: more => statements fuel more
    | '\r' :: more =>
      match newline ('\r' :: more) with
      | .ok ((), left) => statements fuel left
      | .error _ => ([], some (.soft ('\r' :: more)))
    | start => continued (itemStatement start)

end Fixtures.Toml
