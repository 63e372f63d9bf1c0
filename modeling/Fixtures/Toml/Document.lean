import Fixtures.Toml.Statement

/-!
# Tables of settings texts

The statements of a text build its table one after another. A header opens a table, and the items up to
the next header belong to it. A table is opened once; a dotted key makes tables that no header may open, and
adds to no table that has a header.

The first fault ends the building, so a key that is given twice is reported before what cannot be read
behind it.
-/

namespace Fixtures.Toml

/-- A fault in a text and where it is shown. -/
structure Fault where
  message : String
  span : Span
  deriving DecidableEq, Repr

namespace Document

/-- What happens to a table that was reached: its members and its place change. -/
abbrev Change := Form → Members → Option Span → Except KeyFault (Members × Option Span)

/-- Changes the table at the end of a path. Tables that are missing on the way are made; `isDotted` tells
whether by a dotted key, which follows no table that has a header. -/
def within (isDotted : Bool) (change : Change) : (done path : List Key) → Change
  | _, [], form, members, span => change form members span
  | done, key :: path, _, members, span =>
    let names := (done ++ [key]).map (·.name)
    match members.find? key.name with
    | none => do
      let form := if isDotted then .dotted else .implied
      let (inner, place) ← within isDotted change (done ++ [key]) path form [] none
      .ok (members ++ [(key, .table form inner place)], span)
    | some (.table form inner place) =>
      if form = .braces then .error (.notTable names "inline table")
      else if isDotted && !form.isImplicit then .error (.duplicate key.name none)
      else do
        let (inner, place) ← within isDotted change (done ++ [key]) path form inner place
        .ok (members.put key (.table form inner place), span)
    | some (.tables (.table form inner innerPlace :: others) place) => do
      let (inner, innerPlace) ← within isDotted change (done ++ [key]) path form inner innerPlace
      .ok (members.put key (.tables (.table form inner innerPlace :: others) place), span)
    | some other => .error (.notTable names other.kindName)

/-- The span of a table that grows up to the end of an item. -/
def grown (span : Option Span) (item : Item) : Option Span :=
  match span, item.span? with
  | some s, some i => some ⟨s.first, i.last⟩
  | s, _ => s

/-- Adds an item under a key to the table of a header, or to one that was reached from there by a dotted
path and must have been made by such. -/
def addItem (header : List Key) (isReached : Bool) (key : Key) (item : Item) : Change :=
  fun form members span =>
    if decide (form = .dotted) != isReached then .error (.duplicate key.name none)
    else if (members.find? key.name).isSome then
      .error (.duplicate key.name (some (header.map (·.name))))
    else .ok (members ++ [(key, item)], span)

/-- Adds an item under a dotted key to the table of a header. -/
def assign (header path : List Key) (key : Key) (item : Item) : Change :=
  fun form members span =>
    within true (addItem header (!path.isEmpty) key item) [] path form members (grown span item)

/-- Opens a table under its last key. One made by headers of inner tables keeps its members. -/
def openTable (path : List Key) (key : Key) (place : Span) : Change := fun _ members span =>
  match members.find? key.name with
  | none => .ok (members ++ [(key, .table .header [] (some place))], span)
  | some (.table .implied inner _) =>
    .ok (members.remove key.name ++ [(key, .table .header inner (some place))], span)
  | some _ => .error (.duplicate key.name (some (path.map (·.name))))

/-- Opens one more table of a list under its last key. -/
def openNext (path : List Key) (key : Key) (place : Span) : Change := fun _ members span =>
  let table : Item := .table .header [] (some place)
  match members.find? key.name with
  | none => .ok (members ++ [(key, .tables [table] (some place))], span)
  | some (.tables others first) =>
    let whole := first.map fun s => ⟨s.first, place.last⟩
    .ok (members.put key (.tables (table :: others) whole), span)
  | some _ => .error (.duplicate key.name (some (path.map (·.name))))

/-- A text of which some statements were read: its table, and the keys of the last header. -/
structure Progress where
  members : Members
  span : Option Span
  header : List Key

/-- The table of a text of so many characters before any statement. -/
def Progress.start (length : Nat) : Progress := ⟨[], some ⟨length, length⟩, []⟩

/-- Changes the table at the end of a path. -/
def Progress.change (p : Progress) (path : List Key) (change : Change) :
    Except KeyFault Progress := do
  let (members, span) ← within false change [] path .header p.members p.span
  .ok { p with members, span }

/-- Carries a statement out. -/
def Progress.step (p : Progress) (s : Statement) : Except KeyFault Progress :=
  match s with
  | .item path key value _ => p.change p.header (assign p.header path key value)
  | .header path key place _ => do
    .ok { ← p.change path (openTable path key place) with header := path ++ [key] }
  | .tablesHeader path key place _ => do
    .ok { ← p.change path (openNext path key place) with header := path ++ [key] }

/-- The text from the first character of a statement on. -/
def startOf : Statement → List Char
  | .item _ _ _ start | .header _ _ _ start | .tablesHeader _ _ _ start => start

/-- Carries statements out. A fault is shown at the first character of its statement. -/
def build (p : Progress) : List Statement → Except Fault Progress
  | [] => .ok p
  | s :: rest =>
    match p.step s with
    | .ok p => build p rest
    | .error e => .error ⟨e.message, (Refusal.soft (startOf s)).span⟩

/-- The characters of a text without the mark of its byte order. -/
def body (text : String) : List Char :=
  match text.toList with
  | '\ufeff' :: rest => rest
  | rest => rest

/-- The table of a text. -/
def parse (text : String) : Except Fault Item :=
  let rest := body text
  let (read, refusal) := statements (rest.length + 1) rest
  match build (.start text.toList.length) read, refusal with
  | .error e, _ => .error e
  | .ok _, some r => .error ⟨r.message, r.span⟩
  | .ok p, none => .ok (.table .header p.members p.span)

end Document

end Fixtures.Toml
