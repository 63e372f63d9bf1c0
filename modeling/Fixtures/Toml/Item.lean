/-!
# Settings texts as trees

A text of settings is a table: a list of keys with their items. An item is a scalar, an array or a table.
Each item keeps the place where it is written, because faults in the data are shown there.

Places are counted from the end of the text: a `Span` holds how many characters are left where something
begins and where it ends. So a reader that keeps only the rest of the text can tell places.
-/

namespace Fixtures.Toml

/-- A piece of a text, by the characters left at its start and behind it. -/
structure Span where
  first : Nat
  last : Nat
  deriving DecidableEq, Repr

/-- A key and where it is written. -/
structure Key where
  name : String
  span : Span
  deriving DecidableEq, Repr

/-- How a table came to be. -/
inductive Form where
  /-- Between braces; it can not be added to. -/
  | braces
  /-- By a header of its own, or as the table of the whole text. -/
  | header
  /-- By a header of a table inside it. -/
  | implied
  /-- By a dotted key. -/
  | dotted
  deriving DecidableEq, Repr

/-- Whether a table has no header of its own. -/
def Form.isImplicit : Form → Bool
  | implied | dotted => true
  | braces | header => false

/-- What a key stands for. -/
inductive Item where
  | string (s : String) (span : Span)
  | integer (n : Int) (span : Span)
  | float (x : Float) (span : Span)
  | boolean (b : Bool) (span : Span)
  | dateTime (span : Span)
  | array (items : List Item) (span : Span)
  /-- A table; one made by dotted keys or by headers of inner tables has no place of its own. -/
  | table (form : Form) (members : List (Key × Item)) (span : Option Span)
  /-- The tables of a repeated header, the last one first. -/
  | tables (items : List Item) (span : Option Span)

/-- The items of a table under their keys. -/
abbrev Members := List (Key × Item)

namespace Item

/-- Where an item is written. -/
def span? : Item → Option Span
  | string _ span | integer _ span | float _ span | boolean _ span | dateTime span
  | array _ span => some span
  | table _ _ span | tables _ span => span

/-- What an item is called that a key can not be added to. -/
def kindName : Item → String
  | string .. => "string"
  | integer .. => "integer"
  | float .. => "float"
  | boolean .. => "boolean"
  | dateTime _ => "datetime"
  | array .. => "array"
  | table .. => "inline table"
  | tables .. => "array of tables"

end Item

namespace Members

/-- The item of a name. -/
def find? (members : Members) (name : String) : Option Item :=
  (List.find? (fun (key, _) => key.name = name) members).map (·.2)

/-- Replaces the item of a name, or adds one at the end. -/
def put (members : Members) (key : Key) (item : Item) : Members :=
  if members.any (·.1.name = key.name) then
    members.map fun (k, old) => if k.name = key.name then (k, item) else (k, old)
  else members ++ [(key, item)]

/-- The members without those of a name. -/
def remove (members : Members) (name : String) : Members :=
  members.filter (·.1.name ≠ name)

end Members

end Fixtures.Toml
