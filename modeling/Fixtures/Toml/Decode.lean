import Fixtures.Data.Record
import Fixtures.Decimal.Layout
import Fixtures.Text.Split
import Fixtures.Toml.Document

/-!
# Decoding settings texts

A decoder takes an item of a known shape. A record takes the whole table of a text: its members are decoded
in the order in which they are written, and then the first missing field is reported. A fault is shown
below the line where it begins, with marks under what is wrong.
-/

namespace Fixtures.Toml

open Data (Fields Slots Record Mismatch Found)

/-- A reader of an item. -/
abbrev Decoder (α : Type) := Item → Except Mismatch α

/-- What an item is called where something else was expected. -/
def found : Item → Found
  | .string s _ => .string s
  | .integer n _ => .int n
  | .float x _ => .float (Decimal.Layout.pointed.text x)
  | .boolean b _ => .bool b
  | .dateTime _ | .table .. => .map
  | .array .. | .tables .. => .sequence

/-- Decodes a string. -/
def text (expected : String) : Decoder String
  | .string s _ => .ok s
  | item => .error (.invalidType (found item) expected)

/-- Decodes an integer that is at least `least`, which is not below zero. -/
def unsigned (expected : String) (least : Nat) : Decoder Nat
  | .integer n _ =>
    if (least : Int) ≤ n then .ok n.toNat else .error (.invalidValue (.int n) expected)
  | item => .error (.invalidType (found item) expected)

/-- Decodes an item that need not be there. -/
def present {α : Type} (decode : Decoder α) : Decoder (Option α) := fun item =>
  some <$> decode item

/-- Decodes an item into its slot. Unknown items are left out. -/
def fieldItem (item : Item) (name : String) : {ts : List Type} → Fields Decoder ts → Slots ts →
    Except Mismatch (Slots ts)
  | _, .nil, slots => .ok slots
  | _, .cons field decode _ more, (slot, slots) =>
    if field = name then (decode item).map fun a => (some a, slots)
    else (fieldItem item name more slots).map fun slots => (slot, slots)

/-- A fault in the data, at a place. -/
def Fault.ofMismatch (m : Mismatch) (span : Span) : Fault := ⟨m.describe, span⟩

/-- Decodes the members of a table. -/
def members {ts : List Type} (fields : Fields Decoder ts) (strict : Bool) (slots : Slots ts) :
    Members → Except Fault (Slots ts)
  | [] => .ok slots
  | (key, item) :: rest =>
    if strict && !fields.names.contains key.name then
      .error (.ofMismatch (.unknownField key.name fields.names) key.span)
    else
      match fieldItem item key.name fields slots with
      | .ok slots => members fields strict slots rest
      | .error m => .error (.ofMismatch m (item.span?.getD key.span))

/-- Decodes the table of a text as a record, which may hold other fields too unless it is `strict`. -/
def record {ts : List Type} {α : Type} (fields : Fields Decoder ts) (strict : Bool)
    (build : Record ts → α) (table : Item) : Except Fault α := do
  let (content, span) :=
    match table with
    | .table _ content span => (content, span.getD ⟨0, 0⟩)
    | _ => ([], ⟨0, 0⟩)
  let slots ← members fields strict fields.empty content
  match fields.finish slots with
  | .ok values => .ok (build values)
  | .error name => .error (.ofMismatch (.missingField name) span)

/-! ## Showing faults -/

/-- A place in a text: the number of its line, how far it is from the start of the line, and the line. -/
structure Position where
  line : Nat
  column : Nat
  content : List Char

/-- The number of bytes of a text. -/
def bytes (text : List Char) : Nat := (String.ofList text).utf8ByteSize

/-- The place of the character of an index. The end of the text counts as the place behind the last
character. A character of several bytes is placed by the bytes before it. -/
def Position.of (text : List Char) (index : Nat) : Position :=
  let last := min index (text.length - 1)
  let before := text.take last
  let line := before.reverse.takeWhile (· ≠ '\n')
  let isWide : Bool :=
    match text[index]? with
    | some c => c.utf8Size ≠ 1
    | none => false
  { line := before.count '\n'
    column := (if isWide then bytes line else line.length) + (index - last)
    content := ((Text.pieces '\n' text)[before.count '\n']?).getD [] }

/-- The text of a fault: its place, the line with marks below what is wrong, and the message. -/
def Fault.render (f : Fault) (text : String) : String :=
  let chars := text.toList
  let index := chars.length - f.span.first
  let p := Position.of chars index
  let marked := bytes ((chars.drop index).take (f.span.first - f.span.last))
  let marks := min marked (bytes p.content - p.column)
  let number := Text.natText (p.line + 1)
  let margin := String.ofList (List.replicate (number.length + 1) ' ') ++ "|"
  "TOML parse error at line " ++ number ++ ", column " ++ Text.natText (p.column + 1) ++ "\n" ++
    margin ++ "\n" ++ number ++ " | " ++ String.ofList p.content ++ "\n" ++
    margin ++ String.ofList (List.replicate (p.column + 1) ' ' ++ List.replicate (max marks 1) '^') ++
    "\n" ++ f.message ++ "\n"

/-- Decodes a text as a record; a fault is given as its text. -/
def decodeAll {α : Type} (decode : Item → Except Fault α) (text : String) : Except String α :=
  ((Document.parse text).bind decode).mapError (·.render text)

end Fixtures.Toml
