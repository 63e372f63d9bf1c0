import Fixtures.Data.Record
import Fixtures.Decimal.Layout
import Fixtures.Json.Reader

/-!
# Decoding JSON

A decoder reads a value of a known shape. What stands there instead is named in the fault, which is
placed behind it; a container that stands there is not entered. A record is written as an object or as
the array of all its fields; the values of unknown keys are passed over.

## Shape of a decoder

`Decoder α` takes the number of levels that may still be opened. `record` reads a record described by
`Data.Fields`, and `decodeAll` reads a whole text.
-/

namespace Fixtures.Json

open Data (Fields Slots Record Mismatch Found)

/-- A reader of a value that may open so many more arrays and objects. -/
abbrev Decoder (α : Type) := (levels : Nat) → (rest : List Char) → Outcome α

/-! ## What stands there instead -/

/-- What a number is called. -/
def foundNumeral : Numeral → Found
  | .int n => .int n
  | .float x => .float (Decimal.Layout.json.text x)

/-- What stands at the start of the text. -/
def found (rest : List Char) : Outcome Found :=
  match skipSpace rest with
  | [] => .error (faultNext .eofValue [])
  | 'n' :: rest => mapOutcome (fun _ => .null) (literal ['u', 'l', 'l'] rest)
  | 't' :: rest => mapOutcome (fun _ => .bool true) (literal ['r', 'u', 'e'] rest)
  | 'f' :: rest => mapOutcome (fun _ => .bool false) (literal ['a', 'l', 's', 'e'] rest)
  | '"' :: rest => mapOutcome .string (stringBody rest)
  | '-' :: rest => mapOutcome foundNumeral (number true rest)
  | '[' :: rest => .ok (.sequence, '[' :: rest)
  | '\x7b' :: rest => .ok (.map, '\x7b' :: rest)
  | c :: rest =>
    if Text.isDigit c then mapOutcome foundNumeral (number false (c :: rest))
    else .error (faultNext .expectedValue (c :: rest))

/-- Refuses what stands at the start of the text. -/
def refuse {α : Type} (expected : String) (rest : List Char) : Outcome α :=
  match found rest with
  | .ok (what, rest) => .error (shapeFault (.invalidType what expected) rest).settle
  | .error f => .error f

/-! ## Values passed over -/

/-- Passes over an exponent after its mark. -/
def skipExponent (rest : List Char) : Outcome Unit :=
  let digits :=
    match rest with
    | '+' :: rest => rest
    | '-' :: rest => rest
    | rest => rest
  match digits with
  | [] => .error (fault .invalidNumber [] 0)
  | c :: rest =>
    if Text.isDigit c then .ok ((), rest.dropWhile Text.isDigit)
    else .error (fault .invalidNumber (c :: rest) 1)

/-- Passes over what may follow the digits of a number. -/
def skipAfterDigits (rest : List Char) : Outcome Unit :=
  match rest with
  | 'e' :: rest => skipExponent rest
  | 'E' :: rest => skipExponent rest
  | rest => .ok ((), rest)

/-- Passes over what may follow the integer part of a number. -/
def skipFraction (rest : List Char) : Outcome Unit :=
  match rest with
  | '.' :: rest =>
    match rest with
    | c :: more =>
      if Text.isDigit c then skipAfterDigits (more.dropWhile Text.isDigit)
      else .error (faultNext .invalidNumber (c :: more))
    | [] => .error (faultNext .invalidNumber [])
  | rest => skipAfterDigits rest

/-- Passes over a number after its sign. -/
def skipNumber (rest : List Char) : Outcome Unit :=
  match rest with
  | [] => .error (fault .invalidNumber [] 0)
  | '0' :: rest =>
    match rest with
    | c :: more =>
      if Text.isDigit c then .error (faultNext .invalidNumber (c :: more)) else skipFraction rest
    | [] => .ok ((), [])
  | c :: rest =>
    if Text.isDigit c then skipFraction (rest.dropWhile Text.isDigit)
    else .error (fault .invalidNumber (c :: rest) 1)

/-- Passes over an escape after its backslash. -/
def skipEscape (rest : List Char) : Outcome Unit :=
  match rest with
  | [] => .error (fault .eofString [] 0)
  | 'u' :: rest => mapOutcome (fun _ => ()) (fourHex rest)
  | c :: rest =>
    if ['"', '\\', '/', 'b', 'f', 'n', 'r', 't'].contains c then .ok ((), rest)
    else .error (fault .invalidEscape (c :: rest) 1)

/-- Passes over the characters of a string up to its closing quotation mark. The fuel is the length of
the text. -/
def skipString : (fuel : Nat) → (rest : List Char) → Outcome Unit
  | 0, rest => .error (fault .eofString rest 0)
  | _ + 1, [] => .error (fault .eofString [] 0)
  | fuel + 1, c :: rest =>
    if c = '"' then .ok ((), rest)
    else if c = '\\' then
      match skipEscape rest with
      | .ok ((), rest) => skipString fuel rest
      | .error f => .error f
    else if c.toNat < 0x20 then .error (fault .controlCharacter (c :: rest) 0)
    else skipString fuel rest

/-- What to do next while a value is passed over: read a value, or go on behind one. -/
inductive Passing where
  | value
  /-- Behind the opening of a container, or behind a value in one. -/
  | inside (first : Bool)

/-- Passes over a key and its colon. -/
def skipKey (rest : List Char) : Outcome Unit :=
  match skipSpace rest with
  | [] => .error (faultNext .eofObject [])
  | '"' :: rest =>
    match skipString (rest.length + 1) rest with
    | .ok ((), rest) => colon rest
    | .error f => .error f
  | rest => .error (faultNext .keyMustBeString rest)

/-- Passes over a value inside containers; `open_` are these, the innermost first, and true for an
array. Containers may nest to any depth. The fuel is twice the length of the text. -/
def skipNested : (fuel : Nat) → Passing → (open_ : List Bool) → (rest : List Char) → Outcome Unit
  | 0, _, _, rest => .error (faultNext .eofValue rest)
  | fuel + 1, .value, open_, rest =>
    let after (r : Outcome Unit) : Outcome Unit :=
      match r with
      | .ok ((), rest) => skipNested fuel (.inside false) open_ rest
      | .error f => .error f
    match skipSpace rest with
    | [] => .error (faultNext .eofValue [])
    | 'n' :: rest => after (literal ['u', 'l', 'l'] rest)
    | 't' :: rest => after (literal ['r', 'u', 'e'] rest)
    | 'f' :: rest => after (literal ['a', 'l', 's', 'e'] rest)
    | '"' :: rest => after (skipString (rest.length + 1) rest)
    | '-' :: rest => after (skipNumber rest)
    | '[' :: rest => skipNested fuel (.inside true) (true :: open_) rest
    | '\x7b' :: rest => skipNested fuel (.inside true) (false :: open_) rest
    | c :: rest =>
      if Text.isDigit c then after (skipNumber (c :: rest))
      else .error (faultNext .expectedValue (c :: rest))
  | _ + 1, .inside _, [], rest => .ok ((), rest)
  | fuel + 1, .inside first, isArray :: outer, rest =>
    let next (rest : List Char) : Outcome Unit :=
      if isArray then skipNested fuel .value (isArray :: outer) rest
      else
        match skipKey rest with
        | .ok ((), rest) => skipNested fuel .value (isArray :: outer) rest
        | .error f => .error f
    match skipSpace rest with
    | [] => .error (faultNext (if isArray then .eofList else .eofObject) [])
    | c :: rest =>
      if c = ',' && !first then next rest
      else if c = (if isArray then ']' else '\x7d') then skipNested fuel (.inside false) outer rest
      else if first then next (c :: rest)
      else .error (faultNext (if isArray then .expectedListEnd else .expectedObjectEnd) (c :: rest))

/-- Passes over a value. -/
def skipValue (rest : List Char) : Outcome Unit :=
  skipNested (2 * rest.length + 2) .value [] rest

/-! ## Simple values -/

/-- Decodes a string. -/
def text (expected : String) : Decoder String := fun _ rest =>
  match skipSpace rest with
  | '"' :: rest => stringBody rest
  | rest => refuse expected rest

/-- Decodes an integer of 64 bits without a sign that is at least `least`. -/
def unsigned (expected : String) (least : Nat) : Decoder Nat := fun _ rest =>
  match found rest with
  | .ok (.int n, after) =>
    if (least : Int) ≤ n then .ok (n.toNat, after)
    else .error (shapeFault (.invalidValue (.int n) expected) after).settle
  | .ok (what, after) => .error (shapeFault (.invalidType what expected) after).settle
  | .error f => .error f

/-- Decodes a value or null. -/
def optional {α : Type} (decode : Decoder α) : Decoder (Option α) := fun levels rest =>
  match skipSpace rest with
  | 'n' :: rest => mapOutcome (fun _ => none) (literal ['u', 'l', 'l'] rest)
  | rest => mapOutcome some (decode levels rest)

/-- Decodes a value and then another shape of it, which may be refused. -/
def checked {α β : Type} (decode : Decoder α) (shape : α → Except Mismatch β) : Decoder β :=
  fun levels rest =>
    match decode levels rest with
    | .error f => .error f
    | .ok (a, rest) =>
      match shape a with
      | .ok b => .ok (b, rest)
      | .error m => .error (shapeFault m rest).settle

/-! ## Containers -/

/-- Decodes an array. -/
def list {α : Type} (item : Decoder α) : Decoder (List α) := fun levels rest =>
  match skipSpace rest with
  | '[' :: rest =>
    match levels with
    | 0 => .error (faultNext .recursionLimit ('[' :: rest))
    | levels + 1 => settle (close arrayEnd (items (item levels) (rest.length + 1) [] rest))
  | rest => refuse "a sequence" rest

/-- Decodes an object of any values. -/
def document : Decoder Document := fun levels rest =>
  match skipSpace rest with
  | '\x7b' :: rest =>
    match levels with
    | 0 => .error (faultNext .recursionLimit ('\x7b' :: rest))
    | levels + 1 => settle (close objectEnd (valueMembers (value levels) rest))
  | rest => refuse "a map" rest

/-! ## Records -/

/-- What a record with a name is called where it is expected. -/
def recordText (name : String) : String := "struct " ++ name

/-- What a record with a name is called where its fields are expected as an array. -/
def elementsText (name : String) (count : Nat) : String :=
  recordText name ++ " with " ++ Text.natText count ++
    if count = 1 then " element" else " elements"

/-- Decodes the value of a field into its slot. The value of an unknown field is passed over. -/
def fieldValue (levels : Nat) : {ts : List Type} → Fields Decoder ts → Slots ts → (key : String) →
    (rest : List Char) → Outcome (Slots ts)
  | _, .nil, _, _, rest => mapOutcome (fun _ => ()) (skipValue rest)
  | _, .cons name decode _ more, (slot, slots), key, rest =>
    if name = key then mapOutcome (fun v => (some v, slots)) (decode levels rest)
    else mapOutcome (fun slots => (slot, slots)) (fieldValue levels more slots key rest)

/-- Decodes the fields of an object. The fuel is the length of the text. -/
def objectFields {ts : List Type} (levels : Nat) (fields : Fields Decoder ts) :
    (fuel : Nat) → (first : Bool) → Slots ts → (rest : List Char) → Outcome (Slots ts)
  | 0, _, _, rest => .error (fault .eofObject rest 0)
  | fuel + 1, first, slots, rest =>
    match nextKey first rest with
    | .error f => .error f
    | .ok (none, rest) => .ok (slots, rest)
    | .ok (some key, rest) =>
      if fields.isRead slots key then .error (shapeFault (.duplicateField key) rest)
      else
        match colon rest with
        | .error f => .error f
        | .ok ((), rest) =>
          match fieldValue levels fields slots key rest with
          | .error f => .error f
          | .ok (slots, rest) => objectFields levels fields fuel false slots rest

/-- The record of the slots of an object. -/
def finishObject {ts : List Type} (fields : Fields Decoder ts) (r : Outcome (Slots ts)) :
    Outcome (Record ts) :=
  match r with
  | .error f => .error f
  | .ok (slots, rest) =>
    match fields.finish slots with
    | .ok values => .ok (values, rest)
    | .error name => .error (shapeFault (.missingField name) rest)

/-- Decodes the items of an array as the fields of a record, the first of which is the item of the
given index. -/
def arrayFields (levels : Nat) (expected : String) : {ts : List Type} → Fields Decoder ts →
    (index : Nat) → (rest : List Char) → Outcome (Record ts)
  | _, .nil, _, rest => .ok ((), rest)
  | _, .cons _ decode _ more, index, rest =>
    match nextItem (index = 0) rest with
    | .error f => .error f
    | .ok (false, rest) => .error (shapeFault (.invalidLength index expected) rest)
    | .ok (true, rest) =>
      match decode levels rest with
      | .error f => .error f
      | .ok (v, rest) =>
        mapOutcome (fun values => (v, values)) (arrayFields levels expected more (index + 1) rest)

/-- Decodes a record. -/
def record {ts : List Type} {α : Type} (name : String) (fields : Fields Decoder ts)
    (build : Record ts → α) : Decoder α := fun levels rest =>
  match skipSpace rest with
  | '[' :: rest =>
    match levels with
    | 0 => .error (faultNext .recursionLimit ('[' :: rest))
    | levels + 1 =>
      let expected := elementsText name fields.count
      mapOutcome build (settle (close arrayEnd (arrayFields levels expected fields 0 rest)))
  | '\x7b' :: rest =>
    match levels with
    | 0 => .error (faultNext .recursionLimit ('\x7b' :: rest))
    | levels + 1 =>
      let slots := objectFields levels fields (rest.length + 1) true fields.empty rest
      mapOutcome build (settle (close objectEnd (finishObject fields slots)))
  | rest => refuse (recordText name) rest

/-- Decodes a whole text. -/
def decodeAll {α : Type} (decode : Decoder α) (text : String) : Except ReadError α :=
  readAll (decode depthLimit) text.toList

end Fixtures.Json
