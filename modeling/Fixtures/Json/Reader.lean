import Fixtures.Data.Mismatch
import Fixtures.Decimal.Binary64
import Fixtures.Json.Value

/-!
# Reading JSON

A reader takes the rest of the text and gives a value and what is left, or a `Fault`. Readers of
values and of records share the steps of this module: white space, literals, numbers, strings, and
the separators of arrays and objects.

## Shape of a fault

Faults of the text know their place. Faults of the data (`Data.Mismatch`) are raised without one, and
the innermost value or container in whose reading they arise places them where that reading ended.
Places are counted in bytes, so a fault keeps the rest of the text and the number of bytes after its
start that were already looked at.

## Limits

Arrays and objects nest at most `depthLimit` deep. Every reader of nested values takes the number of
levels it may still open and is defined by recursion on it.
-/

namespace Fixtures.Json

open Data (Mismatch Found)

/-- How deep arrays and objects may nest in a text. -/
def depthLimit : Nat := 127

/-- What is wrong with a text. -/
inductive Cause where
  | eofValue
  | eofList
  | eofObject
  | eofString
  | expectedValue
  | expectedIdent
  | expectedColon
  | expectedListEnd
  | expectedObjectEnd
  | trailingComma
  | trailingCharacters
  | keyMustBeString
  | invalidNumber
  | numberOutOfRange
  | invalidEscape
  | loneSurrogate
  | hexEscapeEnd
  | controlCharacter
  | recursionLimit
  | mismatch (m : Mismatch)
  deriving DecidableEq, Repr

/-- The text of a cause. -/
def Cause.describe : Cause → String
  | eofValue => "EOF while parsing a value"
  | eofList => "EOF while parsing a list"
  | eofObject => "EOF while parsing an object"
  | eofString => "EOF while parsing a string"
  | expectedValue => "expected value"
  | expectedIdent => "expected ident"
  | expectedColon => "expected " ++ Data.backQuoted ":"
  | expectedListEnd => "expected " ++ Data.backQuoted "," ++ " or " ++ Data.backQuoted "]"
  | expectedObjectEnd => "expected " ++ Data.backQuoted "," ++ " or " ++ Data.backQuoted "\x7d"
  | trailingComma => "trailing comma"
  | trailingCharacters => "trailing characters"
  | keyMustBeString => "key must be a string"
  | invalidNumber => "invalid number"
  | numberOutOfRange => "number out of range"
  | invalidEscape => "invalid escape"
  | loneSurrogate => "lone leading surrogate in hex escape"
  | hexEscapeEnd => "unexpected end of hex escape"
  | controlCharacter => "control character (\\u0000-\\u001F) found while parsing a string"
  | recursionLimit => "recursion limit exceeded"
  | mismatch m => m.describe

/-- A failed reading: the cause, the rest of the text where the reader stands, and the number of
bytes after that point where the fault is placed, once it has a place. -/
structure Fault where
  cause : Cause
  rest : List Char
  place : Option (List Char × Nat)
  deriving DecidableEq, Repr

/-- The result of a reader: a value and the rest of the text. -/
abbrev Outcome (α : Type) := Except Fault (α × List Char)

/-- A fault placed `extra` bytes after the point where the reader stands. -/
def fault (cause : Cause) (rest : List Char) (extra : Nat) : Fault :=
  ⟨cause, rest, some (rest, extra)⟩

/-- A fault at the next byte, or at the end of the text if there is none. -/
def faultNext (cause : Cause) (rest : List Char) : Fault :=
  fault cause rest (if rest.isEmpty then 0 else 1)

/-- A fault of the data, not placed yet. -/
def shapeFault (m : Mismatch) (rest : List Char) : Fault := ⟨.mismatch m, rest, none⟩

/-- Places a fault that has no place where the reader stands. -/
def Fault.settle (f : Fault) : Fault :=
  match f.place with
  | some _ => f
  | none => { f with place := some (f.rest, 0) }

/-- Places the fault of a failed reading. -/
def settle {α : Type} : Outcome α → Outcome α
  | .ok r => .ok r
  | .error f => .error f.settle

/-! ## White space and literals -/

/-- The white space between tokens. -/
def isSpace (c : Char) : Bool := c = ' ' || c = '\n' || c = '\t' || c = '\r'

/-- The text after white space. -/
def skipSpace (text : List Char) : List Char := text.dropWhile isSpace

/-- Reads the remaining letters of a literal. -/
def literal : (letters rest : List Char) → Outcome Unit
  | [], rest => .ok ((), rest)
  | _ :: _, [] => .error (fault .eofValue [] 0)
  | l :: letters, c :: rest =>
    if l = c then literal letters rest else .error (fault .expectedIdent (c :: rest) 1)

/-! ## Numbers -/

/-- A number as it was written: exact if it fits 64 bits, else a double. -/
inductive Numeral where
  | int (n : Int)
  | float (x : Float)

/-- The greatest number that is kept exact. -/
def maxExact : Nat := UInt64.size - 1

/-- The powers of ten that are scaled by in one step. -/
def greatestPower : Nat := 308

/-- The power of ten as a double. -/
def powerOfTen (n : Nat) : Float := Float.ofScientific 1 false n

/-- The double that a significand scaled by a power of ten is taken for. Scaling multiplies or divides
by one double after the other; a significand scaled to infinity has no value. -/
def scale (fuel : Nat) (x : Float) (exponent : Int) : Option Float :=
  if exponent.natAbs ≤ greatestPower then
    if 0 ≤ exponent then
      let y := x * powerOfTen exponent.toNat
      if Decimal.isFinite y then some y else none
    else some (x / powerOfTen exponent.natAbs)
  else if x == 0.0 then some x
  else if 0 ≤ exponent then none
  else
    match fuel with
    | 0 => some 0.0
    | fuel + 1 => scale fuel (x / powerOfTen greatestPower) (exponent + greatestPower)

/-- The double written by a sign, a significand and an exponent. -/
def floatNumeral (negative : Bool) (significand : Nat) (exponent : Int) (rest : List Char) :
    Outcome Numeral :=
  match scale 16 (Float.ofNat significand) exponent with
  | some x => .ok (.float (if negative then -x else x), rest)
  | none => .error (fault .numberOutOfRange rest 0)

/-- The greatest exponent that is taken at its value. -/
def maxExponent : Nat := 2147483647

/-- Reads the digits of an exponent. One too great makes the number zero or out of range. -/
def exponentDigits (negative : Bool) (significand : Nat) (start : Int) (negativeExponent : Bool)
    (exponent : Nat) : List Char → Outcome Numeral
  | [] => done exponent []
  | c :: rest =>
    if Text.isDigit c then
      let next := exponent * 10 + Text.digitValue c
      if maxExponent < next then
        if significand ≠ 0 ∧ ¬ negativeExponent then .error (fault .numberOutOfRange rest 0)
        else .ok (.float (if negative then -0.0 else 0.0), rest.dropWhile Text.isDigit)
      else exponentDigits negative significand start negativeExponent next rest
    else done exponent (c :: rest)
where
  /-- The number once its exponent is known. -/
  done (exponent : Nat) (rest : List Char) : Outcome Numeral :=
    floatNumeral negative significand
      (if negativeExponent then start - exponent else start + exponent) rest

/-- Reads an exponent after its mark. -/
def exponentPart (negative : Bool) (significand : Nat) (start : Int) (rest : List Char) :
    Outcome Numeral :=
  let (negativeExponent, digits) :=
    match rest with
    | '+' :: rest => (false, rest)
    | '-' :: rest => (true, rest)
    | rest => (false, rest)
  match digits with
  | [] => .error (fault .eofValue [] 0)
  | c :: rest =>
    if Text.isDigit c then
      exponentDigits negative significand start negativeExponent (Text.digitValue c) rest
    else .error (fault .invalidNumber digits 1)

/-- Goes on to the exponent, if there is one, once the significand is complete. -/
def afterSignificand (negative : Bool) (significand : Nat) (exponent : Int) (rest : List Char) :
    Outcome Numeral :=
  match rest with
  | 'e' :: rest => exponentPart negative significand exponent rest
  | 'E' :: rest => exponentPart negative significand exponent rest
  | rest => floatNumeral negative significand exponent rest

/-- Reads the digits after the decimal point. Digits that no longer fit are passed over. -/
def fractionDigits (negative : Bool) (significand : Nat) (start : Int) (count : Nat) :
    List Char → Outcome Numeral
  | [] =>
    if count = 0 then .error (fault .eofValue [] 0)
    else afterSignificand negative significand (start - count) []
  | c :: rest =>
    if Text.isDigit c then
      let next := significand * 10 + Text.digitValue c
      if maxExact < next then
        afterSignificand negative significand (start - count) (rest.dropWhile Text.isDigit)
      else fractionDigits negative next start (count + 1) rest
    else if count = 0 then .error (faultNext .invalidNumber (c :: rest))
    else afterSignificand negative significand (start - count) (c :: rest)

/-- Passes over the digits of an integer that no longer fit, counting them in the exponent. -/
def longInteger (negative : Bool) (significand : Nat) (rest : List Char) : Outcome Numeral :=
  let extra := rest.takeWhile Text.isDigit
  match rest.dropWhile Text.isDigit with
  | '.' :: rest => fractionDigits negative significand extra.length 0 rest
  | rest => afterSignificand negative significand extra.length rest

/-- A number whose integer part is complete. -/
def afterInteger (negative : Bool) (significand : Nat) (rest : List Char) : Outcome Numeral :=
  match rest with
  | '.' :: rest => fractionDigits negative significand 0 0 rest
  | 'e' :: rest => exponentPart negative significand 0 rest
  | 'E' :: rest => exponentPart negative significand 0 rest
  | rest =>
    if ¬ negative then .ok (.int significand, rest)
    else if significand = 0 ∨ UInt64.size / 2 < significand then
      .ok (.float (-(Float.ofNat significand)), rest)
    else .ok (.int (-significand), rest)

/-- Reads the further digits of an integer. -/
def integerDigits (negative : Bool) (significand : Nat) : List Char → Outcome Numeral
  | [] => afterInteger negative significand []
  | c :: rest =>
    if Text.isDigit c then
      let next := significand * 10 + Text.digitValue c
      if maxExact < next then longInteger negative significand (c :: rest)
      else integerDigits negative next rest
    else afterInteger negative significand (c :: rest)

/-- Reads a number after its sign. -/
def number (negative : Bool) : List Char → Outcome Numeral
  | [] => .error (fault .eofValue [] 0)
  | '0' :: rest =>
    match rest with
    | c :: _ =>
      if Text.isDigit c then .error (faultNext .invalidNumber rest)
      else afterInteger negative 0 rest
    | [] => afterInteger negative 0 []
  | c :: rest =>
    if Text.isDigit c then integerDigits negative (Text.digitValue c) rest
    else .error (fault .invalidNumber (c :: rest) 1)

/-! ## Strings -/

/-- The number of bytes of a text. -/
def byteCount (text : List Char) : Nat := text.foldl (fun n c => n + c.utf8Size) 0

/-- The value of four hexadecimal digits at the start of a text. -/
def fourHex (rest : List Char) : Outcome Nat :=
  match rest with
  | a :: b :: c :: d :: after =>
    match Text.readHex? [a, b, c, d] with
    | some n => .ok (n, after)
    | none => .error (fault .invalidEscape rest 4)
  | short =>
    if 4 ≤ byteCount short then .error (fault .invalidEscape short 4)
    else .error (fault .eofString [] 0)

/-- Reads the second half of a pair of code units, the first of which is `high`. -/
def lowSurrogate (high : Nat) : List Char → Outcome Char
  | [] => .error (fault .eofString [] 0)
  | '\\' :: [] => .error (fault .eofString [] 0)
  | '\\' :: 'u' :: rest =>
    match fourHex rest with
    | .error f => .error f
    | .ok (low, rest) =>
      if 0xDC00 ≤ low ∧ low ≤ 0xDFFF then
        .ok (Char.ofNat ((high - 0xD800) * 0x400 + (low - 0xDC00) + 0x10000), rest)
      else .error (fault .loneSurrogate rest 0)
  | '\\' :: rest => .error (fault .hexEscapeEnd rest 1)
  | rest => .error (fault .hexEscapeEnd rest 1)

/-- Reads an escape after its backslash. -/
def escaped : List Char → Outcome Char
  | [] => .error (fault .eofString [] 0)
  | '"' :: rest => .ok ('"', rest)
  | '\\' :: rest => .ok ('\\', rest)
  | '/' :: rest => .ok ('/', rest)
  | 'b' :: rest => .ok ('\x08', rest)
  | 'f' :: rest => .ok ('\x0c', rest)
  | 'n' :: rest => .ok ('\n', rest)
  | 'r' :: rest => .ok ('\r', rest)
  | 't' :: rest => .ok ('\t', rest)
  | 'u' :: rest =>
    match fourHex rest with
    | .error f => .error f
    | .ok (n, rest) =>
      if 0xDC00 ≤ n ∧ n ≤ 0xDFFF then .error (fault .loneSurrogate rest 0)
      else if 0xD800 ≤ n ∧ n ≤ 0xDBFF then lowSurrogate n rest
      else .ok (Char.ofNat n, rest)
  | rest => .error (fault .invalidEscape rest 1)

/-- Reads the characters of a string up to its closing quotation mark. The fuel is the length of the
text. -/
def stringChars : (fuel : Nat) → (read rest : List Char) → Outcome String
  | 0, _, rest => .error (fault .eofString rest 0)
  | _ + 1, _, [] => .error (fault .eofString [] 0)
  | fuel + 1, read, c :: rest =>
    if c = '"' then .ok (String.ofList read.reverse, rest)
    else if c = '\\' then
      match escaped rest with
      | .error f => .error f
      | .ok (e, rest) => stringChars fuel (e :: read) rest
    else if c.toNat < 0x20 then .error (fault .controlCharacter (c :: rest) 1)
    else stringChars fuel (c :: read) rest

/-- Reads a string after its opening quotation mark. -/
def stringBody (rest : List Char) : Outcome String := stringChars (rest.length + 1) [] rest

/-! ## Arrays and objects -/

/-- Whether another item follows: no item before a closing bracket, else after a comma. -/
def nextItem (first : Bool) (rest : List Char) : Outcome Bool :=
  match skipSpace rest with
  | [] => .error (faultNext .eofList [])
  | ']' :: rest => .ok (false, ']' :: rest)
  | c :: rest =>
    if first then .ok (true, c :: rest)
    else if c = ',' then
      match skipSpace rest with
      | [] => .error (faultNext .eofValue [])
      | ']' :: rest => .error (faultNext .trailingComma (']' :: rest))
      | rest => .ok (true, rest)
    else .error (faultNext .expectedListEnd (c :: rest))

/-- The key of the next member, if there is one. -/
def nextKey (first : Bool) (rest : List Char) : Outcome (Option String) :=
  match skipSpace rest with
  | [] => .error (faultNext .eofObject [])
  | '\x7d' :: rest => .ok (none, '\x7d' :: rest)
  | c :: rest =>
    if first then
      if c = '"' then key rest else .error (faultNext .keyMustBeString (c :: rest))
    else if c = ',' then
      match skipSpace rest with
      | [] => .error (faultNext .eofValue [])
      | '"' :: rest => key rest
      | '\x7d' :: rest => .error (faultNext .trailingComma ('\x7d' :: rest))
      | rest => .error (faultNext .keyMustBeString rest)
    else .error (faultNext .expectedObjectEnd (c :: rest))
where
  /-- The key after its opening quotation mark. -/
  key (rest : List Char) : Outcome (Option String) :=
    match stringBody rest with
    | .ok (k, rest) => .ok (some k, rest)
    | .error f => .error f

/-- Reads the colon between a key and its value. -/
def colon (rest : List Char) : Outcome Unit :=
  match skipSpace rest with
  | [] => .error (faultNext .eofObject [])
  | ':' :: rest => .ok ((), rest)
  | rest => .error (faultNext .expectedColon rest)

/-- Reads the end of an array. -/
def arrayEnd (rest : List Char) : Outcome Unit :=
  match skipSpace rest with
  | [] => .error (faultNext .eofList [])
  | ']' :: rest => .ok ((), rest)
  | ',' :: rest =>
    match skipSpace rest with
    | ']' :: rest => .error (faultNext .trailingComma (']' :: rest))
    | rest => .error (faultNext .trailingCharacters rest)
  | rest => .error (faultNext .trailingCharacters rest)

/-- Reads the end of an object. -/
def objectEnd (rest : List Char) : Outcome Unit :=
  match skipSpace rest with
  | [] => .error (faultNext .eofObject [])
  | '\x7d' :: rest => .ok ((), rest)
  | ',' :: rest => .error (faultNext .trailingComma (',' :: rest))
  | rest => .error (faultNext .trailingCharacters rest)

/-- Ends a container after its content was read. The end is read even if the content failed, and a
fault of the data in the content is placed after it. -/
def close {α : Type} (end_ : List Char → Outcome Unit) : Outcome α → Outcome α
  | .ok (a, rest) =>
    match end_ rest with
    | .ok ((), rest) => .ok (a, rest)
    | .error f => .error f
  | .error f =>
    match end_ f.rest with
    | .ok ((), rest) => .error { f with rest := rest }
    | .error g => .error { f with rest := g.rest }

/-- Reads items, each of which takes at least one character, until there are no more. The fuel is
the length of the text. -/
def items {α : Type} (item : List Char → Outcome α) :
    (fuel : Nat) → (read : List α) → (rest : List Char) → Outcome (List α)
  | 0, _, rest => .error (fault .eofList rest 0)
  | fuel + 1, read, rest =>
    match nextItem read.isEmpty rest with
    | .error f => .error f
    | .ok (false, rest) => .ok (read.reverse, rest)
    | .ok (true, rest) =>
      match item rest with
      | .error f => .error f
      | .ok (a, rest) => items item fuel (a :: read) rest

/-- Folds over the members of an object until there are no more. The fuel is the length of the
text. -/
def members {σ : Type} (member : σ → String → List Char → Outcome σ) :
    (fuel : Nat) → (first : Bool) → σ → (rest : List Char) → Outcome σ
  | 0, _, _, rest => .error (fault .eofObject rest 0)
  | fuel + 1, first, state, rest =>
    match nextKey first rest with
    | .error f => .error f
    | .ok (none, rest) => .ok (state, rest)
    | .ok (some k, rest) =>
      match colon rest with
      | .error f => .error f
      | .ok ((), rest) =>
        match member state k rest with
        | .error f => .error f
        | .ok (state, rest) => members member fuel false state rest

/-! ## Values -/

/-- Reads the members of an object of values: a repeated key keeps its place and its last value. -/
def valueMembers (value : List Char → Outcome Json) (rest : List Char) : Outcome Document :=
  members
    (fun read k rest =>
      match value rest with
      | .ok (v, rest) => .ok (setMember read k v, rest)
      | .error f => .error f)
    (rest.length + 1) true [] rest

/-- Applies a function to the value that was read. -/
def mapOutcome {α β : Type} (f : α → β) : Outcome α → Outcome β
  | .ok (a, rest) => .ok (f a, rest)
  | .error e => .error e

/-- Reads a value that may open `levels` more arrays and objects. -/
def value : (levels : Nat) → (rest : List Char) → Outcome Json
  | levels, rest =>
    match skipSpace rest with
    | [] => .error (faultNext .eofValue [])
    | 'n' :: rest => mapOutcome (fun _ => null) (literal ['u', 'l', 'l'] rest)
    | 't' :: rest => mapOutcome (fun _ => bool true) (literal ['r', 'u', 'e'] rest)
    | 'f' :: rest => mapOutcome (fun _ => bool false) (literal ['a', 'l', 's', 'e'] rest)
    | '"' :: rest => mapOutcome string (stringBody rest)
    | '-' :: rest => mapOutcome ofNumeral (number true rest)
    | '[' :: rest =>
      match levels with
      | 0 => .error (faultNext .recursionLimit ('[' :: rest))
      | levels + 1 =>
        mapOutcome array (close arrayEnd (items (value levels) (rest.length + 1) [] rest))
    | '\x7b' :: rest =>
      match levels with
      | 0 => .error (faultNext .recursionLimit ('\x7b' :: rest))
      | levels + 1 => mapOutcome object (close objectEnd (valueMembers (value levels) rest))
    | c :: rest =>
      if Text.isDigit c then mapOutcome ofNumeral (number false (c :: rest))
      else .error (faultNext .expectedValue (c :: rest))
where
  /-- The value of a number. -/
  ofNumeral : Numeral → Json
    | .int n => int n
    | .float x => float x

/-! ## Whole texts -/

/-- A failed reading of a whole text: the cause and its line and column. Lines count from one, and
the column is the number of bytes of the line that had been looked at. -/
structure ReadError where
  cause : Cause
  line : Nat
  column : Nat
  deriving DecidableEq, Repr

/-- The text of a reading error. -/
def ReadError.describe (e : ReadError) : String :=
  e.cause.describe ++ " at line " ++ Text.natText e.line ++ " column " ++ Text.natText e.column

/-- The place after some bytes of a text. -/
def placeOf (bytes : Nat) : (text : List Char) → (line column : Nat) → Nat × Nat
  | [], line, column => (line, column)
  | c :: rest, line, column =>
    if bytes < c.utf8Size then (line, column + bytes)
    else if c = '\n' then placeOf (bytes - 1) rest (line + 1) 0
    else placeOf (bytes - c.utf8Size) rest line (column + c.utf8Size)

/-- A fault with its place in the whole text. -/
def Fault.locate (f : Fault) (text : List Char) : ReadError :=
  let (rest, extra) := f.place.getD (f.rest, 0)
  let (line, column) := placeOf (byteCount text - byteCount rest + extra) text 1 0
  ⟨f.cause, line, column⟩

/-- Reads a whole text with a reader: after the value nothing but white space may follow. -/
def readAll {α : Type} (reader : List Char → Outcome α) (text : List Char) : Except ReadError α :=
  match reader text with
  | .error f => .error (f.locate text)
  | .ok (a, rest) =>
    match skipSpace rest with
    | [] => .ok a
    | rest => .error ((faultNext .trailingCharacters rest).locate text)

/-- Reads a text that holds one value. -/
def parse (text : String) : Except ReadError Json := readAll (value depthLimit) text.toList

end Fixtures.Json
