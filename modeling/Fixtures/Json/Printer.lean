import Fixtures.Decimal.Layout
import Fixtures.Json.Value

/-!
# Writing JSON

Two layouts: `compact` for one-line answers and log events, `pretty` for document files. Strings
escape only the quotation mark, the backslash and the control characters; everything else is written
as it is. A number that is infinite or undefined has no JSON form and is written as `null`.
-/

namespace Fixtures.Json

open Text (hexDigits intDigits)

/-- A character inside a string literal. -/
def escape (c : Char) : List Char :=
  match c with
  | '"' => ['\\', '"']
  | '\\' => ['\\', '\\']
  | '\n' => ['\\', 'n']
  | '\r' => ['\\', 'r']
  | '\t' => ['\\', 't']
  | '\x08' => ['\\', 'b']
  | '\x0c' => ['\\', 'f']
  | c => if c.toNat < 0x20 then '\\' :: 'u' :: hexDigits 4 c.toNat else [c]

/-- A string literal. -/
def quote (s : String) : List Char := '"' :: s.toList.flatMap escape ++ ['"']

/-- The text of a value that is neither an array nor an object. -/
def scalar : Json → List Char
  | bool true => ['t', 'r', 'u', 'e']
  | bool false => ['f', 'a', 'l', 's', 'e']
  | int n => intDigits n
  | float x => if Decimal.isFinite x then Decimal.Layout.json.write x else ['n', 'u', 'l', 'l']
  | string s => quote s
  | _ => ['n', 'u', 'l', 'l']

mutual

/-- A value on one line. -/
def compactChars : Json → List Char
  | array [] => ['[', ']']
  | array (item :: rest) => '[' :: compactChars item ++ compactItems rest
  | object [] => ['\x7b', '\x7d']
  | object ((key, value) :: rest) =>
    '\x7b' :: quote key ++ ':' :: compactChars value ++ compactMembers rest
  | value => value.scalar

/-- The items after the first, and the closing bracket. -/
def compactItems : List Json → List Char
  | [] => [']']
  | item :: rest => ',' :: compactChars item ++ compactItems rest

/-- The members after the first, and the closing brace. -/
def compactMembers : List (String × Json) → List Char
  | [] => ['\x7d']
  | (key, value) :: rest => ',' :: quote key ++ ':' :: compactChars value ++ compactMembers rest

end

/-- A line feed and the indentation of a level, two spaces each. -/
def newline (level : Nat) : List Char := '\n' :: List.replicate (2 * level) ' '

mutual

/-- A value over several lines, the first of which is already indented to `level`. -/
def prettyChars (level : Nat) : Json → List Char
  | array [] => ['[', ']']
  | array (item :: rest) =>
    '[' :: newline (level + 1) ++ prettyChars (level + 1) item ++ prettyItems level rest
  | object [] => ['\x7b', '\x7d']
  | object ((key, value) :: rest) =>
    '\x7b' :: newline (level + 1) ++ quote key ++ ':' :: ' ' :: prettyChars (level + 1) value ++
      prettyMembers level rest
  | value => value.scalar

/-- The items after the first, and the closing bracket. -/
def prettyItems (level : Nat) : List Json → List Char
  | [] => newline level ++ [']']
  | item :: rest =>
    ',' :: newline (level + 1) ++ prettyChars (level + 1) item ++ prettyItems level rest

/-- The members after the first, and the closing brace. -/
def prettyMembers (level : Nat) : List (String × Json) → List Char
  | [] => newline level ++ ['\x7d']
  | (key, value) :: rest =>
    ',' :: newline (level + 1) ++ quote key ++ ':' :: ' ' :: prettyChars (level + 1) value ++
      prettyMembers level rest

end

/-- The value on one line. -/
def compact (j : Json) : String := String.ofList j.compactChars

/-- The value over several lines, without a final line feed. -/
def pretty (j : Json) : String := String.ofList (j.prettyChars 0)

end Fixtures.Json
