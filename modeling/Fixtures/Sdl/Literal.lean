import Fixtures.Decimal.Layout
import Fixtures.Text.CodeRanges
import Fixtures.Text.Split

/-!
# Literals of the schema language

The value of a directive argument. A string stands for its contents; any other literal stands for
itself, written in one normal form: `render`. Members of an object are sorted by key, and of several
with one key the last one counts.
-/

namespace Fixtures.Sdl

/-- A literal. Truth values and null are names like any other. -/
inductive Literal where
  | var (name : String)
  | name (name : String)
  | int (n : Int)
  | float (x : Float)
  | string (s : String)
  | list (items : List Literal)
  | object (members : List (String × Literal))

/-- Puts a member at its place in the order of keys, in place of one with the same key. -/
def insertSorted {α : Type} (key : String) (value : α) : List (String × α) → List (String × α)
  | [] => [(key, value)]
  | (k, v) :: rest =>
    if key < k then (key, value) :: (k, v) :: rest
    else if key = k then (key, value) :: rest
    else (k, v) :: insertSorted key value rest

/-- An object of members in any order. -/
def Literal.ofMembers (members : List (String × Literal)) : Literal :=
  .object (members.foldl (fun sorted (k, v) => insertSorted k v sorted) [])

namespace Literal

/-- The characters that a string shows as they are. -/
def isShown (c : Char) : Bool := 0x20 ≤ c.toNat && c.toNat ≤ 0xFFFF

/-- The number of digits of an escaped code point, at least. -/
def codeWidth : Nat := 4

/-- A character between quotation marks. -/
def escape (c : Char) : List Char :=
  match c with
  | '\r' => ['\\', 'r']
  | '\n' => ['\\', 'n']
  | '\t' => ['\\', 't']
  | '"' => ['\\', '"']
  | '\\' => ['\\', '\\']
  | c => if isShown c then [c] else '\\' :: 'u' :: Text.paddedDigits codeWidth c.toNat

/-- The text with triple quotation marks escaped. -/
def escapeBlock : List Char → List Char
  | '"' :: '"' :: '"' :: rest => ['\\', '"', '"', '"'] ++ escapeBlock rest
  | c :: rest => c :: escapeBlock rest
  | [] => []

/-- A line of a block string: blank lines are empty, others are indented. -/
def blockLine (line : List Char) : List Char :=
  (if line.all Text.isBlank then [] else ' ' :: ' ' :: escapeBlock line) ++ ['\n']

/-- A string inside a list or an object: a block string if it has several lines and no character
that has to be escaped, else a string on one line. -/
def renderString (s : String) : List Char :=
  let text := s.toList
  let plain (c : Char) : Bool := isShown c || c = '\n' || c = '\r' || c = '\t'
  if text.contains '\n' && text.all plain then
    ['"', '"', '"', '\n'] ++ (Text.lines text).flatMap blockLine ++ ['"', '"', '"']
  else '"' :: text.flatMap escape ++ ['"']

mutual

/-- The normal form of a literal. -/
def renderChars : Literal → List Char
  | var s => '$' :: s.toList
  | name s => s.toList
  | int n => Text.intDigits n
  | float x => Decimal.Layout.plain.write x
  | string s => renderString s
  | list items => '[' :: renderItems true items ++ [']']
  | object members => '\x7b' :: renderMembers true members ++ ['\x7d']

/-- Items separated by commas. -/
def renderItems (first : Bool) : List Literal → List Char
  | [] => []
  | item :: rest => (if first then [] else [',', ' ']) ++ renderChars item ++ renderItems false rest

/-- Members separated by commas. -/
def renderMembers (first : Bool) : List (String × Literal) → List Char
  | [] => []
  | (key, value) :: rest =>
    (if first then [] else [',', ' ']) ++ key.toList ++ ':' :: ' ' :: renderChars value ++
      renderMembers false rest

end

/-- The text that a literal stands for as the value of an argument. -/
def text : Literal → String
  | string s => s
  | literal => String.ofList literal.renderChars

end Literal

end Fixtures.Sdl
