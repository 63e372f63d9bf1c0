import Fixtures.Text.Numeral
import Fixtures.Text.Unprintable

/-!
# Text shown between quotation marks

Messages and nested values show text so that its limits and its invisible characters can be seen:
between quotation marks, with escapes for the mark itself, the backslash, common controls and, by
their code, all characters without a shape of their own.
-/

namespace Fixtures.Text

/-- A character as shown between two of the given quotation marks. -/
def showChar (mark c : Char) : List Char :=
  match c with
  | '\x00' => ['\\', '0']
  | '\t' => ['\\', 't']
  | '\r' => ['\\', 'r']
  | '\n' => ['\\', 'n']
  | '\\' => ['\\', '\\']
  | c =>
    if c = mark then ['\\', c]
    else if isUnprintable c then
      '\\' :: 'u' :: '\x7b' :: Nat.toDigits 16 c.toNat ++ ['\x7d']
    else [c]

/-- Text between double quotation marks. -/
def showQuoted (text : List Char) : List Char :=
  '"' :: text.flatMap (showChar '"') ++ ['"']

/-- A character between single quotation marks. -/
def showCharQuoted (c : Char) : List Char := '\'' :: showChar '\'' c ++ ['\'']

/-- Text between double quotation marks, as a string. -/
def quotedText (s : String) : String := String.ofList (showQuoted s.toList)

end Fixtures.Text
