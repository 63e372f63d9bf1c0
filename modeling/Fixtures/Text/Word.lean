import Fixtures.Text.Numeral

/-!
# Numerals of 64-bit words

A word is written with decimal digits, any number of leading zeros and at most one leading plus sign.
Digits are read from the left, so the first digit that fits no word, or is none, names the fault.
-/

namespace Fixtures.Text

/-- Why a text stands for no word, or not for one that may be used. -/
inductive WordFault where
  | empty
  | invalidDigit
  | tooLarge
  | zero
  deriving DecidableEq, Repr

/-- The wording of a fault. -/
def WordFault.message : WordFault → String
  | empty => "cannot parse integer from empty string"
  | invalidDigit => "invalid digit found in string"
  | tooLarge => "number too large to fit in target type"
  | zero => "number would be zero for non-zero type"

/-- The value with one more digit at its right. -/
def pushDigit (value : Nat) (c : Char) : Except WordFault Nat :=
  if isDigit c then
    let next := value * 10 + digitValue c
    if next < UInt64.size then .ok next else .error .tooLarge
  else .error .invalidDigit

/-- The word that digits stand for. -/
def readDigits (digits : List Char) : Except WordFault Nat :=
  digits.foldlM pushDigit 0

/-- The word that a numeral stands for. -/
def readWord : List Char → Except WordFault Nat
  | [] => .error .empty
  | ['+'] => .error .invalidDigit
  | '+' :: digits => readDigits digits
  | digits => readDigits digits

end Fixtures.Text
