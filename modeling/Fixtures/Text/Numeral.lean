/-!
# Numerals

Integers are written in decimal without leading zeros, codes in a fixed number of hexadecimal
digits. Reading is by value: `readNat?` and `readHex?` accept digits only, at least one of them.
-/

namespace Fixtures.Text

/-- The decimal numeral of a natural number. -/
def natDigits (n : Nat) : List Char := Nat.toDigits 10 n

/-- The decimal numeral of an integer, with a minus sign below zero. -/
def intDigits : Int → List Char
  | .ofNat n => natDigits n
  | .negSucc n => '-' :: natDigits (n + 1)

/-- The least integer of 64 bits. -/
def leastInt : Int := -9223372036854775808

/-- The greatest integer of 64 bits. -/
def greatestInt : Int := 9223372036854775807

/-- Whether a number is an integer of 64 bits. -/
def isInt64 (n : Int) : Bool := leastInt ≤ n && n ≤ greatestInt

/-- A decimal digit, of which there are ten. -/
def isDigit (c : Char) : Bool := '0' ≤ c && c ≤ '9'

/-- The value of a decimal digit. -/
def digitValue (c : Char) : Nat := c.toNat - '0'.toNat

/-- The value of a digit in a base up to sixteen, letters in either case. -/
def digitIn? (base : Nat) (c : Char) : Option Nat :=
  let value? : Option Nat :=
    if isDigit c then some (digitValue c)
    else if 'a' ≤ c && c ≤ 'f' then some (c.toNat - 'a'.toNat + 10)
    else if 'A' ≤ c && c ≤ 'F' then some (c.toNat - 'A'.toNat + 10)
    else none
  value?.filter (· < base)

/-- The number that digits of a base stand for, all of which must belong to the base. -/
def readBase? (base : Nat) (digits : List Char) : Option Nat :=
  if digits.isEmpty then none
  else digits.foldlM (fun value c => (digitIn? base c).map (value * base + ·)) 0

/-- The number that decimal digits stand for. -/
def readNat? (digits : List Char) : Option Nat := readBase? 10 digits

/-- The number that hexadecimal digits stand for. -/
def readHex? (digits : List Char) : Option Nat := readBase? 16 digits

/-- A number in hexadecimal, lower case, padded with zeros to `width` digits. -/
def hexDigits (width n : Nat) : List Char :=
  let digits := Nat.toDigits 16 n
  List.replicate (width - digits.length) '0' ++ digits

/-- A number in decimal, padded with zeros to `width` digits. -/
def paddedDigits (width n : Nat) : List Char :=
  let digits := natDigits n
  List.replicate (width - digits.length) '0' ++ digits

/-- The decimal numeral of a natural number, as a string. -/
def natText (n : Nat) : String := String.ofList (natDigits n)

/-- The decimal numeral of an integer, as a string. -/
def intText (n : Int) : String := String.ofList (intDigits n)

end Fixtures.Text
