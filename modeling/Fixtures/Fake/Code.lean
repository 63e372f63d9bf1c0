import Fixtures.Fake.Internet

/-!
# Codes

Texts of random characters: identifiers of sixteen bytes, and strings over an alphabet.
-/

namespace Fixtures.Fake.Code

open Fixtures.Random (Draw)

/-- The bytes of an identifier with its version, four, and its variant set. -/
def stamp (bytes : List Nat) : List Nat :=
  bytes.mapIdx fun i b =>
    if i = 6 then b % 16 + 0x40 else if i = 8 then b % 64 + 0x80 else b

/-- Sixteen bytes in hexadecimal digits, with hyphens after the fourth, sixth, eighth and tenth. -/
def layout (bytes : List Nat) : List Char :=
  (bytes.mapIdx fun i b =>
    (if i = 4 ∨ i = 6 ∨ i = 8 ∨ i = 10 then ['-'] else []) ++ Text.hexDigits 2 b).flatten

/-- An identifier of sixteen drawn bytes. -/
def uuid : Draw String := do
  let bytes ← times 16 (Internet.lowBits 8)
  pure (String.ofList (layout (stamp bytes)))

/-- The letters, lower case first. -/
def letters : String := "abcdefghijklmnopqrstuvwxyzABCDEFGHIJKLMNOPQRSTUVWXYZ"

/-- The digits. -/
def digits : String := "0123456789"

/-- An alphabet of characters. -/
inductive Alphabet where
  | alpha
  | numeric
  | alphanumeric
  deriving DecidableEq, Repr

/-- The characters of an alphabet. -/
def Alphabet.characters : Alphabet → Array Char
  | alpha => letters.toList.toArray
  | numeric => digits.toList.toArray
  | alphanumeric => (letters ++ digits).toList.toArray

/-- A text of the given length over an alphabet. -/
def text (alphabet : Alphabet) (length : Nat) : Draw String := do
  let table := alphabet.characters
  pure (String.ofList (← times length (Internet.pickChar table)))

end Fixtures.Fake.Code
