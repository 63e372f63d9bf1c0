import Fixtures.Fake.Lorem
import Fixtures.Fake.Person
import Fixtures.Fake.Words.Internet
import Fixtures.Text.Case
import Fixtures.Text.Numeral

/-!
# The net

Addresses, names of accounts, passwords and browsers.
-/

namespace Fixtures.Fake.Internet

open Fixtures.Random (Draw pick)

/-- The low bits of a drawn word. -/
def lowBits (bits : Nat) : Draw Nat := do pure ((← Random.word32).toNat % (1 <<< bits))

/-- A text in lower case. -/
def lower (s : String) : String := String.ofList (Text.toLower s.toList)

/-- A first name in lower case. -/
def handle : Draw String := do pure (lower (← Person.firstName))

/-- A mail address under a domain kept for examples. -/
def email : Draw String := do
  let account ← handle
  let domain ← pick #["com", "net", "org"]
  pure (account ++ "@example." ++ domain)

/-- The name of an account, in one of four forms. -/
def userName : Draw String := do
  match ← lowBits 8 with
  | 0 => handle
  | 1 | 2 =>
    let word ← Lorem.word
    let account ← handle
    pure (word ++ "." ++ account)
  | 3 | 4 =>
    let account ← handle
    let number ← lowBits 8
    pure (account ++ Text.natText number)
  | _ =>
    let account ← handle
    let word ← Lorem.word
    pure (account ++ "_" ++ word)

/-- The characters of passwords. -/
def passwordCharacters : Array Char :=
  "0123456789ABCDEFGHIJKLMNOPQRSTUVWXYZabcdefghijklmnopqrstuvwxyz".toList.toArray

/-- A character of a table. -/
def pickChar (table : Array Char) : Draw Char := do
  pure ((table[← Random.below32 table.size]?).getD ' ')

/-- A password of twelve to nineteen characters. -/
def password : Draw String := do
  let length ← Random.between 12 20
  pure (String.ofList (← times length (pickChar passwordCharacters)))

/-- A domain of two labels. -/
def domainName : Draw String := do
  let word ← Lorem.word
  let domain ← pick Words.domainSuffixes
  pure (lower word ++ "." ++ domain)

/-- The address of a site. -/
def url : Draw String := do pure ("https://" ++ (← domainName))

/-- A network address of four numbers. -/
def ipv4 : Draw String := do
  let parts ← times 4 (lowBits 8)
  pure (String.intercalate "." (parts.map Text.natText))

/-- A network address of eight groups of hexadecimal digits. -/
def ipv6 : Draw String := do
  let parts ← times 8 (lowBits 16)
  let group (n : Nat) : String := String.ofList ((Nat.toDigits 16 n).map Char.toUpper)
  pure (String.intercalate ":" (parts.map group))

/-- What a browser calls itself. -/
def userAgent : Draw String := pick Words.userAgents

end Fixtures.Fake.Internet
