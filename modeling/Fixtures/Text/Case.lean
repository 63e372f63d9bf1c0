import Fixtures.Text.CaseTable

/-!
# Changing letter case

Each character is replaced by its form in the other case, which may be longer (`ß` becomes `SS`).
One letter looks at its surroundings: a capital sigma that ends a word becomes the final sigma `ς`.
-/

namespace Fixtures.Text

/-- Whether the first character that is not passed over is a cased letter. -/
def meetsCased (text : List Char) : Bool :=
  match text.dropWhile caseIgnorableRanges.contains with
  | [] => false
  | c :: _ => casedRanges.contains c

/-- The lower-case form of a character between the reversed text before it and the text after it. -/
def lowerAt (before : List Char) (c : Char) (after : List Char) : List Char :=
  if c.toNat < 0x80 then [c.toLower]
  else if c = 'Σ' then [if meetsCased before && !meetsCased after then 'ς' else 'σ']
  else if c = 'İ' then ['i', '\u0307']
  else [(caseShift? lowerRuns c).getD c]

/-- The lower-case form of the text that follows the reversed text `before`. -/
def lowerFrom (before : List Char) : List Char → List Char
  | [] => []
  | c :: after => lowerAt before c after ++ lowerFrom (c :: before) after

/-- The text in lower case. -/
def toLower (text : List Char) : List Char := lowerFrom [] text

/-- The upper-case form of a character. -/
def upperOf (c : Char) : List Char :=
  if c.toNat < 0x80 then [c.toUpper]
  else
    match upperExpansions.lookup c.toNat with
    | some codes => codes.map Char.ofNat
    | none => [(caseShift? upperRuns c).getD c]

/-- The text in upper case. -/
def toUpper (text : List Char) : List Char := text.flatMap upperOf

end Fixtures.Text
