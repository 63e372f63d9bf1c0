import Fixtures.Text.Quoted

/-!
# Data that has not the expected shape

Records are decoded from JSON and from TOML texts. Both readers report a shape error in the same
words, which say what was found and what was expected; each reader adds the place.
-/

namespace Fixtures.Data

/-- What stands where something else was expected. -/
inductive Found where
  | null
  | bool (b : Bool)
  | int (n : Int)
  | float (text : String)
  | string (s : String)
  | sequence
  | map
  deriving DecidableEq, Repr

/-- A shape error. -/
inductive Mismatch where
  | invalidType (found : Found) (expected : String)
  | invalidValue (found : Found) (expected : String)
  | invalidLength (length : Nat) (expected : String)
  | missingField (name : String)
  | duplicateField (name : String)
  | unknownField (name : String) (known : List String)
  deriving DecidableEq, Repr

/-- A text between back quotes. -/
def backQuoted (s : String) : String := "\x60" ++ s ++ "\x60"

/-- The text of what was found. Strings are shown between quotation marks. -/
def Found.describe : Found → String
  | null => "null"
  | bool b => "boolean " ++ backQuoted (if b then "true" else "false")
  | int n => "integer " ++ backQuoted (Text.intText n)
  | float text => "floating point " ++ backQuoted text
  | string s => "string " ++ Text.quotedText s
  | sequence => "sequence"
  | map => "map"

/-- The text of a shape error. -/
def Mismatch.describe : Mismatch → String
  | invalidType found expected =>
    "invalid type: " ++ found.describe ++ ", expected " ++ expected
  | invalidValue found expected =>
    "invalid value: " ++ found.describe ++ ", expected " ++ expected
  | invalidLength length expected =>
    "invalid length " ++ Text.natText length ++ ", expected " ++ expected
  | missingField name => "missing field " ++ backQuoted name
  | duplicateField name => "duplicate field " ++ backQuoted name
  | unknownField name known =>
    "unknown field " ++ backQuoted name ++ ", expected one of " ++
      String.intercalate ", " (known.map backQuoted)

end Fixtures.Data
