import Fixtures.Export.Error
import Fixtures.Json.Decode
import Fixtures.Text.CodeRanges
import Fixtures.Toml.Decode

/-!
# Credentials

The connection string of a document store and the name of a database, read from a key file. A file whose
name ends in `.toml` is a text of settings, any other one is JSON. Other fields may stand beside the two.
-/

namespace Fixtures.Export

/-- How to reach a database. -/
structure Credentials where
  uri : String
  database : String
  deriving DecidableEq, Repr

namespace Credentials

/-- Decodes credentials from JSON. -/
def decode : Json.Decoder Credentials :=
  Json.record "Credentials"
    (.cons "uri" (Json.text "a string") none (.cons "database" (Json.text "a string") none .nil))
    fun (uri, database, ()) => ⟨uri, database⟩

/-- Decodes credentials from a table. -/
def decodeTable : Toml.Item → Except Toml.Fault Credentials :=
  Toml.record
    (.cons "uri" (Toml.text "a string") none (.cons "database" (Toml.text "a string") none .nil))
    false fun (uri, database, ()) => ⟨uri, database⟩

/-- Reads the text of a key file. -/
def parse (isTable : Bool) (text : String) : Except String Credentials :=
  if isTable then Toml.decodeAll decodeTable text
  else (Json.decodeAll decode text).mapError (·.describe)

/-- Whether the name of the database says nothing. -/
def isNameless (c : Credentials) : Bool := c.database.toList.all Text.isBlank

/-- The credentials in the text of a key file. -/
def ofText (path text : String) : Except ExportError Credentials :=
  match parse (Files.Path.extension? path = some "toml") text with
  | .error message => .error (.invalidCredentials path message)
  | .ok c =>
    if c.isNameless then .error (.invalidCredentials path "database must not be empty") else .ok c

/-- Reads a key file. -/
def load {m : Type → Type} [Monad m] [Files.FileSystem m] (path : String) :
    ExceptT ExportError m Credentials := do
  if ← (Files.isPresent path : m Bool) then
    let text ← (Files.readText path : ExceptT Files.Fault m String).adapt .files
    ofText path text
  else throw (.credentialsMissing path)

end Credentials

end Fixtures.Export
