import Fixtures.Export.Error
import Fixtures.Json.Decode
import Fixtures.Naming.Plural

/-!
# Document files of a directory

Each file of an output directory whose name ends in `.json` holds the documents of a type. They are taken in
the order of their names and go to the collection that is named after the type.
-/

namespace Fixtures.Export

/-- A document file and the collection for its documents. -/
structure DocumentFile where
  path : String
  typeName : String
  collection : String
  deriving DecidableEq, Repr

namespace DocumentFile

/-- The document file of a name in a directory, if the name is one of a document file. -/
def ofName? (dir name : String) : Option DocumentFile :=
  match Files.Path.cutName name with
  | (stem, some "json") => some ⟨Files.Path.join dir name, stem, Naming.collectionName stem⟩
  | _ => none

/-- The names in the order in which files are taken. -/
def sortNames (names : List String) : List String := names.mergeSort fun a b => decide (a ≤ b)

variable {m : Type → Type} [Monad m] [Files.FileSystem m]

/-- The document files of a directory. -/
def scan (dir : String) : ExceptT ExportError m (List DocumentFile) := do
  if ← (Files.isDirectory dir : m Bool) then
    let names ← (Files.FileSystem.list dir : ExceptT Files.Fault m (List String)).adapt .files
    let files ← names.filterM fun name => (Files.isFile (Files.Path.join dir name) : m Bool)
    pure ((sortNames files).filterMap (ofName? dir))
  else throw (.directoryMissing dir)

/-- The documents in the text of a document file. -/
def ofText (path text : String) : Except ExportError (List Document) :=
  (Json.decodeAll (Json.list Json.document) text).mapError fun e => .invalidDocuments path e.describe

/-- Reads the documents of a file. -/
def readDocuments (path : String) : ExceptT ExportError m (List Document) := do
  let text ← (Files.readText path : ExceptT Files.Fault m String).adapt .files
  ofText path text

end DocumentFile

end Fixtures.Export
