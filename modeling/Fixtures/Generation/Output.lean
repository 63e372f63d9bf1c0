import Fixtures.Files.System
import Fixtures.Generation.Assembly
import Fixtures.Json.Printer

/-!
# Document files

The documents of a type are written as one array to a file of their own, named after the type. The array is
set on lines, with two blanks for each level.
-/

namespace Fixtures.Generation

/-- The file for the documents of a type. -/
def outputPath (outDir typeName : String) : String := Files.Path.join outDir (typeName ++ ".json")

/-- The text of a document file. -/
def documentsText (documents : List Document) : String :=
  (Json.array (documents.map Json.object)).pretty

/-- Writes the documents of a type to their file, and gives its path. -/
def writeDocuments {m : Type → Type} [Monad m] [Files.FileSystem m] (outDir typeName : String)
    (documents : List Document) : ExceptT Files.Fault m String := do
  let path := outputPath outDir typeName
  Files.replaceFile path (documentsText documents)
  pure path

end Fixtures.Generation
