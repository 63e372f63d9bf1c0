import Fixtures.Files.System
import Fixtures.Sdl.Grammar

/-!
# Schema files
-/

namespace Fixtures.Schema

/-- Why a schema could not be read from a file. -/
inductive SourceError where
  | missing (path : String)
  | files (fault : Files.Fault)
  | refused (place : Sdl.Place)
  deriving DecidableEq, Repr

/-- The wording of a failed reading. -/
def SourceError.message : SourceError → String
  | missing path => "schema file " ++ path ++ " not found"
  | files fault => fault.report
  | refused place => "failed to parse schema: " ++ Sdl.refusalText place

/-- The schema in the text of a file. -/
def ofText (text : String) : Except SourceError Schema := (Sdl.parse text).mapError .refused

/-- Reads a schema from a file. -/
def load {m : Type → Type} [Monad m] [Files.FileSystem m] (path : String) :
    ExceptT SourceError m Schema := do
  if ← (Files.isPresent path : m Bool) then
    let text ← (Files.readText path : ExceptT Files.Fault m String).adapt .files
    ofText text
  else throw (.missing path)

end Fixtures.Schema
