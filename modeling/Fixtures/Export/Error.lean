import Fixtures.Files.System

/-!
# Failures of exports
-/

namespace Fixtures.Export

/-- Why an export failed. -/
inductive ExportError where
  | credentialsMissing (path : String)
  | invalidCredentials (path message : String)
  | directoryMissing (path : String)
  | invalidDocuments (path message : String)
  /-- The document store refused the connection or a document. -/
  | store
  | files (fault : Files.Fault)
  deriving DecidableEq, Repr

/-- The wording of a failed export. -/
def ExportError.message : ExportError → String
  | credentialsMissing path => "the credentials file was not found at " ++ path
  | invalidCredentials path message => "invalid credentials file " ++ path ++ ": " ++ message
  | directoryMissing path =>
    "couldn't find the output directory " ++ path ++
      "; use \x60datagen generate\x60 to create it (run \x60datagen generate --help\x60 to learn more)"
  | invalidDocuments path message => path ++ " is not an array of JSON objects: " ++ message
  | store => "mongodb error"
  | files fault => fault.report

end Fixtures.Export
