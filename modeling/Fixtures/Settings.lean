import Fixtures.Files.System
import Fixtures.Generation.Report
import Fixtures.Toml.Decode

/-!
# Settings

What the program uses unless the command line says otherwise. Settings are read from a file that is named on
the command line, which must be there, or from a file of the current directory, which may be missing.
-/

namespace Fixtures

open Generation (Count Options)

/-- What the program uses unless told otherwise. -/
structure Settings where
  outDir : String := Options.defaultOutDir
  numDocuments : Count := .one
  seed : Option UInt64 := none
  logFile : Option String := none
  deriving DecidableEq

/-- Values that replace those of settings. -/
structure Overrides where
  outDir : Option String := none
  numDocuments : Option Count := none
  seed : Option UInt64 := none
  logFile : Option String := none
  deriving DecidableEq

/-- Why settings could not be read. -/
inductive SettingsError where
  | missing (path : String)
  | invalid (path message : String)
  | files (fault : Files.Fault)
  deriving DecidableEq, Repr

/-- The wording of a failed reading. -/
def SettingsError.message : SettingsError → String
  | missing path => "config file not found: " ++ path
  | invalid path message => "invalid config file " ++ path ++ ": " ++ message
  | files fault => fault.report

namespace Settings

/-- The file of settings in the current directory. -/
def defaultFile : String := "datagen.toml"

/-- The settings with some values replaced. -/
def override (s : Settings) (o : Overrides) : Settings where
  outDir := o.outDir.getD s.outDir
  numDocuments := o.numDocuments.getD s.numDocuments
  seed := o.seed.or s.seed
  logFile := o.logFile.or s.logFile

/-- The options of a generation. -/
def options (s : Settings) : Options := ⟨s.outDir, s.numDocuments, s.seed⟩

/-- Decodes a count. -/
def decodeCount : Toml.Decoder Count := fun item => do
  let n ← Toml.unsigned Count.expected 1 item
  match Count.ofNat? n with
  | some count => .ok count
  | none => .error (.invalidValue (.int n) Count.expected)

/-- Decodes a word of 64 bits. -/
def decodeWord : Toml.Decoder UInt64 := fun item =>
  UInt64.ofNat <$> Toml.unsigned Options.expectedWord 0 item

/-- Decodes settings; a field that is missing has its default, and no other fields may be there. -/
def decode : Toml.Item → Except Toml.Fault Settings :=
  let start : Settings := {}
  Toml.record
    (.cons "out_dir" (Toml.text "path string") (some start.outDir)
      (.cons "num_documents" decodeCount (some start.numDocuments)
        (.cons "seed" (Toml.present decodeWord) (some start.seed)
          (.cons "log_file" (Toml.present (Toml.text "path string")) (some start.logFile) .nil))))
    true fun (outDir, numDocuments, seed, logFile, ()) => ⟨outDir, numDocuments, seed, logFile⟩

/-- The settings in the text of a file. -/
def ofText (path text : String) : Except SettingsError Settings :=
  (Toml.decodeAll decode text).mapError (.invalid path ·)

variable {m : Type → Type} [Monad m] [Files.FileSystem m]

/-- Reads settings from a file that is there. -/
def read (path : String) : ExceptT SettingsError m Settings := do
  let text ← (Files.readText path : ExceptT Files.Fault m String).adapt .files
  ofText path text

/-- Reads settings from a given file, or from the one in the current directory if it is there. -/
def load (path : Option String) : ExceptT SettingsError m Settings := do
  match path with
  | some path =>
    if ← (Files.isPresent path : m Bool) then read path else throw (.missing path)
  | none =>
    if ← (Files.isPresent defaultFile : m Bool) then read defaultFile else pure {}

end Settings

end Fixtures
