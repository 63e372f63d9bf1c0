import Fixtures.CommandLine.Invocation
import Fixtures.Export.Run
import Fixtures.Generation.Run
import Fixtures.Schema.Source
import Fixtures.Settings

/-!
# The program

The program reads its settings, opens its log file, and carries out its command. What the command line says
wins over the settings, and these win over their defaults.

## Shape of an execution

`execute` takes the arguments to an `Ending`: the exit code and what is told on the error stream. Arguments
that are refused end with code 2, a command that fails with code 1.
-/

namespace Fixtures.CommandLine

open Log (Journal Event)
open Export (Credentials ExportError Sink)

/-- Why a command failed. -/
inductive Failure where
  | settings (e : SettingsError)
  | logging (fault : Files.Fault)
  | schema (e : Schema.SourceError)
  | generation (e : Generation.RunError)
  | exporting (e : ExportError)
  deriving DecidableEq, Repr

/-- The wording of a failure. -/
def Failure.message : Failure → String
  | settings e => e.message
  | logging fault => "failed to open log file: " ++ fault.message
  | schema e => e.message
  | generation e => e.message
  | exporting e => e.message

/-- How the program ends. -/
structure Ending where
  code : Nat
  /-- What is told on the error stream. -/
  message : Option String
  deriving DecidableEq, Repr

/-! ## Events and console lines -/

/-- Where the events of the program itself come from. -/
def programTarget : String := "datagen"

/-- A schema was read. -/
def schemaEvent (path : String) (schema : Schema) : Event :=
  ⟨.info, programTarget, [("event", .string "schema_loaded"), ("path", .string path),
    ("types", .int schema.types.length)]⟩

/-- An export was carried out in so many milliseconds. -/
def finishedEvent (r : Export.ExportReport) (duration : Nat) : Event :=
  ⟨.info, programTarget, [("event", .string "run_finished"), ("status", .string "success"),
    ("documents", .int r.documentsTotal), ("duration_ms", .int duration)]⟩

/-- The console lines of a generation. -/
def generationLines (r : Generation.Report) : String :=
  String.join (r.types.map fun entry =>
    entry.typeName ++ ": " ++ Text.natText entry.documents ++ " documents -> " ++ entry.path ++ "\n")
    ++ "seed: " ++ Text.natText r.seed.toNat ++ "\n"

/-- The console lines of an export. -/
def exportLines (r : Export.ExportReport) : String :=
  String.join (r.collections.map fun entry =>
    entry.collection ++ ": " ++ Text.natText entry.documents ++ " documents <- " ++ entry.file ++ "\n")

/-- What the program says of itself. -/
def versionLine : String := "datagen 0.1.0\n"

/-- What the program says about its use. -/
def helpLines : String :=
  "Generate fake documents from a GraphQL schema\n\n" ++
  "Usage: datagen [OPTIONS] <COMMAND>\n\n" ++
  "Commands:\n" ++
  "  generate        Generate one JSON file of documents per object type\n" ++
  "  export-mongodb  Load generated files into MongoDB, one collection per file\n"

/-! ## Commands -/

/-- The values that a generating command replaces. -/
def GenerateRequest.overrides (r : GenerateRequest) : Overrides where
  outDir := r.outDir
  numDocuments := r.numDocuments
  seed := r.seed

variable {m : Type → Type} [Monad m] [Host m]

/-- Generates document files. -/
def generate (journal : Journal) (settings : Settings) (request : GenerateRequest) :
    ExceptT Failure m Unit := do
  let settings := settings.override request.overrides
  let schema ← (Schema.load (m := m) request.schemaPath).adapt .schema
  journal.record (m := m) (schemaEvent request.schemaPath schema)
  let report ← (Generation.run (m := m) journal settings.options schema).adapt .generation
  Host.print (m := m) (generationLines report)

/-- Exports document files to a store that is reached in a given way. -/
def exportDocuments (dial : Credentials → ExceptT ExportError m (Sink m)) (journal : Journal)
    (settings : Settings) (request : ExportRequest) : ExceptT Failure m Unit := do
  let credentials ← (Credentials.load (m := m) request.keypath).adapt .exporting
  let started ← Host.now (m := m)
  let sink ← (Export.connect journal dial credentials).adapt .exporting
  let dir := request.outDir.getD settings.outDir
  let report ← (Export.exportAll journal dir sink).adapt .exporting
  Host.print (m := m) (exportLines report)
  let ended ← Host.now (m := m)
  journal.record (m := m) (finishedEvent report (ended - started).toNat)

/-- Carries out an invocation; `filter` says which events are logged, if it can be read. -/
def carryOut (dial : Credentials → ExceptT ExportError m (Sink m)) (filter : Option String)
    (invocation : Invocation) : ExceptT Failure m Unit := do
  let settings ← (Settings.load (m := m) invocation.config).adapt .settings
  let settings := settings.override { logFile := invocation.logFile }
  let journal ← (Journal.start (m := m) (.ofRequest filter invocation.verbose)
    settings.logFile).adapt .logging
  match invocation.command with
  | .generate request => generate journal settings request
  | .exportMongodb request => exportDocuments dial journal settings request

/-- What is told of a fault. -/
def told (message : String) : String := "error: " ++ message

/-- Answers arguments that are no invocation. -/
def answer (refusal : Refusal) : m Ending := do
  match refusal with
  | .helpAsked => do
    Host.print helpLines
    pure ⟨0, none⟩
  | .versionAsked => do
    Host.print versionLine
    pure ⟨0, none⟩
  | .noArguments => pure ⟨2, some helpLines⟩
  | refusal => pure ⟨2, refusal.message?.map told⟩

/-- Executes the program with arguments. -/
def execute (dial : Credentials → ExceptT ExportError m (Sink m)) (filter : Option String)
    (args : List String) : m Ending := do
  match Invocation.ofArguments args with
  | .error refusal => answer refusal
  | .ok invocation =>
    match ← (carryOut dial filter invocation).run with
    | .ok () => pure ⟨0, none⟩
    | .error failure => pure ⟨1, some (told failure.message)⟩

end Fixtures.CommandLine
