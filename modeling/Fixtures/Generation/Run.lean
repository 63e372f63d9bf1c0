import Fixtures.Generation.Output
import Fixtures.Generation.Seeding
import Fixtures.Log.Journal

/-!
# Runs

A run assembles the documents of all types of a schema and then writes one file for each type that has
fields, in the order of the schema. Nothing is written unless every type could be assembled. The first file
that can not be written ends the run; those before it stay.
-/

namespace Fixtures.Generation

open Log (Journal Event)

/-- Why a run failed. -/
inductive RunError where
  | assembly (e : AssemblyError)
  | files (fault : Files.Fault)
  deriving DecidableEq, Repr

/-- The wording of a failed run. -/
def RunError.message : RunError → String
  | assembly e => e.message
  | files fault => fault.report

/-! ## Events -/

/-- Where the events of runs come from. -/
def runTarget : String := "datagen_generate::engine"

/-- A run begins. -/
def startedEvent (options : Options) (seed : UInt64) (schema : Schema) : Event :=
  ⟨.info, runTarget, [("message", .string "generation started"), ("types", .int schema.types.length),
    ("documents", .int options.documents.val), ("seed", .int seed.toNat),
    ("out_dir", .string options.outDir)]⟩

/-- A type is about to be assembled; one without fields is left out. -/
def typeEvents (type : ObjectType) : List Event :=
  ⟨.debug, runTarget, [("message", .string "assembling type"), ("type_name", .string type.name),
    ("fields", .int type.fields.length)]⟩ ::
  if type.fields.isEmpty then
    [⟨.debug, "datagen_generate::assembler",
      [("message", .string "type has no fields, skipping"), ("type_name", .string type.name)]⟩]
  else []

/-- A document file was written. -/
def writtenEvent (set : DocumentSet) (path : String) : Event :=
  ⟨.info, runTarget, [("message", .string "documents written"), ("type_name", .string set.typeName),
    ("documents", .int set.documents.length), ("path", .string path)]⟩

/-- A run ended well. -/
def completedEvent (r : Report) : Event :=
  ⟨.info, runTarget, [("message", .string "generation completed"), ("types", .int r.types.length),
    ("skipped_types", .int r.skippedTypes.length), ("documents", .int r.documentsTotal),
    ("duration_ms", .int r.duration.toNat)]⟩

/-! ## Running -/

/-- The names of the types without fields. -/
def skippedTypes (schema : Schema) : List String :=
  (schema.types.filter (·.fields.isEmpty)).map (·.name)

/-- The entry of a report for a document set and its file. -/
def entryOf (set : DocumentSet) (path : String) : TypeReport :=
  ⟨set.typeName, set.documents.length, set.generatedFields, set.skippedFields, path⟩

variable {m : Type → Type} [Monad m] [Host m]

/-- Takes events. -/
def recordAll (journal : Journal) (events : List Event) : m Unit :=
  events.forM fun e => journal.record e

/-- Writes the files of document sets in order. -/
def writeSets (journal : Journal) (outDir : String) :
    List DocumentSet → ExceptT Files.Fault m (List TypeReport)
  | [] => pure []
  | set :: rest => do
    let path ← writeDocuments outDir set.typeName set.documents
    journal.record (m := m) (writtenEvent set path)
    let entries ← writeSets journal outDir rest
    pure (entryOf set path :: entries)

/-- Assembles the documents of a schema; what the scripts print goes to the console. -/
def assembleAll (journal : Journal) (now : Int) (seed : UInt64) (count : Count) (schema : Schema) :
    ExceptT AssemblyError m (List DocumentSet) := do
  let (result, session) := assembleSeeded now seed count schema
  recordAll (m := m) journal (session.begun.reverse.flatMap typeEvents)
  Host.print (m := m) session.printed
  ExceptT.mk (pure result)

/-- Runs a generation. A seed is drawn if the options have none. -/
def run (journal : Journal) (options : Options) (schema : Schema) : ExceptT RunError m Report := do
  let started ← Host.now (m := m)
  let seed ← match options.seed with
    | some seed => pure seed
    | none => Host.drawSeed (m := m)
  journal.record (m := m) (startedEvent options seed schema)
  let sets ← (assembleAll (m := m) journal started seed options.documents schema).adapt .assembly
  let entries ← (writeSets (m := m) journal options.outDir sets).adapt .files
  let ended ← Host.now (m := m)
  let report : Report := ⟨seed, entries, skippedTypes schema, UInt64.ofNat (ended - started).toNat⟩
  journal.record (m := m) (completedEvent report)
  pure report

end Fixtures.Generation
