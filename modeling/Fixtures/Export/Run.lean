import Fixtures.Export.DocumentFile
import Fixtures.Export.Sink

/-!
# Exports

An export inserts the documents of all document files of a directory into a sink, file by file. The first
failure ends it; what was inserted before stays.
-/

namespace Fixtures.Export

open Log (Journal Event)

/-- The entry of a report for a file. -/
structure FileReport where
  file : String
  collection : String
  documents : Nat
  deriving DecidableEq, Repr

/-- The report of an export. -/
structure ExportReport where
  collections : List FileReport
  deriving DecidableEq, Repr

/-- The number of documents of all files. -/
def ExportReport.documentsTotal (r : ExportReport) : Nat :=
  r.collections.foldl (fun total c => total + c.documents) 0

/-! ## Events -/

/-- Where the events of exports come from. -/
def exportTarget : String := "datagen_export::exporter"

/-- A file was read. -/
def addingEvent (file : DocumentFile) (documents : List Document) : Event :=
  ⟨.info, exportTarget, [("message", .string "adding documents to collection"),
    ("file", .string file.path), ("collection", .string file.collection),
    ("documents", .int documents.length)]⟩

/-- An export ended well. -/
def exportedEvent (r : ExportReport) : Event :=
  ⟨.info, exportTarget, [("message", .string "export completed"),
    ("collections", .int r.collections.length), ("documents", .int r.documentsTotal)]⟩

/-! ## Running -/

variable {m : Type → Type} [Monad m] [Host m]

/-- Inserts documents into a collection in order. -/
def insertAll (sink : Sink m) (collection : String) :
    List Document → ExceptT ExportError m Unit
  | [] => pure ()
  | document :: rest => do
    sink.insert collection document
    insertAll sink collection rest

/-- Exports files in order. -/
def exportFiles (journal : Journal) (sink : Sink m) :
    List DocumentFile → ExceptT ExportError m (List FileReport)
  | [] => pure []
  | file :: rest => do
    let documents ← DocumentFile.readDocuments file.path
    journal.record (m := m) (addingEvent file documents)
    insertAll sink file.collection documents
    let entries ← exportFiles journal sink rest
    pure (⟨file.path, file.collection, documents.length⟩ :: entries)

/-- Exports the document files of a directory. -/
def exportAll (journal : Journal) (dir : String) (sink : Sink m) :
    ExceptT ExportError m ExportReport := do
  let files ← DocumentFile.scan dir
  let report : ExportReport := ⟨← exportFiles journal sink files⟩
  journal.record (m := m) (exportedEvent report)
  pure report

end Fixtures.Export
