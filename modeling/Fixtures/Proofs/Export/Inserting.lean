import Fixtures.Proofs.Export.Scanning

/-!
# Inserting documents

An export of files that can be read into a sink that accepts everything inserts exactly the documents of the
files, file by file and in the order of each file, and does nothing else: `exportFiles_eq`.
-/

namespace Fixtures.Export

open Runs

/-- A sink that accepts every insert and touches nothing but its own state; `take` is what an insert makes of
it. -/
def Sink.Accepts {τ : Type} (sink : Sink (StateT τ (StateM Workspace))) (take : τ → String × Document → τ) :
    Prop :=
  ∀ collection document (s : τ) (w : Workspace),
    sink.insert collection document s w = ((.ok (), take s (collection, document)), w)

/-- A store in memory that refuses nothing accepts every insert. -/
theorem Memory.accepts_sink :
    (Memory.sink (m := StateM Workspace) {}).Accepts fun memory x => memory ++ [x] := by
  intro collection document memory w
  rfl

/-- A file and the documents that are read from it. -/
abbrev Load := DocumentFile × List Document

namespace Load

/-- The inserts of a load. -/
def inserts (load : Load) : List (String × Document) := load.2.map (load.1.collection, ·)

/-- The entry of a report for a load. -/
def entry (load : Load) : FileReport := ⟨load.1.path, load.1.collection, load.2.length⟩

end Load

variable {τ : Type} {sink : Sink (StateT τ (StateM Workspace))} {take : τ → String × Document → τ}

theorem insertAll_eq (accepts : sink.Accepts take) (collection : String) (documents : List Document) (s : τ)
    (w : Workspace) :
    insertAll sink collection documents s w =
      ((.ok (), (documents.map (collection, ·)).foldl take s), w) := by
  induction documents generalizing s with
  | nil => rfl
  | cons document rest ih =>
    rw [insertAll, beside_bind (accepts collection document s w), ih]
    rfl

/-- Reading the documents of a file changes nothing. -/
theorem readDocuments_eq {path text : String} {documents : List Document} {w : Workspace} (s : τ)
    (found : w.files.find path = .ok (.file (.text text)))
    (decoded : Json.decodeAll (Json.list Json.document) text = .ok documents) :
    (DocumentFile.readDocuments path :
      ExceptT ExportError (StateT τ (StateM Workspace)) (List Document)) s w = ((.ok documents, s), w) := by
  have read : (Files.readText path : ExceptT Files.Fault (StateT τ (StateM Workspace)) String) s w =
      ((.ok text, s), w) := by
    have content :
        (Files.FileSystem.read path : ExceptT Files.Fault (StateT τ (StateM Workspace)) Files.Content) s w =
          ((.ok (.text text), s), w) := by
      show ((w.files.read path, s), w) = _
      rw [Files.Tree.read, found]
      rfl
    rw [Files.readText, beside_bind content]
    rfl
  have shaped : DocumentFile.ofText path text = .ok documents := by
    rw [DocumentFile.ofText, decoded]
    rfl
  rw [DocumentFile.readDocuments, beside_bind (beside_adapt read), shaped]
  rfl

/-- Files that can be read are inserted one after another. -/
theorem exportFiles_eq {filter : Log.Filter} (accepts : sink.Accepts take) {loads : List Load} {w : Workspace}
    (reads : ∀ load ∈ loads, ∃ text, w.files.find load.1.path = .ok (.file (.text text)) ∧
      Json.decodeAll (Json.list Json.document) text = .ok load.2) (s : τ) :
    exportFiles ⟨filter, none⟩ sink (loads.map (·.1)) s w =
      ((.ok (loads.map Load.entry), (loads.flatMap Load.inserts).foldl take s), w) := by
  induction loads generalizing s with
  | nil => rfl
  | cons load rest ih =>
    obtain ⟨file, documents⟩ := load
    obtain ⟨text, found, decoded⟩ := reads _ List.mem_cons_self
    have quiet : (liftM (Log.Journal.record ⟨filter, none⟩ (addingEvent file documents) :
        StateT τ (StateM Workspace) Unit) : ExceptT ExportError (StateT τ (StateM Workspace)) Unit) s w =
          ((.ok (), s), w) := rfl
    rw [List.map_cons, exportFiles, beside_bind (readDocuments_eq s found decoded), beside_bind quiet,
      beside_bind (insertAll_eq accepts file.collection documents s w),
      beside_bind (ih (fun load h => reads load (List.mem_cons_of_mem _ h)) _), List.flatMap_cons,
      List.foldl_append]
    rfl

end Fixtures.Export
