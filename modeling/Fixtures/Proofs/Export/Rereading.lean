import Fixtures.Export.DocumentFile
import Fixtures.Proofs.Files.Reading
import Fixtures.Proofs.Generation.Writing
import Fixtures.Proofs.Json.Nesting

/-!
# Document files read again

What was written to a document file is read from it again, whatever the name of the type and wherever the file
lies, as long as the documents are ones that document files keep and nest no deeper than the reader allows.
Deeper ones are written all the same, but the file is refused: `readDocuments_of_written`.
-/

namespace Fixtures.Export

open Generation (writeDocuments documentsText)
open Runs

/-- Reading the documents of a file that is there is decoding its text, and changes nothing. -/
theorem readDocuments_of_find {path text : String} {w : Workspace}
    (found : w.files.find path = .ok (.file (.text text))) :
    (DocumentFile.readDocuments path : ExceptT ExportError (StateM Workspace) (List Document)) w =
      (DocumentFile.ofText path text, w) := by
  have there : w.files.read path = .ok (.text text) := by
    rw [Files.Tree.read, found]
    rfl
  rw [DocumentFile.readDocuments, bind_apply, adapt_apply, Files.readText_there there]
  rfl

/-- Documents without doubles that were written to a file are read from it again as they were: in the same order
and with the same keys in the same order at every level. This holds exactly as long as their array nests no
deeper than 127 arrays and objects; deeper ones make the file invalid for that cause. -/
theorem readDocuments_of_written {outDir typeName path : String} {documents : List Document} {w w' : Workspace}
    (regular : ∀ d ∈ documents, (Json.object d).Regular)
    (floatless : ∀ d ∈ documents, (Json.object d).Floatless)
    (written : writeDocuments (m := StateM Workspace) outDir typeName documents w = (.ok path, w')) :
    ((Json.array (documents.map Json.object)).depth ≤ 127 →
      (DocumentFile.readDocuments path : ExceptT ExportError (StateM Workspace) (List Document)) w' =
        (.ok documents, w')) ∧
    (127 < (Json.array (documents.map Json.object)).depth →
      ∃ e : Json.ReadError, e.cause = .recursionLimit ∧
        (DocumentFile.readDocuments path : ExceptT ExportError (StateM Workspace) (List Document)) w' =
          (.error (.invalidDocuments path e.describe), w')) := by
  obtain ⟨-, found⟩ := Generation.find_of_writeDocuments written
  have read := readDocuments_of_find found
  constructor
  · intro shallow
    have decoded := Json.decodeAll_documentsText shallow regular floatless
    rw [read, DocumentFile.ofText, decoded]
    rfl
  · intro deep
    obtain ⟨e, decoded, cause⟩ := Json.decodeAll_documentsText_tooDeep deep regular floatless
    refine ⟨e, cause, ?_⟩
    rw [read, DocumentFile.ofText, decoded]
    rfl

/-- Two documents with the least and the greatest integer, a text that needs escapes and containers. -/
def sampleDocuments : List Document :=
  [[("z\"\n", .array [.int (-9223372036854775808), .string "\\é\u0001", .object [("k", .null)], .array []]),
    ("a", .int 18446744073709551615)], []]

/-- So many arrays, each in the next one. -/
def nestedArrays : Nat → Json
  | 0 => .null
  | n + 1 => .array [nestedArrays n]

theorem regular_nestedArrays (n : Nat) : (nestedArrays n).Regular ∧ (nestedArrays n).Floatless := by
  induction n with
  | zero => exact ⟨trivial, trivial⟩
  | succ n ih => exact ⟨⟨ih.1, trivial⟩, ⟨ih.2, trivial⟩⟩

/-- What writing documents leaves of an empty workspace. -/
def writtenTo (typeName : String) (documents : List Document) : Workspace :=
  (writeDocuments (m := StateM Workspace) "out" typeName documents (.empty 0 0)).2

/-- Documents in a directory of their own are read again, and one that nests just too deep is refused. -/
theorem readDocuments_sample :
    (DocumentFile.readDocuments "out/a/b.json" : ExceptT ExportError (StateM Workspace) (List Document))
        (writtenTo "a/b" sampleDocuments) = (.ok sampleDocuments, writtenTo "a/b" sampleDocuments) ∧
      ∃ e : Json.ReadError, e.cause = .recursionLimit ∧
        (DocumentFile.readDocuments "out/T.json" : ExceptT ExportError (StateM Workspace) (List Document))
          (writtenTo "T" [[("x", nestedArrays 126)]]) =
            (.error (.invalidDocuments "out/T.json" e.describe), writtenTo "T" [[("x", nestedArrays 126)]]) := by
  have written : writeDocuments (m := StateM Workspace) "out" "a/b" sampleDocuments (.empty 0 0) =
      (.ok "out/a/b.json", writtenTo "a/b" sampleDocuments) := eq_ok_of_toOption (by decide +kernel)
  have writtenDeep : writeDocuments (m := StateM Workspace) "out" "T" [[("x", nestedArrays 126)]] (.empty 0 0) =
      (.ok "out/T.json", writtenTo "T" [[("x", nestedArrays 126)]]) := eq_ok_of_toOption (by decide +kernel)
  have regular : ∀ d ∈ sampleDocuments, (Json.object d).Regular := by
    simp [sampleDocuments, Json.Regular, Json.RegularMembers, Json.RegularItems, Json.FitsWord]
  have floatless : ∀ d ∈ sampleDocuments, (Json.object d).Floatless := by
    simp [sampleDocuments, Json.Floatless, Json.FloatlessMembers, Json.FloatlessItems]
  have regularDeep : ∀ d ∈ [[("x", nestedArrays 126)]], (Json.object d).Regular := by
    simp [Json.Regular, Json.RegularMembers, (regular_nestedArrays 126).1]
  have floatlessDeep : ∀ d ∈ [[("x", nestedArrays 126)]], (Json.object d).Floatless := by
    simp [Json.Floatless, Json.FloatlessMembers, (regular_nestedArrays 126).2]
  exact ⟨(readDocuments_of_written regular floatless written).1 (by decide +kernel),
    (readDocuments_of_written regularDeep floatlessDeep writtenDeep).2 (by decide +kernel)⟩

end Fixtures.Export
