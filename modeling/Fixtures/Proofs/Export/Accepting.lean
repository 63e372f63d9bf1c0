import Fixtures.Proofs.Export.Rereading
import Fixtures.Proofs.Json.Agreement

/-!
# Which files are document files

A file is read as documents if and only if its text is one value, an array of objects; the documents are these
objects, in which a repeated key keeps its first place and its last value. Any other text makes the file invalid.
-/

namespace Fixtures.Export

open Runs

/-- Reading the documents of a file that holds a text changes nothing. If the text is one value, an array of
objects, the documents are these objects in order, each with its keys as they are written but for repetition: a key
is in its first place and has its last value. Otherwise the file is refused as one without documents. -/
theorem readDocuments_accepts {path text : String} {w : Workspace}
    (found : w.files.find path = .ok (.file (.text text))) :
    (∀ documents, (Json.parse text).toOption.bind Json.documents? = some documents →
      (DocumentFile.readDocuments path : ExceptT ExportError (StateM Workspace) (List Document)) w =
          (.ok documents, w) ∧
        ∃ written, Json.listing text = .ok (.array (written.map .object)) ∧
          List.Forall₂ Json.KeepsLast written documents) ∧
    ((Json.parse text).toOption.bind Json.documents? = none → ∃ message,
      (DocumentFile.readDocuments path : ExceptT ExportError (StateM Workspace) (List Document)) w =
        (.error (.invalidDocuments path message), w)) := by
  rw [readDocuments_of_find found, DocumentFile.ofText]
  constructor
  · intro documents accepted
    rw [Json.decodeAll_eq_ok.2 accepted]
    refine ⟨rfl, ?_⟩
    -- The value that is kept is what is written, with its repeated keys merged.
    rw [Json.parse_eq_merged] at accepted
    cases hlisting : Json.listing text with
    | error e =>
      rw [hlisting] at accepted
      cases accepted
    | ok v =>
      rw [hlisting] at accepted
      obtain ⟨written, rfl, kept⟩ := Json.documents?_merged accepted
      exact ⟨written, rfl, kept⟩
  · intro refused
    cases decoded : Json.decodeAll (Json.list Json.document) text with
    | ok documents =>
      rw [Json.decodeAll_eq_ok.1 decoded] at refused
      cases refused
    | error e => exact ⟨e.describe, rfl⟩

/-- A workspace with a file in which a key is written twice, and with one that holds a null among objects. -/
def twoFiles : Workspace :=
  ⟨⟨[(["workspace"], .directory), (["A.json", "workspace"], .file (.text "[\x7b\"a\":1,\"b\":2,\"a\":3\x7d]")),
    (["B.json", "workspace"], .file (.text "[\x7b\x7d,null]"))], ["workspace"]⟩, 0, 0, ""⟩

/-- The repeated key keeps its first place and its last value; the file with a null is refused. -/
theorem readDocuments_twoFiles :
    (DocumentFile.readDocuments "A.json" : ExceptT ExportError (StateM Workspace) (List Document)) twoFiles =
        (.ok [[("a", .int 3), ("b", .int 2)]], twoFiles) ∧
      ∃ message, (DocumentFile.readDocuments "B.json" : ExceptT ExportError (StateM Workspace) (List Document))
        twoFiles = (.error (.invalidDocuments "B.json" message), twoFiles) := by
  have foundA : twoFiles.files.find "A.json" =
      .ok (.file (.text "[\x7b\"a\":1,\"b\":2,\"a\":3\x7d]")) := except_eq_ok_of_toOption rfl
  have foundB : twoFiles.files.find "B.json" = .ok (.file (.text "[\x7b\x7d,null]")) :=
    except_eq_ok_of_toOption rfl
  have accepted : (Json.parse "[\x7b\"a\":1,\"b\":2,\"a\":3\x7d]").toOption.bind Json.documents? =
      some [[("a", .int 3), ("b", .int 2)]] := rfl
  have refused : (Json.parse "[\x7b\x7d,null]").toOption.bind Json.documents? = none := rfl
  exact ⟨((readDocuments_accepts foundA).1 _ accepted).1, (readDocuments_accepts foundB).2 refused⟩

end Fixtures.Export
