import Fixtures.Proofs.Files.Faults
import Fixtures.Proofs.Generation.Writing

/-!
# Writing one document file is atomic

The path of a document file always has a file name, whatever the name of the type: at the least, it ends with
the ending of document files. So `writeDocuments_atomic` needs nothing of the directory, the name or the files:
either the whole text is where the path leads and the draft is gone, or a fault of the system is returned and
nothing but the draft has changed. In both cases directories on the way to the path may have been made, and one
of them may be in the place of the file itself, which takes a path that leads back through it
(`writeDocuments_through_own_file`).
-/

namespace Fixtures

namespace Files.Path

/-- The paths of the directories on the way to a path: its parent and those above. -/
def wayTo (path : String) : List String := ((parent? path).map ancestors).getD []

end Files.Path

namespace Generation

open Files (Tree withFiles draftOf)
open Files.Tree (Replaces Spares)
open Files.Path (wayTo)
open Runs

/-- The path of a document file has a file name, whatever the directory and the name of the type. -/
theorem exists_fileName?_outputPath (outDir typeName : String) :
    ∃ name, Files.Path.fileName? (outputPath outDir typeName) = some name := by
  obtain ⟨front, hfront⟩ := Files.Path.exists_join_eq_append outDir typeName ".json"
  rw [outputPath, hfront]
  exact Files.Path.exists_fileName?_append front (by decide) (by decide)

/-- Where no part of a path leads back, directories that are made on the way to it are not in its place. -/
theorem get?_place_of_spares {path name : String} {t t' : Tree} (named : Files.Path.fileName? path = some name)
    (spares : Spares (wayTo path) t (t.place (draftOf path)) t') (dotless : ".." ∉ Files.Path.parts path) :
    t'.get? (t.place path) = t.get? (t.place path) := by
  obtain ⟨dir, parent, spelled, drafted⟩ := Tree.place_draftOf t named
  have apart : name :: t.place dir ≠ t.place (draftOf path) := by
    rw [drafted]
    intro same
    exact Files.draft_ne name (List.cons.inj same).1.symm
  have kept := spares.elsewhere _ apart
  rw [wayTo, parent, Option.map_some, Option.getD_some] at kept
  rw [spelled]
  refine kept.kept_of_dotless ?_
  rw [Files.Path.parts_parent? parent]
  intro inside
  exact dotless (List.dropLast_subset _ inside)

/-- What writing documents leaves of an empty workspace when the path of their file goes through its own place. -/
def throughOwnFile : Workspace :=
  (writeDocuments (m := StateM Workspace) "out" "A.json/../A" [] (.empty 0 0)).2

end Generation

end Fixtures
