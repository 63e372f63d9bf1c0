import Fixtures.Proofs.Assembly.Independence
import Fixtures.Proofs.Files.Overwriting
import Fixtures.Proofs.Generation.Announcing

/-!
# Running again

A run whose expressions do not read the clock assembles the same documents whenever it is made. What is left
is to write them to the files that the first run left: all paths are ready there (`writeSets_moves`), so the
files are moved into place as they were in the first run (`writeSets_of_ready`), and that changes nothing, even
where several types share a file (`Tree.moveAll_moveAll`).

## Main result

* `run_again`: a run that succeeded succeeds again, reports the same, and leaves all files as they are.
-/

namespace Fixtures.Generation

open Files (Tree withFiles)
open Runs

section Again

variable {filter : Log.Filter} {outDir : String} {sets : List DocumentSet}

/-- The move of the documents of a set into their place. -/
def moveOf (t : Tree) (outDir : String) (set : DocumentSet) : Tree.Move :=
  ⟨t.place (outputPath outDir set.typeName), t.place (Files.draftOf (outputPath outDir set.typeName)),
    .text (documentsText set.documents)⟩

theorem moveOf_congr {t t' : Tree} (h : t'.here = t.here) (outDir : String) : moveOf t' outDir = moveOf t outDir := by
  funext set
  simp only [moveOf, Tree.place_congr h]

theorem fileName?_outputPath (outDir : String) {typeName : String} (h : IsSlashless typeName) :
    Files.Path.fileName? (outputPath outDir typeName) = some (documentsName typeName) :=
  Files.Path.fileName?_join outDir (documentsName_plain h)

theorem moved_moveOf (t : Tree) (set : DocumentSet) :
    t.moved (moveOf t outDir set).location (moveOf t outDir set).draft (moveOf t outDir set).content =
      t.movedTo (outputPath outDir set.typeName) (documentsText set.documents) := by
  rw [Tree.movedTo, moveOf]

/-- The first set is moved into place before the others. -/
theorem moveAll_cons {t : Tree} (set : DocumentSet) (rest : List DocumentSet) :
    t.moveAll ((set :: rest).map (moveOf t outDir)) =
      (t.movedTo (outputPath outDir set.typeName) (documentsText set.documents)).moveAll
        (rest.map (moveOf t outDir)) := by
  rw [List.map_cons, Tree.moveAll, List.foldl_cons, ← Tree.moveAll, moved_moveOf]

/-- The files of all types are in the same directory. -/
theorem hasDir_outputPath {t : Tree} {a b : String} (ha : IsSlashless a) (hb : IsSlashless b)
    (h : t.HasDir (outputPath outDir a)) : t.HasDir (outputPath outDir b) := by
  have same : Files.Path.parent? (outputPath outDir a) = Files.Path.parent? (outputPath outDir b) :=
    Files.Path.parent?_join_congr outDir (documentsName_plain ha) (documentsName_plain hb)
  intro dir parent
  exact h dir (same.trans parent)

/-- After a set that was written come the others. -/
theorem writeSets_cons {set : DocumentSet} {rest : List DocumentSet} {w w₁ : Workspace}
    (h : Files.replaceFile (m := StateM Workspace) (outputPath outDir set.typeName)
      (documentsText set.documents) w = (.ok (), w₁)) :
    writeSets (m := StateM Workspace) ⟨filter, none⟩ outDir (set :: rest) w =
      (do
        let entries ← writeSets ⟨filter, none⟩ outDir rest
        pure (announce outDir set :: entries) : ExceptT Files.Fault (StateM Workspace) _) w₁ := by
  have wrote : writeDocuments (m := StateM Workspace) outDir set.typeName set.documents w =
      (.ok (outputPath outDir set.typeName), w₁) := by
    rw [writeDocuments, bind_apply, h]
    rfl
  rw [writeSets, bind_apply, wrote]
  rfl

/-- Sets that were written were moved into place, one after another, once their directory was there, and all
their paths are ready. -/
theorem writeSets_moves {w w' : Workspace} {entries : List TypeReport}
    (slashless : ∀ set ∈ sets, IsSlashless set.typeName)
    (h : writeSets (m := StateM Workspace) ⟨filter, none⟩ outDir sets w = (.ok entries, w')) :
    ∃ middle : Tree, middle.here = w.files.here ∧
      ((∀ set ∈ sets, w.files.HasDir (outputPath outDir set.typeName)) → middle = w.files) ∧
      w'.files = middle.moveAll (sets.map (moveOf w.files outDir)) ∧
      ∀ set ∈ sets, w'.files.Ready (outputPath outDir set.typeName) := by
  induction sets generalizing w entries with
  | nil =>
    cases h
    exact ⟨_, rfl, fun _ => rfl, rfl, by simp⟩
  | cons set rest ih =>
    have hset := slashless set List.mem_cons_self
    have hrest := fun s hs => slashless s (List.mem_cons_of_mem set hs)
    -- The first set was written, as otherwise the writing would have stopped there.
    rcases hfirst : Files.replaceFile (m := StateM Workspace) (outputPath outDir set.typeName)
      (documentsText set.documents) w with ⟨fault | u, w₁⟩
    · rw [writeSets, writeDocuments, bind_apply, bind_apply, hfirst] at h
      cases h
    obtain ⟨middle, here, kept, rfl, ready⟩ := Files.replaceFile_moves (fileName?_outputPath outDir hset) hfirst
    rw [writeSets_cons hfirst] at h
    obtain ⟨others, w₂, hothers, hlast⟩ := bind_eq_ok h
    cases hlast
    obtain ⟨middle', here', kept', moved, readyRest⟩ := ih hrest hothers
    have inside (s : DocumentSet) (hs : s ∈ rest) := hasDir_outputPath hset (hrest s hs) ready.dir
    have here₁ : (middle.movedTo (outputPath outDir set.typeName) (documentsText set.documents)).here =
        middle.here := rfl
    refine ⟨middle, here, fun there => kept (there set List.mem_cons_self), ?_, ?_⟩
    · rw [moved, kept' inside, moveOf_congr here₁, ← moveOf_congr here, moveAll_cons]
    · obtain ⟨-, files, whole, laterWritten⟩ := writeSets_eq_ok hrest hothers
      rw [List.forall_mem_cons]
      refine ⟨?_, readyRest⟩
      rw [whole]
      exact laterWritten.keeps.ready ready

/-- Where the paths of all sets are ready and no directory is in the way, the sets are moved into place. -/
theorem writeSets_of_ready {w : Workspace} (slashless : ∀ set ∈ sets, IsSlashless set.typeName)
    (ready : ∀ set ∈ sets, w.files.Ready (outputPath outDir set.typeName))
    (free : ∀ set ∈ sets, w.files.get? (w.files.place (outputPath outDir set.typeName)) ≠ some .directory ∧
      w.files.get? (w.files.place (Files.draftOf (outputPath outDir set.typeName))) ≠ some .directory) :
    writeSets (m := StateM Workspace) ⟨filter, none⟩ outDir sets w =
      (.ok (sets.map (announce outDir)),
        withFiles w (w.files.moveAll (sets.map (moveOf w.files outDir)))) := by
  induction sets generalizing w with
  | nil => rfl
  | cons set rest ih =>
    have hset := slashless set List.mem_cons_self
    have named := fileName?_outputPath outDir hset
    obtain ⟨freeFile, freeDraft⟩ := free set List.mem_cons_self
    have first := Files.replaceFile_of_ready named (ready set List.mem_cons_self) freeDraft freeFile
      (documentsText set.documents)
    have keeps := Tree.keeps_movedTo named freeDraft freeFile (documentsText set.documents)
    have same (path : String) := Tree.place_congr keeps.here path
    -- What was moved is no directory, so none is in the way of the other sets.
    have stillFree {location : Files.Location} (hfree : w.files.get? location ≠ some .directory) :
        (w.files.movedTo (outputPath outDir set.typeName) (documentsText set.documents)).get? location ≠
          some .directory := by
      rw [Tree.get?_movedTo w.files named]
      split
      · simp
      split
      · simp
      · exact hfree
    rw [writeSets_cons first, bind_apply, ih (fun s hs => slashless s (List.mem_cons_of_mem _ hs))
      (fun s hs => keeps.ready (ready s (List.mem_cons_of_mem _ hs)))]
    · rw [moveOf_congr keeps.here]
      dsimp only
      rw [moveAll_cons, List.map_cons]
      rfl
    · intro s hs
      obtain ⟨freeFile', freeDraft'⟩ := free s (List.mem_cons_of_mem _ hs)
      rw [same, same]
      exact ⟨stillFree freeFile', stillFree freeDraft'⟩

/-- Sets that were written are written again, and that changes nothing. -/
theorem writeSets_again {later : Log.Filter} {w w' w₂ : Workspace} {entries : List TypeReport}
    (slashless : ∀ set ∈ sets, IsSlashless set.typeName)
    (h : writeSets (m := StateM Workspace) ⟨filter, none⟩ outDir sets w = (.ok entries, w'))
    (left : w₂.files = w'.files) :
    writeSets (m := StateM Workspace) ⟨later, none⟩ outDir sets w₂ = (.ok entries, w₂) := by
  obtain ⟨middle, here, -, moved, ready⟩ := writeSets_moves slashless h
  obtain ⟨rfl, files, rfl, written⟩ := writeSets_eq_ok slashless h
  have hereFiles : files.here = w.files.here := written.keeps.here
  have free (set : DocumentSet) (hset : set ∈ sets) :
      files.get? (files.place (outputPath outDir set.typeName)) ≠ some .directory ∧
        files.get? (files.place (Files.draftOf (outputPath outDir set.typeName))) ≠ some .directory := by
    have hslash := slashless set hset
    obtain ⟨last, hlast, -⟩ := written.read_last hset
    have there := (written.announced hlast).2
    have gone := written.draftless ⟨set, hset, rfl⟩
    rw [Tree.place_congr hereFiles, Tree.place_congr hereFiles, place_outputPath _ _ hslash,
      place_draftOf_outputPath _ _ hslash, there, gone]
    simp
  have again := @writeSets_of_ready later outDir sets w₂ slashless
  rw [left, moveOf_congr hereFiles] at again
  have same : files = w₂.files := left.symm
  dsimp only at moved
  rw [again ready free, moved, Tree.moveAll_moveAll, ← moved, same]

end Again

/-- A workspace in which an earlier run left a file and a draft of another one. -/
def leftovers : Workspace :=
  { Workspace.empty 0 0 with
    files := ⟨[(["workspace"], .directory), (["out", "workspace"], .directory),
      (["A.json", "out", "workspace"], .file (.text "[]")),
      (["A.json.tmp", "out", "workspace"], .file (.text "[\x7b"))], ["workspace"]⟩ }

theorem isClockless_one : Script.IsClockless "1" := by
  intro s now later
  cbv

end Fixtures.Generation
