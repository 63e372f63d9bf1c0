import Fixtures.Export.Run
import Fixtures.Proofs.Files.Changes
import Fixtures.Proofs.Text.ByteOrder

/-!
# Scanning a directory

A scan takes the names in a directory that lead to files, sorts them, and keeps those of document files.
`scan_eq` says so of the files of a workspace, `ofName?_json` what the name of a document file tells, and `sortNames_perm`
that the order in which the directory lists them is of no account.
-/

namespace Fixtures.Export

open Files (Tree Location)
open Runs

/-! ## Names of document files -/

theorem cutName_json {stem : String} (h : stem ≠ "") :
    Files.Path.cutName (stem ++ ".json") = (stem, some "json") := by
  have cut : Text.cutLast '.' (stem ++ ".json").toList = some (stem.toList, "json".toList) := by
    have parts : (stem ++ ".json").toList = stem.toList ++ '.' :: "json".toList := by simp
    rw [parts]
    exact Text.cutLast_append _ (by decide)
  rw [Files.Path.cutName, cut]
  simp [h]

/-- A name that is cut is its two parts with a dot between them. -/
theorem eq_of_cutName {name stem extension : String}
    (h : Files.Path.cutName name = (stem, some extension)) :
    stem ≠ "" ∧ name = stem ++ "." ++ extension := by
  rw [Files.Path.cutName] at h
  split at h
  · next before after cut =>
    split at h
    · cases h
    · next nonempty =>
      cases h
      refine ⟨by simpa using nonempty, String.toList_injective ?_⟩
      rw [Text.cutLast_eq cut]
      simp
  · cases h

/-- The name of a document file tells its type and collection. -/
theorem ofName?_json (dir : String) {stem : String} (h : stem ≠ "") :
    DocumentFile.ofName? dir (stem ++ ".json") =
      some ⟨Files.Path.join dir (stem ++ ".json"), stem, Naming.collectionName stem⟩ := by
  simp [DocumentFile.ofName?, cutName_json h]

/-! ## The order of names -/

theorem pairwise_sortNames (names : List String) : (DocumentFile.sortNames names).Pairwise (· ≤ ·) := by
  have sorted := @List.pairwise_mergeSort _ (fun a b : String => decide (a ≤ b))
    (fun a b c hab hbc => by simpa using String.le_trans (by simpa using hab) (by simpa using hbc))
    (fun a b => by simpa using String.le_total a b) names
  simpa [DocumentFile.sortNames] using sorted

/-- The order in which names are listed is of no account. -/
theorem sortNames_perm {names others : List String} (h : names.Perm others) :
    DocumentFile.sortNames names = DocumentFile.sortNames others := by
  refine List.Perm.eq_of_pairwise (fun (a b : String) _ _ => String.le_antisymm)
    (pairwise_sortNames names) (pairwise_sortNames others) ?_
  exact ((List.mergeSort_perm names _).trans h).trans (List.mergeSort_perm others _).symm

/-! ## Looking into a directory -/

/-- Whether a name in a directory leads to a file. -/
def leadsToFile (t : Tree) (dir name : String) : Bool :=
  (t.find (Files.Path.join dir name)).toOption.map Files.Entry.kind == some .file

section Scan

variable {τ : Type}

/-- What a scan of a directory gives. It changes nothing. -/
theorem scan_eq {dir : String} {location : Location} {w : Workspace} (s : τ)
    (located : w.files.locate dir = .ok location) (inside : w.files.get? location = some .directory) :
    (DocumentFile.scan dir : ExceptT ExportError (StateT τ (StateM Workspace)) (List DocumentFile)) s w =
      ((.ok ((DocumentFile.sortNames ((w.files.children location).filter (leadsToFile w.files dir))).filterMap
        (DocumentFile.ofName? dir)), s), w) := by
  have found : w.files.find dir = .ok .directory := by
    rw [Tree.find]
    refine except_bind_eq_ok.2 ⟨location, located, ?_⟩
    rw [inside]
  have there : (liftM (Files.isDirectory dir : StateT τ (StateM Workspace) Bool) :
      ExceptT ExportError (StateT τ (StateM Workspace)) Bool) s w = ((.ok true, s), w) := by
    show ((Except.ok ((w.files.find dir).toOption.map Files.Entry.kind == some .directory), s), w) = _
    rw [found]
    rfl
  have listed :
      (Files.FileSystem.list dir : ExceptT Files.Fault (StateT τ (StateM Workspace)) (List String)) s w =
        ((.ok (w.files.children location), s), w) := by
    show ((w.files.list dir, s), w) = _
    rw [Tree.list_eq located inside]
  have asked (name : String) (_ : name ∈ w.files.children location) :
      (liftM (Files.isFile (Files.Path.join dir name) : StateT τ (StateM Workspace) Bool) :
        ExceptT ExportError (StateT τ (StateM Workspace)) Bool) s w =
        ((.ok (leadsToFile w.files dir name), s), w) := rfl
  rw [DocumentFile.scan, beside_bind there, if_pos rfl, beside_bind (beside_adapt listed),
    beside_bind (beside_filterM asked)]
  rfl

end Scan

end Fixtures.Export
