import Fixtures.Proofs.Export.Inserting
import Fixtures.Proofs.Generation.Running
import Fixtures.Proofs.Json.RoundTrip

/-!
# From a schema to a store

A run writes documents to files, an export takes them from files to a sink. Together they hand over exactly
the documents that were assembled, when the run starts from a directory in which nothing lies and the types
have names of their own.

## Shape of the argument

`leadsToFile_iff` says what lies in the directory after the run, `scan_written` what a scan makes of it, and
`reads_written` what is read from each file. `exportAll_of_run` puts the two programs together.
-/

namespace Fixtures.Export

open Files (Tree Location withFiles)
open Generation (DocumentSet Options Report SetsWritten documentsName outputPath IsSlashless lastOf)
open Runs

/-- A file with documents of a set and what is read from it. -/
def loadOf (outDir : String) (set : DocumentSet) : Load :=
  (⟨outputPath outDir set.typeName, set.typeName, Naming.collectionName set.typeName⟩, set.documents)

/-! ## The directory after a run -/

section Written

variable {outDir : String} {sets : List DocumentSet} {t t' : Tree}

/-- The name of a directory leads to no file. -/
theorem leadsToFile_of_directory {dir name : String}
    (spelled : t.place (Files.Path.join dir name) = name :: t.place dir)
    (there : t.get? (name :: t.place dir) = some .directory) : leadsToFile t dir name = false := by
  cases found : t.find (Files.Path.join dir name) with
  | error fault => simp [leadsToFile, found, Except.toOption]
  | ok entry =>
    have same := Tree.get?_place_of_find found
    rw [spelled, there] at same
    cases same
    rw [leadsToFile, found]
    rfl

/-- The names in the directory that lead to files are those of the sets. -/
theorem leadsToFile_iff (written : SetsWritten outDir sets t t') (bare : t.IsBare outDir) (name : String) :
    (name ∈ t'.children (t.place outDir) ∧ leadsToFile t' outDir name = true) ↔
      ∃ set ∈ sets, documentsName set.typeName = name := by
  constructor
  · rintro ⟨there, file⟩
    obtain ⟨entry, hentry⟩ := Option.isSome_iff_exists.1 (Tree.mem_children.1 there)
    have only := @SetsWritten.exact _ _ _ _ [] written (fun name entry h => by rw [bare name] at h; cases h)
    rcases only name entry hentry with ⟨rfl, plain⟩ | ⟨set, hset, rfl⟩
    · have same : t'.place outDir = t.place outDir := Tree.place_congr written.keeps.here outDir
      have spelled : t'.place (Files.Path.join outDir name) = name :: t'.place outDir := by
        rw [Tree.place_join _ _ plain.slashless, Tree.stepTo_plain plain.named]
      rw [leadsToFile_of_directory spelled (same ▸ hentry)] at file
      cases file
    · exact ⟨set, hset, rfl⟩
  · rintro ⟨set, hset, rfl⟩
    obtain ⟨last, hlast⟩ := Option.isSome_iff_exists.1 (Generation.lastOf_isSome.2 ⟨set, hset, rfl⟩)
    obtain ⟨reached, there⟩ := written.announced hlast
    refine ⟨Tree.mem_children.2 (by simp [there]), ?_⟩
    have found := reached.find there
    rw [Generation.outputPath_eq] at found
    rw [leadsToFile, found]
    rfl

/-- The sets in the order in which their files are taken. -/
def inFileOrder (sets : List DocumentSet) : List DocumentSet :=
  sets.mergeSort fun a b => decide (documentsName a.typeName ≤ documentsName b.typeName)

theorem map_inFileOrder (sets : List DocumentSet) :
    (inFileOrder sets).map (fun set => documentsName set.typeName) =
      DocumentFile.sortNames (sets.map fun set => documentsName set.typeName) :=
  List.map_mergeSort fun _ _ _ _ => rfl

/-- Sets with names of their own are taken by the bytes of the names of their files. -/
theorem pairwise_inFileOrder (distinct : (sets.map (·.typeName)).Nodup) :
    (inFileOrder sets).Pairwise fun a b =>
      Text.bytes (documentsName a.typeName) < Text.bytes (documentsName b.typeName) := by
  have sorted : (inFileOrder sets).Pairwise fun a b =>
      documentsName a.typeName ≤ documentsName b.typeName := by
    have names := pairwise_sortNames (sets.map fun set => documentsName set.typeName)
    rw [← map_inFileOrder] at names
    exact List.pairwise_map.1 names
  have apart : (inFileOrder sets).Pairwise fun a b => a.typeName ≠ b.typeName := by
    have perm : (inFileOrder sets).Perm sets := List.mergeSort_perm _ _
    have names : ((inFileOrder sets).map (·.typeName)).Nodup := (perm.map _).nodup_iff.2 distinct
    exact List.pairwise_map.1 names
  refine sorted.imp₂ (fun a b least other => Text.bytes_lt_iff.2 ?_) apart
  exact Std.lt_of_le_of_ne least fun same => other (Generation.documentsName_inj same)

theorem filterMap_of_forall {α β : Type} {f : α → Option β} {g : α → β} {xs : List α}
    (h : ∀ x ∈ xs, f x = some (g x)) : xs.filterMap f = xs.map g := by
  induction xs with
  | nil => rfl
  | cons x xs ih =>
    rw [List.filterMap_cons, h x List.mem_cons_self, ih fun y hy => h y (List.mem_cons_of_mem _ hy),
      List.map_cons]

/-- A scan of the directory gives the files of the sets. -/
theorem scan_written (written : SetsWritten outDir sets t t') (bare : t.IsBare outDir)
    (distinct : (sets.map (·.typeName)).Nodup) (nonempty : ∀ set ∈ sets, set.typeName ≠ "") :
    (DocumentFile.sortNames ((t'.children (t.place outDir)).filter (leadsToFile t' outDir))).filterMap
        (DocumentFile.ofName? outDir) =
      ((inFileOrder sets).map (loadOf outDir)).map (·.1) := by
  have noName : t.children (t.place outDir) = [] := by
    refine List.eq_nil_iff_forall_not_mem.2 fun name => ?_
    simp [Tree.mem_children, bare name]
  have listed : (t'.children (t.place outDir)).Nodup := written.nodup (by simp [noName])
  have named : (sets.map fun set => documentsName set.typeName).Nodup := by
    have apart : sets.Pairwise fun a b => a.typeName ≠ b.typeName := List.pairwise_map.1 distinct
    exact List.pairwise_map.2 (apart.imp fun other same => other (Generation.documentsName_inj same))
  have perm : ((t'.children (t.place outDir)).filter (leadsToFile t' outDir)).Perm
      (sets.map fun set => documentsName set.typeName) := by
    refine (List.perm_ext_iff_of_nodup (listed.filter _) named).2 fun name => ?_
    rw [List.mem_filter, leadsToFile_iff written bare, List.mem_map]
  rw [sortNames_perm perm, ← map_inFileOrder, List.filterMap_map, List.map_map]
  refine filterMap_of_forall fun set hset => ?_
  exact ofName?_json outDir (nonempty set (List.mem_mergeSort.1 hset))

/-- The file of each set is read as its documents. -/
theorem reads_written (written : SetsWritten outDir sets t t') (distinct : (sets.map (·.typeName)).Nodup)
    {set : DocumentSet} (h : set ∈ sets)
    (regular : ∀ d ∈ set.documents, (Json.object d).Regular)
    (floatless : ∀ d ∈ set.documents, (Json.object d).Floatless)
    (shallow : (Json.array (set.documents.map Json.object)).depth ≤ Json.depthLimit) :
    ∃ text, t'.find (loadOf outDir set).1.path = .ok (.file (.text text)) ∧
      Json.decodeAll (Json.list Json.document) text = .ok (loadOf outDir set).2 := by
  obtain ⟨reached, there⟩ := written.announced (Generation.lastOf_of_mem distinct h)
  exact ⟨_, reached.find there, Json.decodeAll_documentsText shallow regular floatless⟩

end Written

/-! ## Both programs -/

/-- A schema with two types whose names are not in the order of their bytes, and one without fields. -/
def orchard : Schema :=
  ⟨[⟨"Pear", [⟨"n", [⟨"generate", [⟨"faker", "1"⟩]⟩]⟩]⟩, ⟨"Soil", []⟩, ⟨"Apple", [⟨"z", []⟩]⟩]⟩

/-- The sets that are assembled from it. -/
def orchardSets : List DocumentSet := [⟨"Pear", [[("n", .int 1)]], ["n"], []⟩, ⟨"Apple", [[]], [], ["z"]⟩]

/-- What a run leaves of an empty workspace. -/
def orchardAfter : Workspace :=
  (Generation.run (m := StateM Workspace) .silent ⟨"out", .one, none⟩ orchard (.empty 0 7)).2

end Fixtures.Export
