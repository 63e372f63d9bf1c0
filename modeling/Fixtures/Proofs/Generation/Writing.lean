import Fixtures.Generation.Run
import Fixtures.Proofs.Files.Replacing

/-!
# Writing document files

A run writes the document files one after another, each by replacing a file as a whole, up to the first one
that cannot be written. `SetsWritten` is what this does to the files of the sets that were written, and
`writeSets_apply` says where the writing stops. What holds of the files afterwards is carried along by
induction: each path announced leads to the documents of the last set with the name of its type
(`SetsWritten.announced`), no draft is left (`SetsWritten.draftless`), nothing else has changed
(`SetsWritten.elsewhere`), and a directory that was empty holds no other files (`SetsWritten.exact`).
-/

namespace Fixtures.Generation

open Files (Tree Location withFiles)
open Files.Tree (Replaces Spares Reaches KeptOrMade)
open Runs

/-- The name of the file for the documents of a type. -/
def documentsName (typeName : String) : String := typeName ++ ".json"

theorem outputPath_eq (outDir typeName : String) :
    outputPath outDir typeName = Files.Path.join outDir (documentsName typeName) := rfl

/-- A name of a type that can be the name of a file: no part of it is a directory. -/
def IsSlashless (typeName : String) : Prop := '/' ∉ typeName.toList

instance (typeName : String) : Decidable (IsSlashless typeName) :=
  inferInstanceAs (Decidable ('/' ∉ typeName.toList))

theorem documentsName_plain {typeName : String} (h : IsSlashless typeName) :
    Files.Path.IsPlain (documentsName typeName) :=
  Files.Path.IsPlain.append h (by decide) (by decide)

theorem documentsName_inj {a b : String} (h : documentsName a = documentsName b) : a = b := by
  have same := congrArg String.toList h
  simp only [documentsName, String.toList_append, List.append_cancel_right_eq] at same
  exact String.toList_injective same

/-- Drafts have names that no document file has. -/
theorem documentsName_ne_draft (a b : String) : documentsName a ≠ documentsName b ++ ".tmp" := by
  intro h
  have last := congrArg (fun s => s.toList.getLast?) h
  simp [documentsName, List.getLast?_append] at last

theorem file_ne_draft (a b : String) (dir : Location) :
    documentsName a :: dir ≠ (documentsName b ++ ".tmp") :: dir := by
  intro same
  exact documentsName_ne_draft a b (List.cons.inj same).1

/-- The file of a type is neither the file nor the draft of another one. -/
theorem file_outside {a b : String} (apart : b ≠ a) (dir : Location) :
    documentsName a :: dir ≠ documentsName b :: dir ∧
      documentsName a :: dir ≠ (documentsName b ++ ".tmp") :: dir := by
  refine ⟨?_, file_ne_draft a b dir⟩
  intro same
  exact apart (documentsName_inj (List.cons.inj same).1).symm

/-- The draft of a type is neither the file nor the draft of another one. -/
theorem draft_outside {a b : String} (apart : b ≠ a) (dir : Location) :
    (documentsName a ++ ".tmp") :: dir ≠ documentsName b :: dir ∧
      (documentsName a ++ ".tmp") :: dir ≠ (documentsName b ++ ".tmp") :: dir := by
  refine ⟨(file_ne_draft b a dir).symm, ?_⟩
  intro same
  have names := congrArg String.toList (List.cons.inj same).1
  rw [String.toList_append, String.toList_append, List.append_cancel_right_eq] at names
  exact apart (documentsName_inj (String.toList_injective names)).symm

/-! ## One file -/

/-- The path of a type leads to its file in the directory. -/
theorem place_outputPath (t : Tree) (outDir : String) {typeName : String} (h : IsSlashless typeName) :
    t.place (outputPath outDir typeName) = documentsName typeName :: t.place outDir := by
  have plain := documentsName_plain h
  rw [outputPath_eq, Tree.place_join _ _ plain.slashless, Tree.stepTo_plain plain.named]

theorem place_draftOf_outputPath (t : Tree) (outDir : String) {typeName : String} (h : IsSlashless typeName) :
    t.place (Files.draftOf (outputPath outDir typeName)) =
      (documentsName typeName ++ ".tmp") :: t.place outDir := by
  have named := Files.Path.fileName?_join outDir (documentsName_plain h)
  rw [← outputPath_eq] at named
  obtain ⟨dir, -, spelled, drafted⟩ := Tree.place_draftOf t named
  rw [place_outputPath t outDir h] at spelled
  rw [drafted, (List.cons.inj spelled).2]

/-- One set of documents is written: its file was replaced, and its path leads there. -/
structure SetWritten (outDir : String) (set : DocumentSet) (t t' : Tree) : Prop
    extends Replaces (Files.Path.ancestors outDir) t (documentsName set.typeName :: t.place outDir)
      ((documentsName set.typeName ++ ".tmp") :: t.place outDir) (.text (documentsText set.documents)) t' where
  reached : t'.Reaches (outputPath outDir set.typeName) (documentsName set.typeName :: t.place outDir)

theorem SetWritten.place_eq {outDir : String} {set : DocumentSet} {t t' : Tree}
    (h : SetWritten outDir set t t') : t'.place outDir = t.place outDir :=
  Tree.place_congr h.keeps.here outDir

/-- Once a set is written, the directories on the way to its file are there. -/
theorem SetWritten.inside {outDir : String} {set : DocumentSet} {t t' : Tree} (h : SetWritten outDir set t t') :
    ∀ above ∈ Files.Path.ancestors outDir, t'.get? (t'.place above) = some .directory := by
  intro above habove
  have reached := h.reached
  obtain ⟨-, -, name, hname, plain⟩ := reached.spelled
  cases hname
  rw [outputPath_eq] at reached
  exact reached.inside_of_mem_ancestors plain.slashless habove

theorem writeDocuments_eq_ok {outDir : String} {set : DocumentSet} {w w' : Workspace} {path : String}
    (slashless : IsSlashless set.typeName)
    (h : writeDocuments (m := StateM Workspace) outDir set.typeName set.documents w = (.ok path, w')) :
    path = outputPath outDir set.typeName ∧
      ∃ files, w' = withFiles w files ∧ SetWritten outDir set w.files files := by
  have plain := documentsName_plain slashless
  have named := Files.Path.fileName?_join outDir plain
  rw [writeDocuments] at h
  obtain ⟨_, w₁, hfile, hpath⟩ := bind_eq_ok h
  cases hpath
  obtain ⟨dir, files, parent, hfiles, reached, replaces⟩ := Files.replaceFile_eq_ok named hfile
  -- The parent of the path and the directory it was joined to spell the same location.
  have same : w.files.place dir = w.files.place outDir := by
    obtain ⟨dir', parent', -, spelled⟩ := Tree.place_fileName? w.files named
    cases parent.symm.trans parent'
    exact (List.cons.inj (spelled.symm.trans (place_outputPath w.files outDir slashless))).2
  rw [same] at reached replaces
  have replaces := replaces.mono fun _ => Tree.exists_ancestor_of_parent? w.files plain parent
  exact ⟨rfl, files, hfiles, replaces, reached⟩

/-- A set whose file cannot be written leaves everything but its draft and directories made for it alone. -/
theorem writeDocuments_eq_error {outDir : String} {set : DocumentSet} {w w' : Workspace} {fault : Files.Fault}
    (slashless : IsSlashless set.typeName)
    (h : writeDocuments (m := StateM Workspace) outDir set.typeName set.documents w = (.error fault, w')) :
    ∃ files, w' = withFiles w files ∧
      Spares (Files.Path.ancestors outDir) w.files
        ((documentsName set.typeName ++ ".tmp") :: w.files.place outDir) files := by
  have plain := documentsName_plain slashless
  have named := Files.Path.fileName?_join outDir plain
  rw [writeDocuments] at h
  rcases bind_eq_error h with hfile | ⟨_, w₁, -, hpath⟩
  · obtain ⟨dir, files, parent, hfiles, spares⟩ := Files.replaceFile_eq_error named hfile
    have spares := spares.mono fun _ => Tree.exists_ancestor_of_parent? w.files plain parent
    rw [← outputPath_eq, place_draftOf_outputPath _ _ slashless] at spares
    exact ⟨files, hfiles, spares⟩
  · cases hpath

/-- Where documents are written, their text is found. Any name of a type will do, as its ending makes it the
name of a file. -/
theorem find_of_writeDocuments {outDir typeName path : String} {documents : List Document} {w w' : Workspace}
    (h : writeDocuments (m := StateM Workspace) outDir typeName documents w = (.ok path, w')) :
    path = outputPath outDir typeName ∧ w'.files.find path = .ok (.file (.text (documentsText documents))) := by
  obtain ⟨front, hfront⟩ := Files.Path.exists_join_eq_append outDir typeName ".json"
  obtain ⟨name, named⟩ := @Files.Path.exists_fileName?_append front ".json" (by decide) (by decide)
  rw [← hfront] at named
  rw [writeDocuments] at h
  obtain ⟨_, w₁, hfile, hpath⟩ := bind_eq_ok h
  cases hpath
  obtain ⟨dir, files, -, rfl, reached, replaces⟩ := Files.replaceFile_eq_ok named hfile
  exact ⟨rfl, reached.find replaces.written⟩

/-! ## All files -/

/-- Sets of documents are written one after another. -/
inductive SetsWritten (outDir : String) : List DocumentSet → Tree → Tree → Prop
  | nil (t : Tree) : SetsWritten outDir [] t t
  | cons {set : DocumentSet} {rest : List DocumentSet} {t t' t'' : Tree} (first : SetWritten outDir set t t')
      (others : SetsWritten outDir rest t' t'') : SetsWritten outDir (set :: rest) t t''

/-- The entry of a report for a document set below a directory. -/
def announce (outDir : String) (set : DocumentSet) : TypeReport :=
  entryOf set (outputPath outDir set.typeName)

/-- Writes the files of document sets in order and tells the first that cannot be written: how many are before
it, and why. -/
def firstUnwritable (outDir : String) : List DocumentSet → StateM Workspace (Option (Nat × Files.Fault))
  | [] => pure none
  | set :: rest => do
    match ← (writeDocuments outDir set.typeName set.documents).run with
    | .error fault => pure (some (0, fault))
    | .ok _ => return (← firstUnwritable outDir rest).map fun (k, fault) => (k + 1, fault)

section FirstUnwritable

variable {outDir : String} {set : DocumentSet} {rest : List DocumentSet} {w w' : Workspace}

theorem firstUnwritable_of_error {fault : Files.Fault}
    (h : writeDocuments (m := StateM Workspace) outDir set.typeName set.documents w = (.error fault, w')) :
    (firstUnwritable outDir (set :: rest) w).1 = some (0, fault) := by
  rw [firstUnwritable]
  show (StateT.bind (m := Id) (writeDocuments (m := StateM Workspace) _ _ _) _ w).1 = _
  rw [StateT.bind, h]
  rfl

theorem firstUnwritable_of_ok {path : String}
    (h : writeDocuments (m := StateM Workspace) outDir set.typeName set.documents w = (.ok path, w')) :
    (firstUnwritable outDir (set :: rest) w).1 =
      (firstUnwritable outDir rest w').1.map fun (k, fault) => (k + 1, fault) := by
  rw [firstUnwritable]
  show (StateT.bind (m := Id) (writeDocuments (m := StateM Workspace) _ _ _) _ w).1 = _
  rw [StateT.bind, h]
  rfl

end FirstUnwritable

/-- The sets are written one after another, up to the first one whose file cannot be written. The writing ends
there with the same failure. -/
theorem writeSets_apply {filter : Log.Filter} {outDir : String} {sets : List DocumentSet} (w : Workspace)
    (slashless : ∀ set ∈ sets, IsSlashless set.typeName) :
    match (firstUnwritable outDir sets w).1 with
    | none => ∃ files,
        writeSets (m := StateM Workspace) ⟨filter, none⟩ outDir sets w =
          (.ok (sets.map (announce outDir)), withFiles w files) ∧
        SetsWritten outDir sets w.files files
    | some (k, fault) => ∃ set middle files,
        writeSets (m := StateM Workspace) ⟨filter, none⟩ outDir sets w = (.error fault, withFiles w files) ∧
        sets[k]? = some set ∧ SetsWritten outDir (sets.take k) w.files middle ∧
        Spares (Files.Path.ancestors outDir) middle
          ((documentsName set.typeName ++ ".tmp") :: middle.place outDir) files := by
  induction sets generalizing w with
  | nil => exact ⟨w.files, rfl, .nil _⟩
  -- The first file cannot be written, or it is and the others follow in the workspace it leaves.
  | cons set rest ih =>
    have hset := slashless set List.mem_cons_self
    rcases hfirst : writeDocuments (m := StateM Workspace) outDir set.typeName set.documents w with
      ⟨fault | path, w₁⟩
    · rw [firstUnwritable_of_error hfirst]
      obtain ⟨files, rfl, spares⟩ := writeDocuments_eq_error hset hfirst
      refine ⟨set, w.files, files, ?_, rfl, .nil _, spares⟩
      rw [writeSets, bind_apply, hfirst]
    · rw [firstUnwritable_of_ok hfirst]
      obtain ⟨rfl, files, rfl, first⟩ := writeDocuments_eq_ok hset hfirst
      have writes : writeSets (m := StateM Workspace) ⟨filter, none⟩ outDir (set :: rest) w =
          (do
            let entries ← writeSets ⟨filter, none⟩ outDir rest
            pure (announce outDir set :: entries) : ExceptT Files.Fault (StateM Workspace) _)
              (withFiles w files) := by
        rw [writeSets, bind_apply, hfirst]
        rfl
      have hrest := ih (withFiles w files) fun s hs => slashless s (List.mem_cons_of_mem _ hs)
      rw [writes, bind_apply]
      cases hstop : (firstUnwritable outDir rest (withFiles w files)).1 with
      | none =>
        rw [hstop] at hrest
        obtain ⟨files', wrote, written⟩ := hrest
        rw [wrote]
        exact ⟨files', rfl, .cons first written⟩
      | some stop =>
        obtain ⟨k, fault⟩ := stop
        rw [hstop] at hrest
        obtain ⟨stopped, middle, files', wrote, there, written, spares⟩ := hrest
        rw [wrote]
        exact ⟨stopped, middle, files', rfl, there, .cons first written, spares⟩

/-- What a run announces was written, set after set. -/
theorem writeSets_eq_ok {filter : Log.Filter} {outDir : String} {sets : List DocumentSet}
    {w w' : Workspace} {entries : List TypeReport} (slashless : ∀ set ∈ sets, IsSlashless set.typeName)
    (h : writeSets (m := StateM Workspace) ⟨filter, none⟩ outDir sets w = (.ok entries, w')) :
    entries = sets.map (announce outDir) ∧
      ∃ files, w' = withFiles w files ∧ SetsWritten outDir sets w.files files := by
  have outcome := @writeSets_apply filter outDir sets w slashless
  cases hstop : (firstUnwritable outDir sets w).1 with
  | none =>
    rw [hstop] at outcome
    obtain ⟨files, wrote, written⟩ := outcome
    cases h.symm.trans wrote
    exact ⟨rfl, files, rfl, written⟩
  | some stop =>
    rw [hstop] at outcome
    obtain ⟨_, _, _, stopped, -⟩ := outcome
    cases h.symm.trans stopped

/-! ## What the directory holds afterwards -/

/-- The last set of documents with the name of a type. -/
def lastOf (sets : List DocumentSet) (typeName : String) : Option DocumentSet :=
  sets.reverse.find? fun set => set.typeName = typeName

theorem lastOf_cons (set : DocumentSet) (rest : List DocumentSet) (typeName : String) :
    lastOf (set :: rest) typeName =
      (lastOf rest typeName).or (if set.typeName = typeName then some set else none) := by
  rw [lastOf, List.reverse_cons, List.find?_append, lastOf]
  by_cases same : set.typeName = typeName <;> simp [same]

theorem lastOf_isSome {sets : List DocumentSet} {typeName : String} :
    (lastOf sets typeName).isSome ↔ ∃ set ∈ sets, set.typeName = typeName := by
  simp [lastOf, List.find?_isSome]

/-- With names of their own, each set is the last of its name. -/
theorem lastOf_of_mem (distinct : (sets.map (·.typeName)).Nodup) {set : DocumentSet} (h : set ∈ sets) :
    lastOf sets set.typeName = some set := by
  induction sets with
  | nil => exact absurd h List.not_mem_nil
  | cons first rest ih =>
    rw [List.map_cons, List.nodup_cons] at distinct
    rw [lastOf_cons]
    rcases List.mem_cons.1 h with rfl | h
    · cases hrest : lastOf rest set.typeName with
      | none => simp
      | some other =>
        obtain ⟨other, hother, named⟩ := lastOf_isSome.1 (Option.isSome_of_mem hrest)
        exact absurd (List.mem_map.2 ⟨other, hother, named⟩) distinct.1
    · rw [ih distinct.2 h, Option.some_or]

namespace SetsWritten

variable {outDir : String} {sets : List DocumentSet} {t t' : Tree}

theorem keeps (h : SetsWritten outDir sets t t') : t.Keeps t' := by
  induction h with
  | nil t => exact .refl t
  | cons first _ ih => exact first.keeps.trans ih

/-- Where no file and no draft of the sets is, nothing changes but for directories on the way to the files. -/
theorem elsewhere (h : SetsWritten outDir sets t t') {location : Location}
    (outside : ∀ set ∈ sets, location ≠ documentsName set.typeName :: t.place outDir ∧
      location ≠ (documentsName set.typeName ++ ".tmp") :: t.place outDir) :
    KeptOrMade (Files.Path.ancestors outDir) t t' location := by
  induction h with
  | nil => exact .refl _ _ _
  | @cons set rest t t₁ t' first written ih =>
    rw [first.place_eq] at ih
    obtain ⟨apart, notDraft⟩ := outside set List.mem_cons_self
    have others := ih fun s hs => outside s (List.mem_cons_of_mem _ hs)
    exact (first.elsewhere location apart notDraft).trans first.keeps.here others

/-- The file of a type outlasts the files of other types. -/
theorem get?_of_forall_ne (h : SetsWritten outDir sets t t') {typeName : String} {content : Files.Content}
    (there : t.get? (documentsName typeName :: t.place outDir) = some (.file content))
    (others : ∀ set ∈ sets, set.typeName ≠ typeName) :
    t'.get? (documentsName typeName :: t.place outDir) = some (.file content) :=
  (h.elsewhere fun set hset => file_outside (others set hset) _).kept there

/-- Once there are sets that were written, the directories on the way to the files are there. -/
theorem inside (h : SetsWritten outDir sets t t') (some : sets ≠ []) :
    ∀ above ∈ Files.Path.ancestors outDir, t'.get? (t'.place above) = Option.some .directory := by
  intro above habove
  cases h with
  | nil => exact absurd rfl some
  | cons first written =>
    rw [Tree.place_congr written.keeps.here]
    exact written.keeps.directory _ (first.inside above habove)

/-- No draft of a set that was written is left. -/
theorem draftless (h : SetsWritten outDir sets t t') {typeName : String}
    (named : ∃ set ∈ sets, set.typeName = typeName) :
    t'.get? ((documentsName typeName ++ ".tmp") :: t.place outDir) = none := by
  induction h with
  | nil =>
    obtain ⟨_, hset, -⟩ := named
    exact absurd hset List.not_mem_nil
  | @cons first rest t t₁ t' written others ih =>
    rw [written.place_eq] at ih
    by_cases later : ∃ s ∈ rest, s.typeName = typeName
    · exact ih later
    · -- No later set writes the draft, and the directories on the way to their files are there already.
      have apart (s : DocumentSet) (hs : s ∈ rest) : s.typeName ≠ typeName := fun same => later ⟨s, hs, same⟩
      have kept := others.elsewhere fun s hs => draft_outside (apart s hs) (t₁.place outDir)
      obtain ⟨set, hset, rfl⟩ := named
      rcases List.mem_cons.1 hset with rfl | hset
      · rw [written.place_eq] at kept
        rw [kept.kept_of_inside written.inside, written.moved]
      · exact absurd ⟨set, hset, rfl⟩ later

/-- The path of each type leads to the documents of the last set with its name. -/
theorem announced (h : SetsWritten outDir sets t t') {typeName : String} {last : DocumentSet}
    (hlast : lastOf sets typeName = some last) :
    t'.Reaches (outputPath outDir typeName) (documentsName typeName :: t.place outDir) ∧
      t'.get? (documentsName typeName :: t.place outDir) =
        some (.file (.text (documentsText last.documents))) := by
  induction h with
  | nil => cases hlast
  | @cons set rest t t₁ t' first written ih =>
    rw [lastOf_cons] at hlast
    cases hrest : lastOf rest typeName with
    -- A later set of the name replaces the file again.
    | some later =>
      rw [hrest, Option.some_or] at hlast
      rw [← first.place_eq]
      exact ih (hrest.trans hlast)
    -- Otherwise the file is the last one of the name, and the sets that follow leave it alone.
    | none =>
      rw [hrest, Option.none_or] at hlast
      split at hlast
      · next named =>
        have hset : set = last := Option.some.inj hlast
        subst hset named
        have others (s : DocumentSet) (hs : s ∈ rest) : s.typeName ≠ set.typeName := by
          intro named
          have found := lastOf_isSome.2 ⟨s, hs, named⟩
          rw [hrest] at found
          cases found
        have there := first.written
        rw [← first.place_eq] at there
        have kept := written.get?_of_forall_ne there others
        rw [first.place_eq] at kept
        exact ⟨written.keeps.reaches first.reached, kept⟩
      · cases hlast

/-- A directory that held nothing but directories and files of sets still does. -/
theorem exact {before : List DocumentSet} (h : SetsWritten outDir sets t t')
    (only : ∀ name entry, t.get? (name :: t.place outDir) = some entry →
      (entry = .directory ∧ Files.Path.IsPlain name) ∨ ∃ set ∈ before, name = documentsName set.typeName) :
    ∀ name entry, t'.get? (name :: t.place outDir) = some entry →
      (entry = .directory ∧ Files.Path.IsPlain name) ∨
        ∃ set ∈ before ++ sets, name = documentsName set.typeName := by
  induction h generalizing before with
  | nil => simpa using only
  | @cons set rest t t₁ t' first written ih =>
    rw [first.place_eq] at ih
    rw [List.append_cons]
    refine ih fun name entry hentry => ?_
    by_cases isFile : name = documentsName set.typeName
    · exact .inr ⟨set, by simp, isFile⟩
    -- A draft was moved to its file, and nothing is left under its name.
    by_cases isDraft : name = documentsName set.typeName ++ ".tmp"
    · rw [isDraft, first.moved] at hentry
      cases hentry
    -- Anywhere else a set can at most have made a directory on the way to its file.
    rcases first.elsewhere (name :: t.place outDir) (by simpa using isFile) (by simpa using isDraft) with
      kept | ⟨-, made, -, _, hname, plain⟩
    · rw [kept] at hentry
      rcases only name entry hentry with inside | ⟨s, hs, named⟩
      · exact .inl inside
      · exact .inr ⟨s, List.mem_append_left _ hs, named⟩
    · cases hname
      rw [made] at hentry
      cases hentry
      exact .inl ⟨rfl, plain⟩

theorem nodup (h : SetsWritten outDir sets t t') {dir : Location} (distinct : (t.children dir).Nodup) :
    (t'.children dir).Nodup := by
  induction h with
  | nil => exact distinct
  | cons first _ ih => exact ih (first.nodup dir distinct)

end SetsWritten

end Fixtures.Generation
