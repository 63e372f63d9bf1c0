import Fixtures.Proofs.Files.Changes

/-!
# Replacing a file

A file is replaced by way of a draft beside it, after the directories above it are made. When this succeeds,
the path leads to the new content, the draft is gone, and at every other location there is what was there
before or a directory where nothing was: `replaceFile_eq_ok`. When it fails, the same is true of every location
but that of the draft: `replaceFile_eq_error`.
-/

namespace Fixtures.Files

open Runs

/-- The workspace with other files. -/
abbrev withFiles (w : Workspace) (files : Tree) : Workspace := { w with files }

theorem change_apply (step : Tree → Except Fault Tree) (w : Workspace) :
    Workspace.change step w = match step w.files with
      | .ok files => (.ok (), withFiles w files)
      | .error fault => (.error fault, w) := rfl

theorem change_eq_ok {step : Tree → Except Fault Tree} {w w' : Workspace} {u : Unit}
    (h : Workspace.change step w = (.ok u, w')) :
    ∃ files, step w.files = .ok files ∧ w' = withFiles w files := by
  rw [change_apply] at h
  split at h
  · next files made =>
    cases h
    exact ⟨files, made, rfl⟩
  · cases h

/-- A change that fails is none. -/
theorem change_eq_error {step : Tree → Except Fault Tree} {w w' : Workspace} {fault : Fault}
    (h : Workspace.change step w = (.error fault, w')) : w' = w := by
  rw [change_apply] at h
  split at h
  · cases h
  · cases h
    rfl

/-- A directory is made, and where that fails it is enough that one is there. -/
theorem makeDirIfMissing_apply (path : String) (w : Workspace) :
    makeDirIfMissing (m := StateM Workspace) path w =
      match w.files.makeDir path with
      | .ok files => (.ok (), withFiles w files)
      | .error fault =>
        (if (w.files.find path).toOption.map Entry.kind = some .directory then .ok () else .error fault, w) := by
  have made : ((FileSystem.makeDir path : ExceptT Fault (StateM Workspace) Unit) w) =
      Workspace.change (·.makeDir path) w := rfl
  rw [makeDirIfMissing, tryCatch_apply, made, change_apply]
  cases w.files.makeDir path with
  | ok files => rfl
  | error fault =>
    show (if ((w.files.find path).toOption.map Entry.kind == some .directory) = true
        then (pure () : ExceptT Fault (StateM Workspace) Unit) else throw fault) w = _
    simp only [beq_iff_eq]
    split <;> rfl

namespace Tree

/-! ## Making directories -/

/-- Making a directory that may be missing makes at most that directory, also when it fails. -/
theorem makeDirIfMissing_made (path : String) (w : Workspace) :
    ∃ files, (makeDirIfMissing (m := StateM Workspace) path w).2 = withFiles w files ∧
      DirsMade [path] w.files files := by
  rw [makeDirIfMissing_apply]
  cases h : w.files.makeDir path with
  | ok files => exact ⟨files, rfl, .single List.mem_cons_self h⟩
  | error fault => exact ⟨w.files, rfl, .refl _⟩

/-- Making directories one within the other makes at most these, also when it fails. -/
theorem makeDirsWithin_made (paths : List String) (w : Workspace) :
    ∃ files, (makeDirsWithin (m := StateM Workspace) paths w).2 = withFiles w files ∧
      DirsMade paths w.files files := by
  induction paths generalizing w with
  | nil => exact ⟨w.files, rfl, .refl _⟩
  | cons path above ih =>
    obtain ⟨first, hfirst, made⟩ := makeDirIfMissing_made path w
    have made : DirsMade (path :: above) w.files first := made.mono (by simp)
    rw [makeDirsWithin, tryCatch_apply]
    -- A directory that cannot be made may lack the one above it: that is made first, and then this one again.
    rcases hrun : makeDirIfMissing (m := StateM Workspace) path w with ⟨fault | u, w₁⟩
    · rw [hrun] at hfirst
      dsimp only at hfirst ⊢
      split
      · obtain ⟨second, hsecond, madeAbove⟩ := ih w₁
        rw [hfirst] at madeAbove
        have madeAbove : DirsMade (path :: above) first second :=
          madeAbove.mono fun p hp => List.mem_cons_of_mem _ hp
        rw [bind_apply]
        rcases habove : makeDirsWithin (m := StateM Workspace) above w₁ with ⟨fault' | u, w₂⟩
        · rw [habove] at hsecond
          exact ⟨second, by rw [hsecond, hfirst], made.trans madeAbove⟩
        · rw [habove] at hsecond
          dsimp only at hsecond
          obtain ⟨third, hthird, madeLast⟩ := makeDirIfMissing_made path w₂
          rw [hsecond] at madeLast
          have madeLast : DirsMade (path :: above) second third := madeLast.mono (by simp)
          refine ⟨third, ?_, (made.trans madeAbove).trans madeLast⟩
          rw [hthird, hsecond, hfirst]
      · exact ⟨first, hfirst, made⟩
    · rw [hrun] at hfirst
      exact ⟨first, hfirst, made⟩

/-- Making a directory with those above it makes at most these, also when it fails. -/
theorem makeDirs_made (path : String) (w : Workspace) :
    ∃ files, (makeDirs (m := StateM Workspace) path w).2 = withFiles w files ∧
      DirsMade (Path.ancestors path) w.files files := makeDirsWithin_made _ w

/-! ## Replacing a file -/

/-- What replacing a file does to a tree: the file has its new content and its draft is gone. Anywhere else
there is what was there or, where nothing was and one of some paths spells, a directory. -/
structure Replaces (paths : List String) (t : Tree) (location draft : Location) (content : Content)
    (t' : Tree) : Prop where
  keeps : t.Keeps t'
  written : t'.get? location = some (.file content)
  moved : t'.get? draft = none
  elsewhere : ∀ other, other ≠ location → other ≠ draft → KeptOrMade paths t t' other
  nodup : ∀ dir, (t.children dir).Nodup → (t'.children dir).Nodup

/-- What replacing a file that fails may have done to a tree: there may be a draft. Anywhere else there is
what was there or, where nothing was and one of some paths spells, a directory. -/
structure Spares (paths : List String) (t : Tree) (draft : Location) (t' : Tree) : Prop where
  keeps : t.Keeps t'
  elsewhere : ∀ other, other ≠ draft → KeptOrMade paths t t' other

/-- What matters of the paths is where they lead. -/
theorem Replaces.mono {paths more : List String} {t t' : Tree} {location draft : Location}
    {content : Content} (h : Replaces paths t location draft content t')
    (sub : ∀ path ∈ paths, ∃ path' ∈ more, t.place path = t.place path') :
    Replaces more t location draft content t' :=
  { h with elsewhere := fun other apart notDraft => (h.elsewhere other apart notDraft).mono sub }

theorem Spares.mono {paths more : List String} {t t' : Tree} {draft : Location} (h : Spares paths t draft t')
    (sub : ∀ path ∈ paths, ∃ path' ∈ more, t.place path = t.place path') : Spares more t draft t' :=
  ⟨h.keeps, fun other apart => (h.elsewhere other apart).mono sub⟩

variable {name draft : String} {dir : Location} {content : Content}

/-- The tree after a draft was written and moved into place. -/
def moved (t : Tree) (location draft : Location) (content : Content) : Tree :=
  ((t.set draft (.file content)).erase draft).set location (.file content)

/-- Where a draft was moved there is the content, and nothing where it was. -/
theorem get?_moved (t : Tree) (name draft : String) (dir : Location) (content : Content) (other : Location) :
    (t.moved (name :: dir) (draft :: dir) content).get? other =
      if other = name :: dir then some (.file content)
      else if other = draft :: dir then none else t.get? other := by
  rw [moved, get?_set, get?_erase, get?_set]
  split
  · rfl
  split <;> rfl

/-- Moving a draft into place loses no directory. -/
theorem keeps_moved {t : Tree} (freeDraft : t.get? (draft :: dir) ≠ some .directory)
    (free : t.get? (name :: dir) ≠ some .directory) (content : Content) :
    t.Keeps (t.moved (name :: dir) (draft :: dir) content) := by
  refine ⟨rfl, fun location inside => ?_⟩
  rw [get?_moved, if_neg, if_neg]
  · exact inside
  · rintro rfl
    exact freeDraft inside
  · rintro rfl
    exact free inside

/-- A draft that was written and moved into place replaces the file. -/
theorem replaces_of_moved {paths : List String} {t middle : Tree} (made : DirsMade paths t middle)
    (apart : draft ≠ name) (freeDraft : middle.get? (draft :: dir) ≠ some .directory)
    (free : middle.get? (name :: dir) ≠ some .directory) :
    Replaces paths t (name :: dir) (draft :: dir) content
      (middle.moved (name :: dir) (draft :: dir) content) := by
  refine ⟨made.keeps.trans (keeps_moved freeDraft free content), ?_, ?_, ?_, ?_⟩
  · rw [get?_moved, if_pos rfl]
  · rw [get?_moved, if_neg (by simpa using apart), if_pos rfl]
  · intro other h h'
    rw [KeptOrMade, get?_moved, if_neg h, if_neg h']
    exact made.keptOrMade other
  · intro d distinct
    have distinct := nodup_children_set (made.nodup_children distinct) draft dir (.file content)
    exact nodup_children_set (nodup_children_erase distinct _) name dir _

/-- Nothing but directories was made. -/
theorem DirsMade.spares {paths : List String} {t t' : Tree} (h : DirsMade paths t t') (location : Location) :
    Spares paths t location t' := ⟨h.keeps, fun other _ => h.keptOrMade other⟩

/-- Only the draft was written. -/
theorem spares_of_drafted {paths : List String} {t middle : Tree} (made : DirsMade paths t middle)
    (freeDraft : middle.get? (draft :: dir) ≠ some .directory) :
    Spares paths t (draft :: dir) (middle.set (draft :: dir) (.file content)) := by
  refine ⟨made.keeps.trans (keeps_set freeDraft _), fun other apart => ?_⟩
  rw [KeptOrMade, get?_set, if_neg apart]
  exact made.keptOrMade other

end Tree

theorem draft_ne (name : String) : name ++ ".tmp" ≠ name := by
  intro h
  have length := congrArg String.length h
  simp at length

/-- The tree after the draft of a file was written and moved into place. -/
def Tree.movedTo (t : Tree) (path text : String) : Tree :=
  t.moved (t.place path) (t.place (draftOf path)) (.text text)

/-- The draft of a file can be written, and moved into place then. -/
structure Tree.Moves (t : Tree) (path text : String) : Prop where
  drafted : t.Reaches (draftOf path) (t.place (draftOf path))
  freeDraft : t.get? (t.place (draftOf path)) ≠ some .directory
  free : t.get? (t.place path) ≠ some .directory
  reached : (t.movedTo path text).Reaches path (t.place path)

/-- What writing the draft of a file and renaming it do. -/
theorem writeAndRename_moves {path text name : String} {w w' : Workspace} {u : Unit}
    (named : Path.fileName? path = some name)
    (h : (do
      FileSystem.write (draftOf path) (.text text)
      FileSystem.rename (draftOf path) path : ExceptT Fault (StateM Workspace) Unit) w = (.ok u, w')) :
    w.files.Moves path text ∧ w' = withFiles w (w.files.movedTo path text) := by
  obtain ⟨dir, -, spelled, drafted⟩ := Tree.place_draftOf w.files named
  obtain ⟨_, w₁, hwrite, hrename⟩ := bind_eq_ok h
  obtain ⟨t₁, hwritten, rfl⟩ := change_eq_ok hwrite
  obtain ⟨t₂, hmoved, rfl⟩ := change_eq_ok hrename
  obtain ⟨reachedDraft, freeDraft, rfl⟩ := Tree.write_eq hwritten
  obtain ⟨content, there, reached, free, rfl⟩ := Tree.rename_eq hmoved
  -- None of these steps changes the directory from which paths start.
  have same (other : String) :
      (w.files.set (w.files.place (draftOf path)) (.file (.text text))).place other = w.files.place other :=
    Tree.place_congr rfl other
  simp only [same] at there reached free ⊢
  rw [drafted, Tree.get?_set] at there free
  rw [if_pos rfl] at there
  rw [spelled, if_neg (by simpa using (draft_ne name).symm), ← spelled] at free
  cases there
  refine ⟨⟨reachedDraft, freeDraft, free, ?_⟩, rfl⟩
  -- The path was reached while the draft was there, which is no directory.
  rw [drafted] at reached
  rw [Tree.movedTo, Tree.moved, drafted, spelled]
  rw [spelled] at free reached
  refine ((Tree.keeps_erase ?_).trans (Tree.keeps_set ?_ _)).reaches reached
  · rw [Tree.get?_set, if_pos rfl]
    simp
  · rw [Tree.get?_erase, Tree.get?_set]
    split
    · simp
    · exact free

/-- Writing the draft of a file and renaming it, once the directories above it are made, replaces the file. -/
theorem writeAndRename_eq_ok {path text name dir : String} {w w' : Workspace} {u : Unit} {middle : Tree}
    (named : Path.fileName? path = some name) (parent : Path.parent? path = some dir)
    (made : Tree.DirsMade (Path.ancestors dir) w.files middle)
    (h : (do
      FileSystem.write (draftOf path) (.text text)
      FileSystem.rename (draftOf path) path : ExceptT Fault (StateM Workspace) Unit)
        (withFiles w middle) = (.ok u, w')) :
    ∃ files, w' = withFiles w files ∧ files.Reaches path (name :: w.files.place dir) ∧
      Tree.Replaces (Path.ancestors dir) w.files (name :: w.files.place dir)
        ((name ++ ".tmp") :: w.files.place dir) (.text text) files := by
  obtain ⟨dir', parent', spelled, drafted⟩ := Tree.place_draftOf w.files named
  cases parent.symm.trans parent'
  obtain ⟨⟨-, freeDraft, free, reached⟩, rfl⟩ := writeAndRename_moves named h
  simp only [Tree.movedTo, Tree.place_congr made.here, drafted, spelled] at freeDraft reached free ⊢
  exact ⟨_, rfl, reached, Tree.replaces_of_moved made (draft_ne name) freeDraft free⟩

/-- A path with a file name is not refused: the directories above its file are made where it has any, then
the draft is written and renamed. -/
theorem replaceFile_of_named {path text name dir : String} (named : Path.fileName? path = some name)
    (parent : Path.parent? path = some dir) (w : Workspace) :
    replaceFile (m := StateM Workspace) path text w =
      (if dir.isEmpty then (do
        FileSystem.write (draftOf path) (.text text)
        FileSystem.rename (draftOf path) path : ExceptT Fault (StateM Workspace) Unit)
      else (do
        makeDirs dir
        FileSystem.write (draftOf path) (.text text)
        FileSystem.rename (draftOf path) path)) w := by
  rw [replaceFile, parent, named]
  dsimp only [Option.isNone_some]
  split <;> rfl

/-- A file that is replaced holds the new text where its path spells, and the path leads to it. -/
theorem replaceFile_eq_ok {path text name : String} {w w' : Workspace} {u : Unit}
    (named : Path.fileName? path = some name)
    (h : replaceFile (m := StateM Workspace) path text w = (.ok u, w')) :
    ∃ dir files, Path.parent? path = some dir ∧ w' = withFiles w files ∧
      files.Reaches path (name :: w.files.place dir) ∧
      Tree.Replaces (Path.ancestors dir) w.files (name :: w.files.place dir)
        ((name ++ ".tmp") :: w.files.place dir) (.text text) files := by
  obtain ⟨dir, parent, -, -⟩ := Tree.place_draftOf w.files named
  rw [replaceFile_of_named named parent] at h
  split at h
  · obtain ⟨files, hfiles, reached, replaces⟩ := writeAndRename_eq_ok named parent (.refl _) h
    exact ⟨dir, files, parent, hfiles, reached, replaces⟩
  · obtain ⟨_, w₁, hdirs, h⟩ := bind_eq_ok h
    obtain ⟨middle, hmiddle, made⟩ := Tree.makeDirs_made dir w
    rw [hdirs] at hmiddle
    dsimp only at hmiddle
    subst hmiddle
    obtain ⟨files, hfiles, reached, replaces⟩ := writeAndRename_eq_ok named parent made h
    exact ⟨dir, files, parent, hfiles, reached, replaces⟩

/-- When the draft of a file cannot be written or not be renamed, nothing but the draft has changed. -/
theorem writeAndRename_eq_error {path text dir : String} {w w' : Workspace} {fault : Fault} {middle : Tree}
    (made : Tree.DirsMade (Path.ancestors dir) w.files middle)
    (h : (do
      FileSystem.write (draftOf path) (.text text)
      FileSystem.rename (draftOf path) path : ExceptT Fault (StateM Workspace) Unit)
        (withFiles w middle) = (.error fault, w')) :
    ∃ files, w' = withFiles w files ∧
      Tree.Spares (Path.ancestors dir) w.files (w.files.place (draftOf path)) files := by
  rcases bind_eq_error h with hwrite | ⟨_, w₁, hwrite, hrename⟩
  · cases change_eq_error hwrite
    exact ⟨middle, rfl, made.spares _⟩
  · obtain ⟨drafted, hdrafted, rfl⟩ := change_eq_ok hwrite
    cases change_eq_error hrename
    obtain ⟨reached, freeDraft, rfl⟩ := Tree.write_eq hdrafted
    obtain ⟨-, -, name, spelled, -⟩ := reached.spelled
    rw [Tree.place_congr made.here] at spelled freeDraft ⊢
    rw [spelled] at freeDraft ⊢
    exact ⟨_, rfl, Tree.spares_of_drafted made freeDraft⟩

/-- A file that cannot be replaced is left alone, as everything but its draft and directories that are made
for it. -/
theorem replaceFile_eq_error {path text name : String} {w w' : Workspace} {fault : Fault}
    (named : Path.fileName? path = some name)
    (h : replaceFile (m := StateM Workspace) path text w = (.error fault, w')) :
    ∃ dir files, Path.parent? path = some dir ∧ w' = withFiles w files ∧
      Tree.Spares (Path.ancestors dir) w.files (w.files.place (draftOf path)) files := by
  obtain ⟨dir, parent, -, -⟩ := Tree.place_draftOf w.files named
  rw [replaceFile_of_named named parent] at h
  split at h
  · obtain ⟨files, hfiles, spares⟩ := writeAndRename_eq_error (.refl _) h
    exact ⟨dir, files, parent, hfiles, spares⟩
  · obtain ⟨middle, hmiddle, made⟩ := Tree.makeDirs_made dir w
    rcases bind_eq_error h with hdirs | ⟨_, w₁, hdirs, h⟩
    · rw [hdirs] at hmiddle
      exact ⟨dir, middle, parent, hmiddle, made.spares _⟩
    · rw [hdirs] at hmiddle
      dsimp only at hmiddle
      subst hmiddle
      obtain ⟨files, hfiles, spares⟩ := writeAndRename_eq_error made h
      exact ⟨dir, files, parent, hfiles, spares⟩

end Fixtures.Files
