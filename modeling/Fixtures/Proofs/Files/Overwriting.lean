import Fixtures.Proofs.Files.Replacing

/-!
# Replacing a file once more

A path is ready (`Tree.Ready`) when its directory is there and the names of its file and its draft can be
followed. Replacing a file leaves its path ready (`ready_of_replaceFile`), and it stays ready as long as no
directory is lost (`Tree.Keeps.ready`). A file whose path is ready can be replaced without making directories:
its draft is moved into place and that is all (`replaceFile_of_ready`).

Moves into place that were made once may be made again: `Tree.moveAll_moveAll`.
-/

namespace Fixtures.Files

open Runs

namespace Tree

/-! ## Paths that can be followed -/

/-- A file can be made or changed where a path reaches, unless a directory is there. -/
theorem fileTarget_of_reaches {t : Tree} {path : String} {location : Location} (h : t.Reaches path location)
    (free : t.get? location ≠ some .directory) : t.fileTarget path = .ok location := by
  obtain @⟨above, name, dir, names, leads, inside, plain, short⟩ := h
  have target : t.target path = .ok ⟨dir, some name, false⟩ := by
    have last : (above ++ [name]).reverse.dropWhile (· = "") = name :: above.reverse := by
      rw [List.reverse_append, List.reverse_singleton, List.singleton_append,
        List.dropWhile_cons_of_neg (by simpa using plain.ne.1)]
    have entered : t.enter dir = .ok () := enter_eq_ok.2 inside
    rw [Tree.target]
    refine except_bind_eq_ok.2 ⟨_, names, ?_⟩
    dsimp only
    rw [last, List.tail_cons, List.reverse_reverse]
    refine except_bind_eq_ok.2 ⟨dir, leads, except_bind_eq_ok.2 ⟨(), entered, ?_⟩⟩
    have fits : ¬ nameLimit < name.utf8ByteSize := by omega
    simp [Option.filter, plain.named, fits, plain.ne.1]
  rw [fileTarget]
  refine except_bind_eq_ok.2 ⟨_, target, ?_⟩
  dsimp only
  split
  · next there => exact absurd there free
  · rfl

theorem write_of_reaches {t : Tree} {path : String} {location : Location} (h : t.Reaches path location)
    (free : t.get? location ≠ some .directory) (content : Content) :
    t.write path content = .ok (t.set location (.file content)) := by
  rw [write, fileTarget_of_reaches h free]
  rfl

theorem rename_of_reaches {t : Tree} {source destination : String} {location goal : Location}
    {content : Content} (h : t.Reaches source location) (there : t.get? location = some (.file content))
    (h' : t.Reaches destination goal) (free : t.get? goal ≠ some .directory) :
    t.rename source destination = .ok ((t.erase location).set goal (.file content)) := by
  rw [rename]
  refine except_bind_eq_ok.2 ⟨location, h.locate (by simp [there]), ?_⟩
  rw [there, fileTarget_of_reaches h' free]
  rfl

/-- A path that leads to a directory still does. -/
theorem Keeps.find {t t' : Tree} (h : t.Keeps t') {path : String} (found : t.find path = .ok .directory) :
    t'.find path = .ok .directory := by
  have inside := get?_place_of_find found
  rw [Tree.find] at found
  obtain ⟨location, located, -⟩ := except_bind_eq_ok.1 found
  rw [← locate_eq located] at inside
  rw [Tree.locate] at located
  obtain ⟨names, hnames, leads⟩ := except_bind_eq_ok.1 located
  have same : t'.start path = t.start path := by rw [start, start, h.here]
  rw [Tree.find, Tree.locate, same]
  refine except_bind_eq_ok.2 ⟨location, except_bind_eq_ok.2 ⟨names, hnames, h.foldlM leads inside⟩, ?_⟩
  rw [h.directory _ inside]

/-- The path of a directory that was made leads to it. -/
theorem find_of_makeDir {t t' : Tree} {path : String} (h : t.makeDir path = .ok t') :
    t'.find path = .ok .directory := by
  rw [makeDir] at h
  obtain ⟨target, htarget, h⟩ := except_bind_eq_ok.1 h
  obtain ⟨inside, named⟩ := target_eq htarget
  split at h
  · cases h
  next name hname =>
  obtain ⟨plain, short, above, slashes, names, empty, -, leads⟩ := named name hname
  dsimp only at h
  split at h
  · cases h
  next free =>
  cases h
  have notThere : t.get? (name :: target.dir) ≠ some .directory := by
    intro there
    simp [there] at free
  have keeps := keeps_set notThere .directory
  have made : (t.set (name :: target.dir) .directory).get? (name :: target.dir) = some .directory := by
    rw [get?_set, if_pos rfl]
  have last := (@follow_eq_ok (t.set (name :: target.dir) .directory) target.dir _ name).2
    ⟨keeps.directory _ inside, rfl, fun _ => ⟨short, by simp [made]⟩⟩
  rw [stepTo_plain plain.named] at last
  -- The slashes behind the name stay in the directory.
  have stays : slashes.foldlM (t.set (name :: target.dir) .directory).follow (name :: target.dir) =
      .ok (name :: target.dir) := by
    clear names
    induction slashes with
    | nil => rfl
    | cons slash slashes ih =>
      have blank := empty slash List.mem_cons_self
      have step := (@follow_eq_ok (t.set (name :: target.dir) .directory) (name :: target.dir) _ slash).2
        ⟨made, rfl, fun named => by simp [isDots, blank] at named⟩
      rw [stepTo, if_pos (by simp [blank])] at step
      rw [List.foldlM_cons]
      exact except_bind_eq_ok.2 ⟨_, step, ih fun s hs => empty s (List.mem_cons_of_mem _ hs)⟩
  have located : (t.set (name :: target.dir) .directory).locate path = .ok (name :: target.dir) := by
    rw [Tree.locate]
    refine except_bind_eq_ok.2 ⟨_, names, ?_⟩
    rw [List.foldlM_append]
    refine except_bind_eq_ok.2 ⟨_, keeps.foldlM leads inside, ?_⟩
    rw [List.foldlM_cons]
    exact except_bind_eq_ok.2 ⟨_, last, stays⟩
  rw [Tree.find]
  refine except_bind_eq_ok.2 ⟨_, located, ?_⟩
  rw [made]

/-! ## Ready paths -/

/-- The directory of a path is there, or the path has none. -/
def HasDir (t : Tree) (path : String) : Prop :=
  ∀ dir, Path.parent? path = some dir → dir = "" ∨ t.find dir = .ok .directory

/-- A path whose file can be replaced without making directories. -/
structure Ready (t : Tree) (path : String) : Prop where
  dir : t.HasDir path
  draft : t.Reaches (draftOf path) (t.place (draftOf path))
  file : t.Reaches path (t.place path)

theorem Keeps.hasDir {t t' : Tree} (h : t.Keeps t') {path : String} (there : t.HasDir path) : t'.HasDir path :=
  fun dir parent => (there dir parent).imp id h.find

theorem Keeps.ready {t t' : Tree} (h : t.Keeps t') {path : String} (ready : t.Ready path) : t'.Ready path := by
  refine ⟨h.hasDir ready.dir, ?_, ?_⟩
  · rw [place_congr h.here]
    exact h.reaches ready.draft
  · rw [place_congr h.here]
    exact h.reaches ready.file

/-! ## Moves into place -/

/-- A content that is moved into place at a location, from a draft. -/
structure Move where
  location : Location
  draft : Location
  content : Content

/-- The tree after some moves into place, one after another. -/
def moveAll (t : Tree) (moves : List Move) : Tree :=
  moves.foldl (fun u m => u.moved m.location m.draft m.content) t

/-- A location that some moves have nothing to do with. -/
abbrev IsSpared (moves : List Move) (location : Location) : Prop :=
  ∀ m ∈ moves, location ≠ m.location ∧ location ≠ m.draft

/-- The files that some moves leave: a later move may take the place of an earlier one. -/
def lasting : List Move → List (Location × Entry)
  | [] => []
  | m :: later => [(m.location, Entry.file m.content)].filter (IsSpared later ·.1) ++ lasting later

theorem here_moveAll (t : Tree) (moves : List Move) : (t.moveAll moves).here = t.here := by
  induction moves generalizing t with
  | nil => rfl
  | cons m moves ih => exact ih (t.moved m.location m.draft m.content)

theorem entries_moved (t : Tree) (location draft : Location) (content : Content) :
    (t.moved location draft content).entries =
      (t.entries.filter fun e => e.1 ≠ location ∧ e.1 ≠ draft) ++ [(location, .file content)] := by
  simp only [moved, set, erase, List.filter_append, List.filter_filter]
  simp

/-- Moves leave what they have nothing to do with, and their own files behind it. -/
theorem entries_moveAll (t : Tree) (moves : List Move) :
    (t.moveAll moves).entries = t.entries.filter (IsSpared moves ·.1) ++ lasting moves := by
  induction moves generalizing t with
  | nil => simp [moveAll, lasting, IsSpared]
  | cons m later ih =>
    have rest : (t.moveAll (m :: later)) = (t.moved m.location m.draft m.content).moveAll later := rfl
    rw [rest, ih, entries_moved, List.filter_append, List.filter_filter, lasting, List.append_assoc]
    congr 1
    refine List.filter_congr fun e _ => ?_
    rw [← Bool.decide_and, decide_eq_decide, IsSpared, IsSpared, List.forall_mem_cons]
    exact and_comm

theorem exists_of_mem_lasting {moves : List Move} {e : Location × Entry} (h : e ∈ lasting moves) :
    ∃ m ∈ moves, e.1 = m.location := by
  induction moves with
  | nil => exact absurd h List.not_mem_nil
  | cons m later ih =>
    rcases List.mem_append.1 h with first | later_
    · rw [List.mem_singleton.1 (List.mem_of_mem_filter first)]
      exact ⟨m, List.mem_cons_self, rfl⟩
    · obtain ⟨m', hm, same⟩ := ih later_
      exact ⟨m', List.mem_cons_of_mem _ hm, same⟩

/-- Moves that were made change nothing when they are made again. -/
theorem moveAll_moveAll (t : Tree) (moves : List Move) : (t.moveAll moves).moveAll moves = t.moveAll moves := by
  have gone : (lasting moves).filter (IsSpared moves ·.1) = [] := by
    refine List.filter_eq_nil_iff.2 fun e he => ?_
    obtain ⟨m, hm, same⟩ := exists_of_mem_lasting he
    simp only [decide_eq_true_eq]
    exact fun spared => (spared m hm).1 same
  have entries : ((t.moveAll moves).moveAll moves).entries = (t.moveAll moves).entries := by
    rw [entries_moveAll, entries_moveAll t, List.filter_append, List.filter_filter, gone, List.append_nil]
    simp only [Bool.and_self]
  have here := here_moveAll (t.moveAll moves) moves
  cases hm : t.moveAll moves with
  | mk e h =>
    rw [hm] at entries here
    cases hmm : (Tree.mk e h).moveAll moves with
    | mk e' h' =>
      rw [hmm] at entries here
      rw [show e' = e from entries, show h' = h from here]

end Tree

/-! ## Directories that are there -/

/-- A directory is made where it is missing, and then it is there. -/
theorem makeDirIfMissing_eq_ok {path : String} {w w' : Workspace} {u : Unit}
    (h : makeDirIfMissing (m := StateM Workspace) path w = (.ok u, w')) :
    w'.files.find path = .ok .directory := by
  rw [makeDirIfMissing_apply] at h
  cases hmade : w.files.makeDir path with
  | ok files =>
    rw [hmade] at h
    cases h
    exact Tree.find_of_makeDir hmade
  | error fault =>
    rw [hmade] at h
    dsimp only at h
    split at h
    · next inside =>
      cases h
      obtain ⟨entry, found, directory⟩ := Option.map_eq_some_iff.1 inside
      rw [except_eq_ok_of_toOption found]
      cases entry with
      | directory => rfl
      | file => cases directory
    · cases h

theorem makeDirIfMissing_of_find {path : String} {w : Workspace} (h : w.files.find path = .ok .directory) :
    makeDirIfMissing (m := StateM Workspace) path w = (.ok (), w) := by
  rw [makeDirIfMissing_apply, h]
  cases hmade : w.files.makeDir path with
  | ok files =>
    -- A directory is made only where nothing is.
    obtain ⟨name, dir, spelled, -, free, -⟩ := Tree.makeDir_eq hmade
    have there := Tree.get?_place_of_find h
    rw [spelled, free] at there
    cases there
  | error fault => rfl

/-- A directory that is there need not be made. -/
theorem makeDirs_of_find {path : String} {w : Workspace} (h : w.files.find path = .ok .directory) :
    makeDirs (m := StateM Workspace) path w = (.ok (), w) := by
  rw [makeDirs, Path.ancestors]
  split
  · rfl
  · rw [makeDirsWithin, tryCatch_apply, makeDirIfMissing_of_find h]

/-- A directory that was made with those above it is there. -/
theorem find_of_makeDirs {path : String} {w w' : Workspace} {u : Unit} (some_ : path ≠ "")
    (h : makeDirs (m := StateM Workspace) path w = (.ok u, w')) : w'.files.find path = .ok .directory := by
  rw [makeDirs, Path.ancestors, if_neg (by simpa using some_), makeDirsWithin, tryCatch_apply] at h
  rcases hfirst : makeDirIfMissing (m := StateM Workspace) path w with ⟨fault | u', w₁⟩
  · rw [hfirst] at h
    dsimp only at h
    split at h
    · obtain ⟨_, _, -, hlast⟩ := bind_eq_ok h
      exact makeDirIfMissing_eq_ok hlast
    · cases h
  · rw [hfirst] at h
    cases h
    exact makeDirIfMissing_eq_ok hfirst

/-! ## Replacing a file -/

section Replacing

variable {path text name : String} {w w' : Workspace} {u : Unit}

/-- Once the directory of a path is there, a file is replaced by writing its draft and renaming it. -/
theorem replaceFile_of_hasDir (named : Path.fileName? path = some name) (there : w.files.HasDir path) :
    replaceFile (m := StateM Workspace) path text w = (do
      FileSystem.write (draftOf path) (.text text)
      FileSystem.rename (draftOf path) path : ExceptT Fault (StateM Workspace) Unit) w := by
  obtain ⟨dir, parent, -⟩ := Tree.place_draftOf w.files named
  rw [replaceFile_of_named named parent]
  rcases there dir parent with rfl | found
  · rfl
  · split
    · rfl
    · rw [bind_apply, makeDirs_of_find found]

/-- What moving into place makes of a tree. -/
theorem Tree.get?_movedTo (t : Tree) (named : Path.fileName? path = some name) (text : String)
    (location : Location) : (t.movedTo path text).get? location =
      if location = t.place path then some (.file (.text text))
      else if location = t.place (draftOf path) then none else t.get? location := by
  obtain ⟨dir, -, spelled, drafted⟩ := Tree.place_draftOf t named
  rw [movedTo, spelled, drafted]
  exact t.get?_moved _ _ _ _ _

theorem Tree.keeps_movedTo {t : Tree} (named : Path.fileName? path = some name)
    (freeDraft : t.get? (t.place (draftOf path)) ≠ some .directory)
    (free : t.get? (t.place path) ≠ some .directory) (text : String) : t.Keeps (t.movedTo path text) := by
  obtain ⟨dir, -, spelled, drafted⟩ := Tree.place_draftOf t named
  rw [movedTo, spelled, drafted]
  rw [drafted] at freeDraft
  rw [spelled] at free
  exact Tree.keeps_moved freeDraft free _

/-- Where a path is ready, the draft of its file is moved into place, and nothing else happens. -/
theorem replaceFile_of_ready (named : Path.fileName? path = some name) (ready : w.files.Ready path)
    (freeDraft : w.files.get? (w.files.place (draftOf path)) ≠ some .directory)
    (free : w.files.get? (w.files.place path) ≠ some .directory) (text : String) :
    replaceFile (m := StateM Workspace) path text w = (.ok (), withFiles w (w.files.movedTo path text)) := by
  obtain ⟨dir, -, -, drafted⟩ := Tree.place_draftOf w.files named
  have wrote := Tree.write_of_reaches ready.draft freeDraft (.text text)
  have write : (FileSystem.write (draftOf path) (.text text) : ExceptT Fault (StateM Workspace) Unit) w =
      (.ok (), withFiles w (w.files.set (w.files.place (draftOf path)) (.file (.text text)))) := by
    show Workspace.change (·.write _ _) w = _
    rw [change_apply, wrote]
  have after (location : Location) :
      (w.files.set (w.files.place (draftOf path)) (.file (.text text))).get? location =
        if location = w.files.place (draftOf path) then some (.file (.text text))
        else w.files.get? location := by
    rw [drafted]
    exact Tree.get?_set _ _ _ _ _
  have keeps : w.files.Keeps (w.files.set (w.files.place (draftOf path)) (.file (.text text))) := by
    rw [drafted] at freeDraft ⊢
    exact Tree.keeps_set freeDraft _
  have renamed := Tree.rename_of_reaches (keeps.reaches ready.draft) ((after _).trans (if_pos rfl))
    (keeps.reaches ready.file) (by rw [after]; split <;> simp [free])
  rw [replaceFile_of_hasDir named ready.dir, bind_apply, write]
  show Workspace.change (·.rename _ _) _ = _
  rw [change_apply, renamed]
  rfl

/-- A path to which a draft was moved is ready. -/
theorem Tree.Moves.ready {t : Tree} (h : t.Moves path text) (named : Path.fileName? path = some name)
    (there : t.HasDir path) : (t.movedTo path text).Ready path := by
  have keeps := Tree.keeps_movedTo named h.freeDraft h.free text
  have same (other : String) : (t.movedTo path text).place other = t.place other :=
    Tree.place_congr keeps.here other
  refine ⟨keeps.hasDir there, ?_, ?_⟩
  · rw [same]
    exact keeps.reaches h.drafted
  · rw [same]
    exact h.reached

/-- What a file that is replaced leaves: its draft was moved into place once the directory was there, and its
path is ready. -/
theorem replaceFile_moves (named : Path.fileName? path = some name)
    (h : replaceFile (m := StateM Workspace) path text w = (.ok u, w')) :
    ∃ middle : Tree, middle.here = w.files.here ∧ (w.files.HasDir path → middle = w.files) ∧
      w' = withFiles w (middle.movedTo path text) ∧ w'.files.Ready path := by
  by_cases there : w.files.HasDir path
  · rw [replaceFile_of_hasDir named there] at h
    obtain ⟨moves, rfl⟩ := writeAndRename_moves named h
    exact ⟨w.files, rfl, fun _ => rfl, rfl, moves.ready named there⟩
  · obtain ⟨dir, parent, -, -⟩ := Tree.place_draftOf w.files named
    have some_ : dir ≠ "" := by
      rintro rfl
      exact there fun other hother => .inl (Option.some.inj (hother.symm.trans parent))
    rw [replaceFile_of_named named parent, if_neg (by simpa using some_)] at h
    obtain ⟨_, w₁, hdirs, h⟩ := bind_eq_ok h
    have found := find_of_makeDirs some_ hdirs
    obtain ⟨middle, hmiddle, made⟩ := Tree.makeDirs_made dir w
    rw [hdirs] at hmiddle
    dsimp only at hmiddle
    subst hmiddle
    obtain ⟨moves, rfl⟩ := writeAndRename_moves named h
    have inside : middle.HasDir path := by
      intro other hother
      cases parent.symm.trans hother
      exact .inr found
    exact ⟨middle, made.here, fun had => absurd had there, rfl, moves.ready named inside⟩

end Replacing

end Fixtures.Files
