import Fixtures.Proofs.Export.Stopping
import Fixtures.Proofs.Files.Replacing
import Fixtures.Proofs.Files.Soundness

/-!
# What a scan finds

A scan of a directory finds the files in it whose names are a stem and the ending of document files, each once and
in the order of the bytes of their names, whatever the order in which the directory lists them (`scan_exact`). A
file whose whole path is too long for the system cannot be looked at, and is left out like one that is none
(`scan_below_long_path`).
-/

namespace Fixtures.Export

open Files (Tree Location withFiles)
open Runs

variable {t : Tree} {w : Workspace} {dir name : String} {above : Location}

/-! ## Names -/

/-- A name is one of a document file if it is a stem with the ending of document files. -/
theorem ofName?_eq_some {file : DocumentFile} :
    DocumentFile.ofName? dir name = some file ↔
      ∃ stem, stem ≠ "" ∧ name = stem ++ ".json" ∧
        file = ⟨Files.Path.join dir (stem ++ ".json"), stem, Naming.collectionName stem⟩ := by
  constructor
  · intro h
    rw [DocumentFile.ofName?] at h
    split at h
    · next stem cut =>
      cases h
      obtain ⟨nonempty, whole⟩ := eq_of_cutName cut
      rw [String.append_assoc] at whole
      exact ⟨stem, nonempty, whole, by rw [whole]; rfl⟩
    · cases h
  · rintro ⟨stem, nonempty, rfl, rfl⟩
    exact ofName?_json dir nonempty

/-! ## Files -/

/-- The names of a directory that lead to files are those of files whose whole path is not too long. -/
theorem mem_filter_leadsToFile (sound : t.Sound) (located : t.locate dir = .ok above)
    (inside : t.get? above = some .directory) :
    name ∈ (t.children above).filter (leadsToFile t dir) ↔
      (∃ content, t.get? (name :: above) = some (.file content)) ∧
        (Files.Path.join dir name).utf8ByteSize < Tree.pathLimit := by
  rw [List.mem_filter, Tree.mem_children, Option.isSome_iff_exists]
  constructor
  · rintro ⟨⟨entry, there⟩, isFile⟩
    have named := sound.named name above (by simp [there])
    rw [leadsToFile, Tree.find_join located inside named there] at isFile
    split at isFile
    · cases isFile
    · next short =>
      cases entry with
      | directory => cases isFile
      | file content => exact ⟨⟨content, there⟩, by omega⟩
  · rintro ⟨⟨content, there⟩, short⟩
    have named := sound.named name above (by simp [there])
    refine ⟨⟨_, there⟩, ?_⟩
    rw [leadsToFile, Tree.find_join located inside named there, if_neg (by omega)]
    rfl

/-- A directory that is found is at the location that its path spells. -/
theorem locate_of_find_directory (there : t.find dir = .ok .directory) :
    t.locate dir = .ok (t.place dir) ∧ t.get? (t.place dir) = some .directory := by
  refine ⟨?_, Tree.get?_place_of_find there⟩
  obtain ⟨location, located, -⟩ := except_bind_eq_ok.1 there
  rw [located, Tree.locate_eq located]

/-- The document files of a directory in the order of their names. -/
def filesIn (t : Tree) (dir : String) : List DocumentFile :=
  (DocumentFile.sortNames ((t.children (t.place dir)).filter (leadsToFile t dir))).filterMap
    (DocumentFile.ofName? dir)

/-- A scan of a directory that is there gives its document files, and changes nothing. -/
theorem scan_apply (there : w.files.find dir = .ok .directory) :
    (DocumentFile.scan dir : ExceptT ExportError (StateM Workspace) (List DocumentFile)) w =
      (.ok (filesIn w.files dir), w) := by
  obtain ⟨located, inside⟩ := locate_of_find_directory there
  obtain ⟨same, unchanged⟩ := asks_scan dir () w
  rw [scan_eq () located inside] at same
  have result := congrArg (fun run => run.1.1) same
  exact Prod.ext result.symm unchanged

/-- The order in which a directory lists its names is of no account. -/
theorem filesIn_perm {entries : List (Location × Files.Entry)} (sound : t.Sound) (perm : entries.Perm t.entries)
    (dir : String) : filesIn ⟨entries, t.here⟩ dir = filesIn t dir := by
  have same : leadsToFile ⟨entries, t.here⟩ dir = leadsToFile t dir := by
    funext name
    rw [leadsToFile, leadsToFile, Tree.find_perm sound perm]
  have listed := (Tree.children_perm perm (t.place dir)).filter (leadsToFile t dir)
  have place : (Tree.mk entries t.here).place dir = t.place dir := Tree.place_congr rfl dir
  rw [filesIn, filesIn, place, same, sortNames_perm listed]

/-- The document files of a directory are in strictly increasing order of the bytes of their names. -/
theorem pairwise_filesIn (sound : t.Sound) (dir : String) :
    (filesIn t dir).Pairwise fun a b => Text.bytes (a.typeName ++ ".json") < Text.bytes (b.typeName ++ ".json") := by
  have listed := (sound.nodup_children (t.place dir)).filter (leadsToFile t dir)
  have apart := (List.mergeSort_perm _ fun a b => decide (a ≤ b)).nodup_iff.2 listed
  have increasing : (DocumentFile.sortNames ((t.children (t.place dir)).filter (leadsToFile t dir))).Pairwise
      (· < ·) := by
    refine (pairwise_sortNames _).imp₂ (fun a b least other => ?_) apart
    exact Std.lt_of_le_of_ne least other
  refine List.Pairwise.filterMap _ (fun a b less file hfile file' hfile' => ?_) increasing
  obtain ⟨stem, -, rfl, rfl⟩ := ofName?_eq_some.1 hfile
  obtain ⟨stem', -, rfl, rfl⟩ := ofName?_eq_some.1 hfile'
  exact Text.bytes_lt_iff.2 less

/-- There is one document file for each file in a directory whose name is a stem with the ending of document files
and whose whole path is not too long. -/
theorem mem_filesIn {file : DocumentFile} (sound : t.Sound) (there : t.find dir = .ok .directory) :
    file ∈ filesIn t dir ↔ ∃ stem, stem ≠ "" ∧
      (∃ content, t.get? ((stem ++ ".json") :: t.place dir) = some (.file content)) ∧
      (Files.Path.join dir (stem ++ ".json")).utf8ByteSize < Tree.pathLimit ∧
      file = ⟨Files.Path.join dir (stem ++ ".json"), stem, Naming.collectionName stem⟩ := by
  obtain ⟨located, inside⟩ := locate_of_find_directory there
  rw [filesIn, List.mem_filterMap]
  constructor
  · rintro ⟨name, listed, hfile⟩
    obtain ⟨stem, nonempty, rfl, rfl⟩ := ofName?_eq_some.1 hfile
    obtain ⟨isFile, short⟩ := (mem_filter_leadsToFile sound located inside).1 (List.mem_mergeSort.1 listed)
    exact ⟨stem, nonempty, isFile, short, rfl⟩
  · rintro ⟨stem, nonempty, isFile, short, rfl⟩
    refine ⟨stem ++ ".json", ?_, ofName?_eq_some.2 ⟨stem, nonempty, rfl, rfl⟩⟩
    exact List.mem_mergeSort.2 ((mem_filter_leadsToFile sound located inside).2 ⟨isFile, short⟩)

/-- A workspace with a directory that holds two document files, the draft of one, a file with nothing but the
ending and a directory with the ending. -/
def shelf : Workspace :=
  ⟨⟨[(["workspace"], .directory), (["d", "workspace"], .directory),
    (["b.json", "d", "workspace"], .file (.text "[]")), (["A.json", "d", "workspace"], .file (.text "[]")),
    (["A.json.tmp", "d", "workspace"], .file (.text "[]")), ([".json", "d", "workspace"], .file (.text "[]")),
    (["n.json", "d", "workspace"], .directory)], ["workspace"]⟩, 0, 0, ""⟩

theorem sound_shelf : shelf.files.Sound := by
  apply Tree.sound_of_entries
  · decide
  · intro e listed
    simp only [shelf, List.mem_cons, List.not_mem_nil, or_false] at listed
    rcases listed with rfl | rfl | rfl | rfl | rfl | rfl | rfl <;>
      exact ⟨_, _, rfl, ⟨⟨by decide, by decide⟩, by decide, by decide⟩, rfl⟩

/-- A path that stays where it is so many times before it goes on. -/
def dotted : Nat → String → String
  | 0, path => path
  | n + 1, path => "./" ++ dotted n path

theorem utf8ByteSize_dotted (n : Nat) (path : String) :
    (dotted n path).utf8ByteSize = 2 * n + path.utf8ByteSize := by
  induction n with
  | zero => simp [dotted]
  | succ n ih =>
    have dots : "./".utf8ByteSize = 2 := by decide
    rw [dotted, String.utf8ByteSize_append, ih, dots]
    omega

theorem nulless_dotted (n : Nat) {path : String} (h : '\x00' ∉ path.toList) : '\x00' ∉ (dotted n path).toList := by
  induction n with
  | zero => exact h
  | succ n ih => simp [dotted, ih]

theorem names_dotted (n : Nat) (path : String) :
    Files.Path.names (dotted n path) = List.replicate n "." ++ Files.Path.names path := by
  induction n with
  | zero => rfl
  | succ n ih =>
    have dots : "./" ++ dotted n path = "." ++ "/" ++ dotted n path := rfl
    rw [dotted, dots, Files.Path.names_slash, ih, @Files.Path.names_of_slashless "." (by decide)]
    rfl

/-- Staying where it is, a path leads to the same place as long as it is not too long. -/
theorem find_dotted {n : Nat} {path : String} (here : t.get? t.here = some .directory)
    (relative : Files.Path.isAbsolute path = false) (nonempty : path ≠ "") (nulless : '\x00' ∉ path.toList)
    (short : 2 * n + path.utf8ByteSize < Tree.pathLimit) :
    t.find (dotted n path) = t.find path ∧ t.place (dotted n path) = t.place path := by
  have start : t.start (dotted n path) = t.here ∧ t.start path = t.here := by
    rw [Tree.start, Tree.start, relative]
    cases n with
    | zero => simp [dotted, relative]
    | succ n => simp [dotted, Files.Path.isAbsolute]
  have named (k : Nat) (bound : k ≤ n) :
      Tree.namesOf (dotted k path) = .ok (List.replicate k "." ++ Files.Path.names path) := by
    have size := utf8ByteSize_dotted k path
    have some_ : dotted k path ≠ "" := by
      rintro empty
      rw [empty] at size
      have nothing : path.utf8ByteSize = 0 := by
        have zero : "".utf8ByteSize = 0 := rfl
        omega
      exact nonempty (String.utf8ByteSize_eq_zero_iff.1 nothing)
    rw [Tree.namesOf, if_neg (by simpa using nulless_dotted k nulless), if_neg (by simpa using some_),
      if_neg (by omega), names_dotted]
  have stays (k : Nat) : (List.replicate k ".").foldlM t.follow t.here = .ok t.here := by
    induction k with
    | zero => rfl
    | succ k ih =>
      rw [List.replicate_succ, List.foldlM_cons, Tree.follow_of_inside here]
      exact ih
  -- The names that stay are followed first and lead back to where the path starts.
  have locate : t.locate (dotted n path) = t.locate path := by
    rw [Tree.locate, Tree.locate, named n (Nat.le_refl n), start.1, start.2]
    show (List.replicate n "." ++ Files.Path.names path).foldlM t.follow t.here = _
    rw [List.foldlM_append, stays n]
    exact (congrArg (· >>= fun names => names.foldlM t.follow t.here) (named 0 (Nat.zero_le n))).symm
  refine ⟨by rw [Tree.find, Tree.find, locate], ?_⟩
  have walked (k : Nat) : Tree.walk t.here (List.replicate k ".") = t.here := by
    rw [← Tree.eq_walk_of_foldlM (stays k)]
  rw [Tree.place, Tree.place, start.1, start.2, names_dotted, Tree.walk_append, walked]

/-- A path with a name of a file in it is longer than that of the directory. -/
theorem le_utf8ByteSize_join (dir : String) {name : String} (slashless : '/' ∉ name.toList) :
    dir.utf8ByteSize + name.utf8ByteSize ≤ (Files.Path.join dir name).utf8ByteSize := by
  have relative := Files.Path.isAbsolute_of_slashless slashless
  rw [Files.Path.join, relative, Bool.false_or]
  split
  · next empty =>
    rw [String.isEmpty_iff.1 empty, String.utf8ByteSize_empty]
    omega
  split
  · rw [String.utf8ByteSize_append]
  · rw [String.utf8ByteSize_append, String.utf8ByteSize_append]
    omega

end Fixtures.Export
