import Fixtures.Proofs.Files.Changes

/-!
# Trees as file systems keep them

In a sound tree there is one entry at a location, its name is one that a file can have, and it lies in a
directory. Every operation keeps this (`Sound.makeDir`, `Sound.write`, `Sound.append`, `Sound.rename`), so a tree
that comes of the empty one is sound. In a sound tree the order of the entries is of no account: `find_perm`.

A name in a directory then leads to what is there, as long as its whole path is not too long: `locate_join`.
-/

namespace Fixtures.Files

open Runs (except_bind_eq_ok)

namespace Path

/-- A name that a file can have. -/
structure IsFileName (name : String) : Prop extends IsPlain name where
  nulless : '\x00' ∉ name.toList
  short : name.utf8ByteSize ≤ Tree.nameLimit

/-- The names of a path hold no character that the path does not hold. -/
theorem mem_of_mem_names {path name : String} {c : Char} (h : name ∈ names path) (hc : c ∈ name.toList) :
    c ∈ path.toList := by
  obtain ⟨piece, hpiece, rfl⟩ := List.mem_map.1 h
  rw [String.toList_ofList] at hc
  exact Text.mem_of_mem_pieces hpiece hc

end Path

namespace Tree

/-- What can be a path holds no NUL. -/
theorem nulless_of_namesOf {path : String} {names : List String} (h : namesOf path = .ok names) :
    '\x00' ∉ path.toList := by
  unfold namesOf at h
  split at h
  · cases h
  · next nulless => simpa using nulless

/-- One entry at a location, with a name that a file can have, in a directory. -/
structure Sound (t : Tree) : Prop where
  distinct : (t.entries.map (·.1)).Nodup
  named : ∀ name dir, (t.get? (name :: dir)).isSome → Path.IsFileName name
  inside : ∀ name dir, (t.get? (name :: dir)).isSome → t.get? dir = some .directory

/-! ## Sound trees stay sound -/

variable {t t' : Tree} {name path : String} {dir location : Location}

theorem sound_empty (h : Path.IsFileName name) : (empty name).Sound := by
  have only (n : String) (d : Location) (there : ((empty name).get? (n :: d)).isSome) : n :: d = [name] := by
    rw [get?_cons, empty, List.lookup_cons] at there
    split at there
    · next same => exact beq_iff_eq.1 same
    · cases there
  refine ⟨by simp [empty], fun n d there => ?_, fun n d there => ?_⟩
  · cases only n d there
    exact h
  · cases only n d there
    rfl

/-- A tree is sound if each entry has a location of its own, in a directory. -/
theorem sound_of_entries (distinct : (t.entries.map (·.1)).Nodup)
    (each : ∀ e ∈ t.entries, ∃ name dir, e.1 = name :: dir ∧ Path.IsFileName name ∧ t.get? dir = some .directory) :
    t.Sound := by
  have entry {n : String} {d : Location} (there : (t.get? (n :: d)).isSome) :
      Path.IsFileName n ∧ t.get? d = some .directory := by
    rw [get?_cons, List.lookup_isSome_iff] at there
    obtain ⟨e, listed, same⟩ := there
    obtain ⟨name, dir, located, named, inside⟩ := each e listed
    rw [located] at same
    cases beq_iff_eq.1 same
    exact ⟨named, inside⟩
  exact ⟨distinct, fun n d there => (entry there).1, fun n d there => (entry there).2⟩

/-- An entry is set in a directory, and not in the place of one. -/
theorem Sound.set (sound : t.Sound) (named : Path.IsFileName name) (inside : t.get? dir = some .directory)
    (free : t.get? (name :: dir) ≠ some .directory) (entry : Entry) : (t.set (name :: dir) entry).Sound := by
  have keeps := keeps_set free entry
  refine ⟨?_, fun n d there => ?_, fun n d there => ?_⟩
  · rw [Tree.set, erase, List.map_append, List.nodup_append]
    refine ⟨(sound.distinct.sublist (List.filter_sublist.map _)), by simp, fun a ha b hb => ?_⟩
    obtain ⟨e, he, rfl⟩ := List.mem_map.1 ha
    rw [List.map_singleton, List.mem_singleton] at hb
    rw [hb]
    simpa using (List.mem_filter.1 he).2
  · rw [get?_set] at there
    split at there
    · next same =>
      cases same
      exact named
    · exact sound.named n d there
  · rw [get?_set] at there
    apply keeps.directory
    split at there
    · next same =>
      cases same
      exact inside
    · exact sound.inside n d there

/-- What is no directory is taken away. -/
theorem Sound.erase (sound : t.Sound) (free : t.get? (name :: dir) ≠ some .directory) :
    (t.erase (name :: dir)).Sound := by
  have still {n : String} {d : Location} (there : ((t.erase (name :: dir)).get? (n :: d)).isSome) :
      (t.get? (n :: d)).isSome := by
    rw [get?_erase] at there
    split at there
    · cases there
    · exact there
  refine ⟨?_, fun n d there => sound.named n d (still there), fun n d there => ?_⟩
  · exact sound.distinct.sublist (List.filter_sublist.map _)
  · exact (keeps_erase free).directory d (sound.inside n d (still there))

/-- A path puts something in a directory, under a name that a file can have. -/
theorem isFileName_of_target {target : Target} (h : t.target path = .ok target) (named : target.name = some name) :
    Path.IsFileName name ∧ t.get? target.dir = some .directory := by
  obtain ⟨inside, each⟩ := target_eq h
  obtain ⟨plain, short, above, slashes, names, -⟩ := each name named
  refine ⟨⟨plain, fun nul => ?_, short⟩, inside⟩
  have listed : name ∈ Path.names path := by
    rw [← namesOf_eq names]
    simp
  exact nulless_of_namesOf names (Path.mem_of_mem_names listed nul)

theorem isFileName_of_fileTarget (h : t.fileTarget path = .ok location) :
    ∃ name dir, location = name :: dir ∧ Path.IsFileName name ∧ t.get? dir = some .directory ∧
      t.get? (name :: dir) ≠ some .directory := by
  obtain ⟨-, free⟩ := reaches_of_fileTarget h
  rw [fileTarget] at h
  obtain ⟨target, htarget, h⟩ := except_bind_eq_ok.1 h
  split at h
  · cases h
  next name hname =>
  obtain ⟨named, inside⟩ := isFileName_of_target htarget hname
  have same : name :: target.dir = location := by
    dsimp only at h
    split at h
    · cases h
    split at h
    · cases h
    · exact Except.ok.inj h
  subst same
  exact ⟨name, target.dir, rfl, named, inside, free⟩

theorem Sound.makeDir (sound : t.Sound) (h : t.makeDir path = .ok t') : t'.Sound := by
  rw [Tree.makeDir] at h
  obtain ⟨target, htarget, h⟩ := except_bind_eq_ok.1 h
  split at h
  · cases h
  next name hname =>
  obtain ⟨named, inside⟩ := isFileName_of_target htarget hname
  dsimp only at h
  split at h
  · cases h
  next free =>
  cases h
  exact sound.set named inside (by simp_all) _

theorem Sound.write {content : Content} (sound : t.Sound) (h : t.write path content = .ok t') : t'.Sound := by
  rw [Tree.write] at h
  obtain ⟨location, hlocation, h⟩ := except_bind_eq_ok.1 h
  obtain ⟨name, dir, rfl, named, inside, free⟩ := isFileName_of_fileTarget hlocation
  cases h
  exact sound.set named inside free _

theorem Sound.append {more : String} (sound : t.Sound) (h : t.append path more = .ok t') : t'.Sound := by
  rw [Tree.append] at h
  obtain ⟨location, hlocation, h⟩ := except_bind_eq_ok.1 h
  obtain ⟨name, dir, rfl, named, inside, free⟩ := isFileName_of_fileTarget hlocation
  split at h <;> cases h <;> exact sound.set named inside free _

theorem Sound.rename {source destination : String} (sound : t.Sound)
    (h : t.rename source destination = .ok t') : t'.Sound := by
  rw [Tree.rename] at h
  obtain ⟨location, -, h⟩ := except_bind_eq_ok.1 h
  split at h
  · next content there =>
    obtain ⟨goal, hgoal, h⟩ := except_bind_eq_ok.1 h
    obtain ⟨name, dir, rfl, named, inside, free⟩ := isFileName_of_fileTarget hgoal
    cases h
    cases location with
    | nil => cases there
    | cons old above =>
      have isFile : t.get? (old :: above) ≠ some .directory := by simp [there]
      -- Where the file was taken from there is no directory, so that of the new place is still there.
      refine (sound.erase isFile).set named ((keeps_erase isFile).directory dir inside) ?_ _
      rw [get?_erase]
      split
      · simp
      · exact free
  · cases h
  · cases h

/-! ## The order of entries -/

/-- Where there is one entry at a location, what is found at it is what is listed. -/
theorem lookup_eq_some_iff_mem {entries : List (Location × Entry)} (distinct : (entries.map (·.1)).Nodup)
    {entry : Entry} : entries.lookup location = some entry ↔ (location, entry) ∈ entries := by
  constructor
  · intro found
    obtain ⟨before, after, rfl, -⟩ := List.lookup_eq_some_iff.1 found
    simp
  · intro listed
    obtain ⟨before, after, rfl⟩ := List.append_of_mem listed
    refine List.lookup_eq_some_iff.2 ⟨before, after, rfl, fun e he => ?_⟩
    rw [List.map_append, List.nodup_append] at distinct
    have apart := distinct.2.2 e.1 (List.mem_map_of_mem he) location (by simp)
    simpa using apart.symm

variable {entries : List (Location × Entry)}

/-- In a sound tree the order of the entries is of no account. -/
theorem get?_perm (sound : t.Sound) (perm : entries.Perm t.entries) (location : Location) :
    (Tree.mk entries t.here).get? location = t.get? location := by
  have distinct : (entries.map (·.1)).Nodup := (perm.map _).nodup_iff.2 sound.distinct
  cases location with
  | nil => rfl
  | cons name dir =>
    rw [get?_cons, get?_cons]
    apply Option.ext
    intro entry
    rw [lookup_eq_some_iff_mem distinct, lookup_eq_some_iff_mem sound.distinct]
    exact perm.mem_iff

/-- Paths are followed by what is at each location. -/
theorem find_congr (here : t'.here = t.here) (same : ∀ location, t'.get? location = t.get? location)
    (path : String) : t'.find path = t.find path := by
  have follow : t'.follow = t.follow := by
    funext location name
    rw [Tree.follow, Tree.follow, enter, enter, same, same]
  have start : t'.start path = t.start path := by rw [Tree.start, Tree.start, here]
  have locate : t'.locate path = t.locate path := by rw [Tree.locate, Tree.locate, follow, start]
  simp only [find, locate, same]

theorem find_perm (sound : t.Sound) (perm : entries.Perm t.entries) (path : String) :
    (Tree.mk entries t.here).find path = t.find path := by
  apply find_congr
  · rfl
  · exact get?_perm sound perm

theorem children_perm (perm : entries.Perm t.entries) (dir : Location) :
    ((Tree.mk entries t.here).children dir).Perm (t.children dir) := perm.filterMap _

/-- A directory of a sound tree lists no name twice. -/
theorem Sound.nodup_children (sound : t.Sound) (dir : Location) : (t.children dir).Nodup := by
  have each : t.children dir = (t.entries.map (·.1)).filterMap (nameIn dir) := by
    rw [children, List.filterMap_map]
    rfl
  rw [each]
  refine List.Pairwise.filterMap _ (fun a b apart n hn n' hn' same => ?_) sound.distinct
  rw [nameIn_eq_some.1 hn, nameIn_eq_some.1 hn', same] at apart
  exact apart rfl

/-! ## Names in a directory -/

/-- A path of a name in a directory is one that can be followed, unless it is too long. -/
theorem namesOf_join {dir : String} (hdir : dir ≠ "") (nulless : '\x00' ∉ dir.toList)
    (named : Path.IsFileName name) :
    namesOf (Path.join dir name) =
      if pathLimit ≤ (Path.join dir name).utf8ByteSize then .error .nameTooLong
      else .ok (Path.names (Path.join dir name)) := by
  have whole : '\x00' ∉ (Path.join dir name).toList ∧ Path.join dir name ≠ "" := by
    have relative := Path.isAbsolute_of_slashless named.slashless
    have nonempty : dir.isEmpty = false := by simpa using hdir
    rw [Path.join, relative, nonempty, if_neg (by decide)]
    split <;> simp [nulless, named.nulless, hdir]
  rw [namesOf, if_neg (by simpa using whole.1), if_neg (by simpa using whole.2)]

/-- A name in a directory that is there is followed from it, as long as the whole path is not too long. -/
theorem locate_join {dir : String} {above : Location} (located : t.locate dir = .ok above)
    (inside : t.get? above = some .directory) (named : Path.IsFileName name)
    (there : (t.get? (name :: above)).isSome) :
    t.locate (Path.join dir name) =
      if pathLimit ≤ (Path.join dir name).utf8ByteSize then .error .nameTooLong else .ok (name :: above) := by
  obtain ⟨names, hnames, leads⟩ := except_bind_eq_ok.1 located
  have hdir : dir ≠ "" := by
    rintro rfl
    cases hnames
  rw [namesOf_eq hnames] at leads
  rw [locate, namesOf_join hdir (nulless_of_namesOf hnames) named]
  split
  · rfl
  obtain ⟨before, joined, spelled⟩ := Path.names_join hdir named.slashless
  have same : t.start (Path.join dir name) = t.start dir := by
    rw [start, start, Path.isAbsolute_join hdir named.slashless]
  -- A slash at the end of the directory leaves an empty name, which leads nowhere else.
  have leads : before.foldlM t.follow (t.start dir) = .ok above := by
    rcases spelled with hn | hn
    · rwa [hn] at leads
    · rw [hn, List.foldlM_append] at leads
      obtain ⟨middle, hmiddle, last⟩ := except_bind_eq_ok.1 leads
      obtain ⟨next, hnext, last⟩ := except_bind_eq_ok.1 last
      cases last
      rw [hmiddle, (follow_eq_ok.1 hnext).2.1]
      rfl
  show (Path.names (Path.join dir name)).foldlM t.follow _ = _
  rw [joined, same, List.foldlM_append]
  refine except_bind_eq_ok.2 ⟨above, leads, ?_⟩
  have followed := follow_eq_ok.2 ⟨inside, rfl, fun _ => ⟨named.short, there⟩⟩
  rw [stepTo_plain named.named] at followed
  exact except_bind_eq_ok.2 ⟨_, followed, rfl⟩

/-- What a name in a directory leads to is what is there, as long as the whole path is not too long. -/
theorem find_join {dir : String} {above : Location} {entry : Entry} (located : t.locate dir = .ok above)
    (inside : t.get? above = some .directory) (named : Path.IsFileName name)
    (there : t.get? (name :: above) = some entry) :
    t.find (Path.join dir name) =
      if pathLimit ≤ (Path.join dir name).utf8ByteSize then .error .nameTooLong else .ok entry := by
  rw [find, locate_join located inside named (by simp [there])]
  split
  · rfl
  · simp only [bind, Except.bind, there]

end Tree

end Fixtures.Files
