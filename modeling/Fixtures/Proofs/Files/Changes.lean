import Fixtures.Proofs.Files.Following

/-!
# What operations on files change

Making a directory, writing a file and renaming one change a tree at the locations that their paths spell and
nowhere else. `DirsMade` is what making a directory with those above it comes to: at each location there is what
was there or a new directory (`KeptOrMade`).
-/

namespace Fixtures.Files.Tree

open Runs (except_bind_eq_ok)

/-! ## One location -/

theorem get?_cons (t : Tree) (name : String) (dir : Location) :
    t.get? (name :: dir) = t.entries.lookup (name :: dir) := by
  rw [get?, List.isEmpty_cons, if_neg (by decide)]

theorem lookup_erase (t : Tree) (location other : Location) :
    (t.erase location).entries.lookup other =
      if other = location then none else t.entries.lookup other := by
  rw [erase]
  induction t.entries with
  | nil => simp
  | cons head rest ih =>
    obtain ⟨key, entry⟩ := head
    by_cases here : key = location
    · rw [List.filter_cons_of_neg (by simp [here]), ih, List.lookup_cons]
      by_cases same : other = location
      · simp [same]
      · have apart : (other == key) = false := beq_eq_false_iff_ne.2 (here ▸ same)
        simp only [if_neg same, apart]
    · rw [List.filter_cons_of_pos (by simp [here]), List.lookup_cons, ih, List.lookup_cons]
      by_cases same : other = key
      · subst same
        simp [here]
      · have apart : (other == key) = false := beq_eq_false_iff_ne.2 same
        simp only [apart]

theorem get?_erase (t : Tree) (name : String) (dir other : Location) :
    (t.erase (name :: dir)).get? other = if other = name :: dir then none else t.get? other := by
  cases other with
  | nil => rfl
  | cons n d => rw [get?_cons, lookup_erase, get?_cons]

theorem get?_set (t : Tree) (name : String) (dir : Location) (entry : Entry) (other : Location) :
    (t.set (name :: dir) entry).get? other =
      if other = name :: dir then some entry else t.get? other := by
  cases other with
  | nil => rfl
  | cons n d =>
    have erased := lookup_erase t (name :: dir) (n :: d)
    rw [get?_cons, set, List.lookup_append, erased, get?_cons]
    by_cases same : n :: d = name :: dir
    · simp [same]
    · have apart : (n :: d == name :: dir) = false := beq_eq_false_iff_ne.2 same
      rw [if_neg same, if_neg same, List.lookup_cons, apart]
      simp

/-- No directory is lost where there is none. -/
theorem keeps_erase {t : Tree} {name : String} {dir : Location}
    (free : t.get? (name :: dir) ≠ some .directory) : t.Keeps (t.erase (name :: dir)) := by
  refine ⟨rfl, fun location inside => ?_⟩
  rw [get?_erase, if_neg]
  · exact inside
  · rintro rfl
    exact free inside

theorem keeps_set {t : Tree} {name : String} {dir : Location}
    (free : t.get? (name :: dir) ≠ some .directory) (entry : Entry) :
    t.Keeps (t.set (name :: dir) entry) := by
  refine ⟨rfl, fun location inside => ?_⟩
  rw [get?_set, if_neg]
  · exact inside
  · rintro rfl
    exact free inside

/-! ## The names in a directory -/

/-- The name of a location in a directory. -/
def nameIn (dir : Location) : Location → Option String
  | name :: above => if above = dir then some name else none
  | [] => none

theorem nameIn_eq_some {dir location : Location} {name : String} :
    nameIn dir location = some name ↔ location = name :: dir := by
  cases location with
  | nil => simp [nameIn]
  | cons n above =>
    rw [nameIn, List.cons.injEq]
    split
    · next inside => simp [inside]
    · next outside => simp [outside]

/-- The names in a directory, in the order of the entries. -/
def children (t : Tree) (dir : Location) : List String := t.entries.filterMap fun e => nameIn dir e.1

theorem mem_children {t : Tree} {dir : Location} {name : String} :
    name ∈ t.children dir ↔ (t.get? (name :: dir)).isSome := by
  rw [get?_cons, List.lookup_isSome_iff, children, List.mem_filterMap]
  simp only [nameIn_eq_some, beq_iff_eq, @eq_comm _ (name :: dir)]

/-- A directory lists the names in it. -/
theorem list_eq {t : Tree} {path : String} {location : Location} (located : t.locate path = .ok location)
    (inside : t.get? location = some .directory) : t.list path = .ok (t.children location) := by
  rw [list]
  refine except_bind_eq_ok.2 ⟨location, located, except_bind_eq_ok.2 ⟨(), enter_eq_ok.2 inside, ?_⟩⟩
  rfl

/-- Nothing lies in the directory that a path spells: it is absent or empty. -/
def IsBare (t : Tree) (path : String) : Prop := ∀ name, t.get? (name :: t.place path) = none

/-- A directory that lists nothing is bare. -/
theorem isBare_of_list {t : Tree} {path : String} (h : t.list path = .ok []) : t.IsBare path := by
  intro name
  have hlist := h
  rw [Tree.list] at hlist
  obtain ⟨location, located, hlist⟩ := except_bind_eq_ok.1 hlist
  obtain ⟨_, entered, -⟩ := except_bind_eq_ok.1 hlist
  have listed := (list_eq located (enter_eq_ok.1 entered)).symm.trans h
  have nothing : name ∉ t.children location := by
    rw [Except.ok.inj listed]
    exact List.not_mem_nil
  rw [← locate_eq located]
  simpa [mem_children] using nothing

/-- A directory that is absent is bare, where everything lies in a directory. -/
theorem isBare_of_absent {t : Tree} {path : String}
    (closed : ∀ name dir, (t.get? (name :: dir)).isSome → t.get? dir = some .directory)
    (absent : t.get? (t.place path) = none) : t.IsBare path := by
  intro name
  cases there : t.get? (name :: t.place path) with
  | none => rfl
  | some entry =>
    have above := closed name (t.place path) (by simp [there])
    rw [absent] at above
    cases above

/-- Taking a location away takes its name away and keeps the others in order. -/
theorem children_erase (t : Tree) (location dir : Location) :
    (t.erase location).children dir = (t.children dir).filter fun name => name :: dir ≠ location := by
  rw [children, children, erase]
  induction t.entries with
  | nil => rfl
  | cons head rest ih =>
    rw [List.filterMap_cons]
    cases named : nameIn dir head.1 with
    | none =>
      by_cases here : head.1 = location
      · rw [List.filter_cons_of_neg (by simp [here]), ih]
      · rw [List.filter_cons_of_pos (by simp [here]), List.filterMap_cons, named, ih]
    | some name =>
      have key := nameIn_eq_some.1 named
      by_cases here : head.1 = location
      · rw [List.filter_cons_of_neg (by simp [here]), ih, List.filter_cons_of_neg (by simp [← key, here])]
      · rw [List.filter_cons_of_pos (by simp [here]), List.filterMap_cons, named, ih,
          List.filter_cons_of_pos (by simp [← key, here])]

theorem children_set (t : Tree) (name : String) (location dir : Location) (entry : Entry) :
    (t.set (name :: location) entry).children dir =
      ((t.children dir).filter fun n => n :: dir ≠ name :: location) ++
        if location = dir then [name] else [] := by
  rw [children, set, List.filterMap_append]
  congr 1
  · exact children_erase t _ dir
  · by_cases inside : location = dir <;> simp [nameIn, inside]

theorem nodup_children_erase {t : Tree} {dir : Location} (h : (t.children dir).Nodup)
    (location : Location) : ((t.erase location).children dir).Nodup := by
  rw [children_erase]
  exact h.filter _

theorem nodup_children_set {t : Tree} {dir : Location} (h : (t.children dir).Nodup) (name : String)
    (location : Location) (entry : Entry) : ((t.set (name :: location) entry).children dir).Nodup := by
  rw [children_set]
  refine List.nodup_append.2 ⟨h.filter _, by split <;> simp, ?_⟩
  intro n hn n' hn'
  split at hn'
  · next inside =>
    subst inside
    have kept := (List.mem_filter.1 hn).2
    rw [List.mem_singleton.1 hn']
    rintro rfl
    simp at kept
  · exact absurd hn' List.not_mem_nil

/-! ## One operation -/

/-- A directory is made where the path spells, where nothing was. -/
theorem makeDir_eq {t t' : Tree} {path : String} (h : t.makeDir path = .ok t') :
    ∃ name dir, t.place path = name :: dir ∧ Path.IsPlain name ∧ t.get? (name :: dir) = none ∧
      t' = t.set (name :: dir) .directory := by
  rw [makeDir] at h
  obtain ⟨target, htarget, h⟩ := except_bind_eq_ok.1 h
  obtain ⟨-, named⟩ := target_eq htarget
  split at h
  · cases h
  next name hname =>
  obtain ⟨plain, -, above, slashes, names, empty, -, leads⟩ := named name hname
  dsimp only at h
  split at h
  · cases h
  next free =>
  cases h
  have spelled : t.place path = name :: target.dir := by
    rw [place, ← namesOf_eq names, walk_append, ← eq_walk_of_foldlM leads, walk, List.foldl_cons,
      stepTo_plain plain.named]
    exact walk_slashes _ empty
  exact ⟨name, target.dir, spelled, plain, by simpa using free, rfl⟩

/-- A file is written where the path spells. -/
theorem write_eq {t t' : Tree} {path : String} {content : Content} (h : t.write path content = .ok t') :
    t.Reaches path (t.place path) ∧ t.get? (t.place path) ≠ some .directory ∧
      t' = t.set (t.place path) (.file content) := by
  rw [write] at h
  obtain ⟨location, hlocation, h⟩ := except_bind_eq_ok.1 h
  obtain ⟨reached, free⟩ := reaches_of_fileTarget hlocation
  cases h
  rw [← reached.spelled.1]
  exact ⟨reached, free, rfl⟩

/-- A file is taken from where one path spells to where another one does. -/
theorem rename_eq {t t' : Tree} {source destination : String} (h : t.rename source destination = .ok t') :
    ∃ content, t.get? (t.place source) = some (.file content) ∧
      t.Reaches destination (t.place destination) ∧ t.get? (t.place destination) ≠ some .directory ∧
      t' = (t.erase (t.place source)).set (t.place destination) (.file content) := by
  rw [rename] at h
  obtain ⟨location, hlocation, h⟩ := except_bind_eq_ok.1 h
  rw [← locate_eq hlocation]
  split at h
  · next content there =>
    obtain ⟨goal, hgoal, h⟩ := except_bind_eq_ok.1 h
    obtain ⟨reached, free⟩ := reaches_of_fileTarget hgoal
    cases h
    rw [← reached.spelled.1]
    exact ⟨content, there, reached, free, rfl⟩
  · cases h
  · cases h

/-! ## Making directories -/

/-- At a location there is what was there or, where nothing was and one of some paths spells, a directory. -/
def KeptOrMade (paths : List String) (t t' : Tree) (location : Location) : Prop :=
  t'.get? location = t.get? location ∨
    t.get? location = none ∧ t'.get? location = some .directory ∧
      (∃ path ∈ paths, location = t.place path) ∧
      ∃ name, location = name :: location.tail ∧ Path.IsPlain name

namespace KeptOrMade

variable {paths : List String} {t t' : Tree} {location : Location}

theorem refl (paths : List String) (t : Tree) (location : Location) : KeptOrMade paths t t location :=
  .inl rfl

/-- What is made first is kept then, as something is there. -/
theorem trans {t'' : Tree} (here : t'.here = t.here) (h : KeptOrMade paths t t' location)
    (h' : KeptOrMade paths t' t'' location) : KeptOrMade paths t t'' location := by
  rcases h with kept | ⟨empty, made, spelled, named⟩
  · rcases h' with kept' | ⟨empty', made', ⟨path, listed, spelled'⟩, named'⟩
    · exact .inl (kept'.trans kept)
    · rw [place_congr here] at spelled'
      exact .inr ⟨kept.symm.trans empty', made', ⟨path, listed, spelled'⟩, named'⟩
  · rcases h' with kept' | ⟨empty', -⟩
    · exact .inr ⟨empty, kept'.trans made, spelled, named⟩
    · rw [made] at empty'
      cases empty'

/-- What matters of the paths is where they lead. -/
theorem mono {more : List String} (h : KeptOrMade paths t t' location)
    (sub : ∀ path ∈ paths, ∃ path' ∈ more, t.place path = t.place path') :
    KeptOrMade more t t' location := by
  rcases h with kept | ⟨empty, made, ⟨path, listed, rfl⟩, named⟩
  · exact .inl kept
  · exact .inr ⟨empty, made, sub path listed, named⟩

/-- Something that is there is kept. -/
theorem kept {entry : Entry} (h : KeptOrMade paths t t' location) (there : t.get? location = some entry) :
    t'.get? location = some entry := by
  rcases h with kept | ⟨empty, -⟩
  · rw [kept, there]
  · rw [there] at empty
    cases empty

/-- Everything is kept where the paths already lead to directories. -/
theorem kept_of_inside (h : KeptOrMade paths t t' location)
    (inside : ∀ path ∈ paths, t.get? (t.place path) = some .directory) :
    t'.get? location = t.get? location := by
  rcases h with kept | ⟨empty, -, ⟨path, listed, rfl⟩, -⟩
  · exact kept
  · rw [inside path listed] at empty
    cases empty

/-- In a directory whose path has no two dots, nothing is on the way to the directory. -/
theorem kept_of_dotless {name dir : String} (h : KeptOrMade (Path.ancestors dir) t t' (name :: t.place dir))
    (dotless : ".." ∉ Path.parts dir) : t'.get? (name :: t.place dir) = t.get? (name :: t.place dir) := by
  rcases h with kept | ⟨-, -, ⟨above, habove, same⟩, -⟩
  · exact kept
  · exact absurd same.symm (place_ne_of_mem_ancestors t dotless habove name)

end KeptOrMade

/-- A tree that comes of another one by making directories where some paths spell, one after another. -/
inductive DirsMade (paths : List String) : Tree → Tree → Prop
  | refl (t : Tree) : DirsMade paths t t
  | one {t t' t'' : Tree} {path : String} (listed : path ∈ paths) (made : t.makeDir path = .ok t')
      (more : DirsMade paths t' t'') : DirsMade paths t t''

namespace DirsMade

variable {paths : List String} {t t' : Tree}

theorem single {path : String} (listed : path ∈ paths) (made : t.makeDir path = .ok t') :
    DirsMade paths t t' := .one listed made (.refl t')

theorem trans {t'' : Tree} (h : DirsMade paths t t') (h' : DirsMade paths t' t'') :
    DirsMade paths t t'' := by
  induction h with
  | refl => exact h'
  | one listed made _ ih => exact .one listed made (ih h')

theorem mono {more : List String} (h : DirsMade paths t t') (sub : ∀ p ∈ paths, p ∈ more) :
    DirsMade more t t' := by
  induction h with
  | refl => exact .refl _
  | one listed made _ ih => exact .one (sub _ listed) made ih

theorem here (h : DirsMade paths t t') : t'.here = t.here := by
  induction h with
  | refl => rfl
  | one _ made _ ih =>
    obtain ⟨_, _, -, -, -, rfl⟩ := makeDir_eq made
    exact ih

/-- Nothing changes but that there are directories where nothing was. -/
theorem keptOrMade (h : DirsMade paths t t') (location : Location) :
    KeptOrMade paths t t' location := by
  induction h with
  | refl => exact .refl _ _ _
  | @one t t₁ t' path listed made more ih =>
    obtain ⟨name, dir, spelled, plain, free, rfl⟩ := makeDir_eq made
    have same (path : String) : (t.set (name :: dir) .directory).place path = t.place path :=
      place_congr rfl path
    simp only [KeptOrMade, get?_set, same] at ih
    by_cases here : location = name :: dir
    · subst here
      refine .inr ⟨free, ?_, ⟨_, listed, spelled.symm⟩, name, rfl, plain⟩
      simpa using ih
    · rwa [if_neg here] at ih

theorem nodup_children (h : DirsMade paths t t') {dir : Location} (distinct : (t.children dir).Nodup) :
    (t'.children dir).Nodup := by
  induction h with
  | refl => exact distinct
  | one _ made _ ih =>
    obtain ⟨name, above, -, -, -, rfl⟩ := makeDir_eq made
    exact ih (nodup_children_set distinct name above .directory)

theorem keeps (h : DirsMade paths t t') : t.Keeps t' :=
  ⟨h.here, fun location inside => (h.keptOrMade location).kept inside⟩

end DirsMade

end Fixtures.Files.Tree
