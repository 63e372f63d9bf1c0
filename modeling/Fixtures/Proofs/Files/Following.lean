import Fixtures.Proofs.Files.Paths
import Fixtures.Proofs.Runs

/-!
# Following paths

Whenever a path can be followed through the directories of a tree it leads to the location that it spells
(`Tree.locate_eq`, `Tree.reaches_of_fileTarget`), and all directories on the way are there
(`Tree.Reaches.inside_of_mem_ancestors`). What can be followed in a tree can be followed in every tree
that keeps its directories (`Tree.Keeps`), as no operation on files loses one.
-/

namespace Fixtures.Files.Tree

open Runs (except_bind_eq_ok)

/-! ## Names and paths -/

theorem enter_eq_ok {t : Tree} {location : Location} {u : Unit} :
    t.enter location = .ok u ↔ t.get? location = some .directory := by
  unfold enter
  split <;> simp_all

theorem follow_of_inside {t : Tree} {location : Location} (inside : t.get? location = some .directory)
    (name : String) :
    t.follow location name =
      if name = "" || name = "." then .ok location
      else if name = ".." then .ok location.tail
      else if nameLimit < name.utf8ByteSize then .error .nameTooLong
      else if (t.get? (name :: location)).isSome then .ok (name :: location)
      else .error .missing := by
  have entered : t.enter location = .ok () := enter_eq_ok.2 inside
  rw [follow, entered]
  rfl

/-- Nothing can be followed from where no directory is. -/
theorem follow_ne_ok {t : Tree} {location : Location} (outside : t.get? location ≠ some .directory)
    (name : String) (next : Location) : t.follow location name ≠ .ok next := by
  intro h
  rw [follow] at h
  obtain ⟨_, entered, -⟩ := except_bind_eq_ok.1 h
  exact outside (enter_eq_ok.1 entered)

/-- When a name can be followed, and where it leads then. -/
theorem follow_eq_ok {t : Tree} {location next : Location} {name : String} :
    t.follow location name = .ok next ↔
      t.get? location = some .directory ∧ next = stepTo location name ∧
        (isDots name = false → name.utf8ByteSize ≤ nameLimit ∧ (t.get? (name :: location)).isSome) := by
  by_cases inside : t.get? location = some .directory
  · rw [follow_of_inside inside, stepTo]
    by_cases stay : (name = "" || name = ".") = true
    · have dots : isDots name = true := by simp only [isDots, stay, Bool.true_or]
      simp only [if_pos stay, inside, dots, Except.ok.injEq, true_and, Bool.true_eq_false, false_imp_iff,
        and_true]
      exact eq_comm
    by_cases up : name = ".."
    · have dots : isDots name = true := by simp [isDots, up]
      simp only [if_neg stay, if_pos up, inside, dots, Except.ok.injEq, true_and, Bool.true_eq_false,
        false_imp_iff, and_true]
      exact eq_comm
    have plain : isDots name = false := by simpa [isDots, up] using stay
    by_cases long : nameLimit < name.utf8ByteSize
    · have tooLong : ¬ name.utf8ByteSize ≤ nameLimit := by omega
      simp [stay, up, long, tooLong, plain]
    by_cases there : (t.get? (name :: location)).isSome
    · have short : name.utf8ByteSize ≤ nameLimit := by omega
      simp only [if_neg stay, if_neg up, if_neg long, there, if_true, inside, short, Except.ok.injEq,
        true_and, implies_true, and_true]
      exact eq_comm
    · simp [stay, up, long, there, plain]
  · simp [follow_ne_ok inside, inside]

/-- Names that can be followed lead to where they spell. -/
theorem eq_walk_of_foldlM {t : Tree} {location last : Location} {names : List String}
    (h : names.foldlM t.follow location = .ok last) : last = walk location names := by
  induction names generalizing location with
  | nil => cases h; rfl
  | cons name names ih =>
    rw [List.foldlM_cons] at h
    obtain ⟨next, hnext, h⟩ := except_bind_eq_ok.1 h
    rw [ih h, (follow_eq_ok.1 hnext).2.1]
    rfl

/-- Names that can be followed to a directory start at one. -/
theorem inside_of_foldlM {t : Tree} {location last : Location} {names : List String}
    (leads : names.foldlM t.follow location = .ok last) (inside : t.get? last = some .directory) :
    t.get? location = some .directory := by
  cases names with
  | nil =>
    cases leads
    exact inside
  | cons name names =>
    rw [List.foldlM_cons] at leads
    obtain ⟨_, hname, -⟩ := except_bind_eq_ok.1 leads
    exact (follow_eq_ok.1 hname).1

/-- The first of some names that can be followed to a directory lead to one. -/
theorem inside_of_take {t : Tree} {location last : Location} {names : List String}
    (leads : names.foldlM t.follow location = .ok last) (inside : t.get? last = some .directory) (n : Nat) :
    t.get? (walk location (names.take n)) = some .directory := by
  rw [← List.take_append_drop n names, List.foldlM_append] at leads
  obtain ⟨middle, hmiddle, leads⟩ := except_bind_eq_ok.1 leads
  rw [← eq_walk_of_foldlM hmiddle]
  exact inside_of_foldlM leads inside

/-- Names that say nothing need not be followed. -/
theorem foldlM_filter {t : Tree} {location last : Location} {names : List String}
    (h : names.foldlM t.follow location = .ok last) :
    (names.filter fun name => name ≠ "" && name ≠ ".").foldlM t.follow location = .ok last := by
  induction names generalizing location with
  | nil => exact h
  | cons name rest ih =>
    rw [List.foldlM_cons] at h
    obtain ⟨next, hnext, h⟩ := except_bind_eq_ok.1 h
    by_cases hname : name = "" ∨ name = "."
    · have same : next = location := by
        rw [(follow_eq_ok.1 hnext).2.1]
        rcases hname with rfl | rfl <;> rfl
      have dropped : (name ≠ "" && name ≠ ".") = false := by
        rcases hname with rfl | rfl <;> rfl
      rw [List.filter_cons, dropped, if_neg (by decide), ← same]
      exact ih h
    · have kept : (name ≠ "" && name ≠ ".") = true := by simpa using hname
      rw [List.filter_cons, if_pos kept, List.foldlM_cons]
      exact except_bind_eq_ok.2 ⟨next, hnext, ih h⟩

/-- Where the names of a path can be followed, its parts can. -/
theorem foldlM_parts {t : Tree} {path : String} {location last : Location}
    (h : (Path.names path).foldlM t.follow location = .ok last) :
    (Path.parts path).foldlM t.follow location = .ok last := by
  rw [Path.parts]
  cases hn : Path.names path with
  | nil =>
    rw [hn] at h
    exact h
  | cons first rest =>
    rw [hn, List.foldlM_cons] at h
    obtain ⟨next, hnext, h⟩ := except_bind_eq_ok.1 h
    rw [List.foldlM_append]
    refine except_bind_eq_ok.2 ⟨next, ?_, foldlM_filter h⟩
    split
    · next hfirst =>
      rw [(follow_eq_ok.1 hnext).2.1, hfirst]
      rfl
    · rw [List.foldlM_cons]
      exact except_bind_eq_ok.2 ⟨next, hnext, rfl⟩

theorem namesOf_eq {path : String} {names : List String} (h : namesOf path = .ok names) :
    names = Path.names path := by
  unfold namesOf at h
  split at h
  · cases h
  split at h
  · cases h
  split at h
  · cases h
  · cases h
    rfl

/-- What is a path with more behind it is one without, unless nothing is left. -/
theorem namesOf_of_append {path more : String} {names : List String} (hpath : path ≠ "")
    (h : namesOf (path ++ more) = .ok names) : namesOf path = .ok (Path.names path) := by
  unfold namesOf at h ⊢
  split at h
  · cases h
  next noNul =>
  split at h
  · cases h
  split at h
  · cases h
  next short =>
  rw [String.toList_append, List.contains_append, Bool.or_eq_true, not_or] at noNul
  rw [String.utf8ByteSize_append] at short
  rw [if_neg noNul.1, if_neg (by simpa using hpath), if_neg (by omega)]

/-- A path that can be followed leads to where it spells. -/
theorem locate_eq {t : Tree} {path : String} {location : Location}
    (h : t.locate path = .ok location) : location = t.place path := by
  rw [locate] at h
  obtain ⟨names, hnames, h⟩ := except_bind_eq_ok.1 h
  rw [eq_walk_of_foldlM h, namesOf_eq hnames, place]

/-- A path leads through directories to a location that a file can have. -/
inductive Reaches (t : Tree) (path : String) : Location → Prop
  | intro {above : List String} {name : String} {dir : Location}
      (names : namesOf path = .ok (above ++ [name]))
      (leads : above.foldlM t.follow (t.start path) = .ok dir)
      (inside : t.get? dir = some .directory)
      (plain : Path.IsPlain name)
      (short : name.utf8ByteSize ≤ nameLimit) : Reaches t path (name :: dir)

/-- Names end with those that are empty, which are what a search from the end passes over. -/
theorem eq_append_of_dropWhile {names more : List String} {name : String}
    (h : names.reverse.dropWhile (· = "") = name :: more) :
    ∃ slashes, names = more.reverse ++ name :: slashes ∧ ∀ s ∈ slashes, s = "" := by
  refine ⟨(names.reverse.takeWhile (· = "")).reverse, ?_, fun s hs => ?_⟩
  · have parts := List.takeWhile_append_dropWhile (p := (· = "")) (l := names.reverse)
    rw [h] at parts
    have reversed := congrArg List.reverse parts
    simpa using reversed.symm
  · rw [List.mem_reverse] at hs
    simpa using List.all_eq_true.1 List.all_takeWhile s hs

/-- Where a path would put something: the names before the name lead to the directory, and only slashes
follow. -/
theorem target_eq {t : Tree} {path : String} {target : Target} (h : t.target path = .ok target) :
    t.get? target.dir = some .directory ∧ ∀ name, target.name = some name →
      Path.IsPlain name ∧ name.utf8ByteSize ≤ nameLimit ∧
        ∃ above slashes, namesOf path = .ok (above ++ name :: slashes) ∧ (∀ s ∈ slashes, s = "") ∧
          (target.hasSlash = false → slashes = []) ∧
          above.foldlM t.follow (t.start path) = .ok target.dir := by
  rw [Tree.target] at h
  obtain ⟨names, hnames, h⟩ := except_bind_eq_ok.1 h
  dsimp only at h
  generalize hrest : names.reverse.dropWhile (· = "") = rest at h
  obtain ⟨dir, hdir, h⟩ := except_bind_eq_ok.1 h
  obtain ⟨_, inside, h⟩ := except_bind_eq_ok.1 h
  split at h
  · cases h
  next short =>
  cases h
  refine ⟨enter_eq_ok.1 inside, fun name hname => ?_⟩
  -- The name is the last one that is not empty; behind it there are only the empty names of slashes.
  obtain ⟨hhead, notDots⟩ := Option.filter_eq_some_iff.1 hname
  obtain ⟨more, rfl⟩ := List.head?_eq_some_iff.1 hhead
  obtain ⟨slashes, whole, empty⟩ := eq_append_of_dropWhile hrest
  have slashless : '/' ∉ name.toList := by
    apply @Path.slashless_of_mem_names path
    rw [← namesOf_eq hnames, whole]
    exact List.mem_append_right _ List.mem_cons_self
  have plain : Path.IsPlain name := ⟨slashless, by simpa using notDots⟩
  refine ⟨plain, ?_, more.reverse, slashes, by rw [hnames, whole], empty, ?_, hdir⟩
  · simpa [Option.filter, notDots] using short
  -- A slash at the end would leave an empty name last.
  · intro bare
    rcases List.eq_nil_or_concat slashes with none | ⟨before, last, rfl⟩
    · exact none
    · have ends : last = "" := empty last (by simp)
      have slash : names.getLast? = some "" := by
        rw [whole, List.concat_eq_append, ends, ← List.cons_append, ← List.append_assoc, List.getLast?_concat]
      simp [slash] at bare

/-- A location that is reached is the one that the path spells, in a directory and below a plain name. -/
theorem Reaches.spelled {t : Tree} {path : String} {location : Location} (h : t.Reaches path location) :
    location = t.place path ∧ t.get? location.tail = some .directory ∧
      ∃ name, location = name :: location.tail ∧ Path.IsPlain name := by
  obtain ⟨names, leads, inside, plain, -⟩ := h
  refine ⟨?_, inside, _, rfl, plain⟩
  rw [place, ← namesOf_eq names, walk_append, ← eq_walk_of_foldlM leads]
  exact (stepTo_plain plain.named _).symm

/-- The directory of a location that is reached through it is found. -/
theorem Reaches.locate_dir {t : Tree} {dir name last : String} {location : Location} (hdir : dir ≠ "")
    (slashless : '/' ∉ name.toList) (h : t.Reaches (Path.join dir name) (last :: location)) :
    t.locate dir = .ok location ∧ t.get? location = some .directory := by
  obtain ⟨names, leads, inside, -, -⟩ := h
  obtain ⟨before, joined, hnames⟩ := Path.names_join hdir slashless
  obtain ⟨more, hmore⟩ := Path.join_eq_append hdir slashless
  have same : t.start (Path.join dir name) = t.start dir := by
    rw [start, start, Path.isAbsolute_join hdir slashless]
  have whole := namesOf_eq names
  rw [joined] at whole
  have above := List.append_inj_left' whole rfl
  subst above
  rw [same] at leads
  rw [hmore] at names
  refine ⟨?_, inside⟩
  rw [Tree.locate]
  refine except_bind_eq_ok.2 ⟨_, namesOf_of_append hdir names, ?_⟩
  -- The directory may be written with a slash at its end, which is one more name that stays.
  rcases hnames with hn | hn
  · rwa [hn]
  · rw [hn, List.foldlM_append]
    refine except_bind_eq_ok.2 ⟨location, leads, ?_⟩
    have stays := (@follow_eq_ok t _ _ "").2 ⟨inside, rfl, fun named => by cases named⟩
    rw [List.foldlM_cons]
    exact except_bind_eq_ok.2 ⟨location, stays, rfl⟩

/-- The directories above a name that is reached are there. -/
theorem Reaches.inside_of_mem_ancestors {t : Tree} {dir name last above : String} {location : Location}
    (slashless : '/' ∉ name.toList) (h : t.Reaches (Path.join dir name) (last :: location))
    (habove : above ∈ Path.ancestors dir) : t.get? (t.place above) = some .directory := by
  by_cases hdir : dir = ""
  · rw [hdir] at habove
    exact absurd habove List.not_mem_nil
  · obtain ⟨located, inside⟩ := h.locate_dir hdir slashless
    obtain ⟨names, hnames, leads⟩ := except_bind_eq_ok.1 located
    rw [namesOf_eq hnames] at leads
    obtain ⟨n, hn⟩ := place_of_mem_ancestors t habove
    rw [hn]
    exact inside_of_take (foldlM_parts leads) inside n

/-- A file is made or changed where the path spells. -/
theorem reaches_of_fileTarget {t : Tree} {path : String} {location : Location}
    (h : t.fileTarget path = .ok location) :
    t.Reaches path location ∧ t.get? location ≠ some .directory := by
  rw [fileTarget] at h
  obtain ⟨target, htarget, h⟩ := except_bind_eq_ok.1 h
  obtain ⟨inside, named⟩ := target_eq htarget
  split at h
  · cases h
  next name hname =>
  obtain ⟨plain, short, above, slashes, names, -, bare, leads⟩ := named name hname
  dsimp only at h
  split at h
  · cases h
  next free =>
  split at h
  · cases h
  next noSlash =>
  cases h
  rw [bare (by simpa using noSlash)] at names
  exact ⟨⟨names, leads, inside, plain, short⟩, free⟩

/-- A path that reaches a location leads to what is there. -/
theorem Reaches.locate {t : Tree} {path : String} {location : Location} (h : t.Reaches path location)
    (there : (t.get? location).isSome) : t.locate path = .ok location := by
  obtain ⟨names, leads, inside, plain, short⟩ := h
  have last := (@follow_eq_ok t _ _ _).2 ⟨inside, rfl, fun _ => ⟨short, there⟩⟩
  rw [stepTo_plain plain.named] at last
  rw [Tree.locate]
  refine except_bind_eq_ok.2 ⟨_, names, ?_⟩
  rw [List.foldlM_append]
  refine except_bind_eq_ok.2 ⟨_, leads, ?_⟩
  rw [List.foldlM_cons]
  exact except_bind_eq_ok.2 ⟨_, last, rfl⟩

theorem Reaches.find {t : Tree} {path : String} {location : Location} (h : t.Reaches path location)
    {entry : Entry} (there : t.get? location = some entry) : t.find path = .ok entry := by
  rw [Tree.find]
  refine except_bind_eq_ok.2 ⟨_, h.locate (by simp [there]), ?_⟩
  rw [there]

theorem Reaches.read {t : Tree} {path : String} {location : Location} (h : t.Reaches path location)
    {content : Content} (there : t.get? location = some (.file content)) : t.read path = .ok content := by
  rw [Tree.read, h.find there]
  rfl

/-- What a path leads to is what is at the location that it spells. -/
theorem get?_place_of_find {t : Tree} {path : String} {entry : Entry} (h : t.find path = .ok entry) :
    t.get? (t.place path) = some entry := by
  rw [find] at h
  obtain ⟨location, hlocation, h⟩ := except_bind_eq_ok.1 h
  rw [← locate_eq hlocation]
  split at h
  · next there =>
    cases h
    exact there
  · cases h

/-! ## Keeping directories -/

/-- A tree with the same current directory in which no directory of another one is lost. -/
structure Keeps (t t' : Tree) : Prop where
  here : t'.here = t.here
  directory : ∀ location, t.get? location = some .directory → t'.get? location = some .directory

theorem Keeps.refl (t : Tree) : t.Keeps t := ⟨rfl, fun _ h => h⟩

theorem Keeps.trans {t t' t'' : Tree} (h : t.Keeps t') (h' : t'.Keeps t'') : t.Keeps t'' :=
  ⟨h'.here.trans h.here, fun location hl => h'.directory location (h.directory location hl)⟩

/-- Directories are still found by the same names. -/
theorem Keeps.foldlM {t t' : Tree} (h : t.Keeps t') {location last : Location} {names : List String}
    (leads : names.foldlM t.follow location = .ok last) (inside : t.get? last = some .directory) :
    names.foldlM t'.follow location = .ok last := by
  induction names generalizing location with
  | nil => exact leads
  | cons name names ih =>
    rw [List.foldlM_cons] at leads ⊢
    obtain ⟨next, hnext, leads⟩ := except_bind_eq_ok.1 leads
    refine except_bind_eq_ok.2 ⟨next, ?_, ih leads⟩
    obtain ⟨start, step, named⟩ := follow_eq_ok.1 hnext
    refine follow_eq_ok.2 ⟨h.directory _ start, step, fun plain => ?_⟩
    have entered := inside_of_foldlM leads inside
    rw [step, stepTo_plain plain] at entered
    exact ⟨(named plain).1, by simp [h.directory _ entered]⟩

theorem Keeps.reaches {t t' : Tree} (h : t.Keeps t') {path : String} {location : Location}
    (reached : t.Reaches path location) : t'.Reaches path location := by
  obtain ⟨names, leads, inside, plain, short⟩ := reached
  have same : t'.start path = t.start path := by rw [start, start, h.here]
  refine ⟨names, ?_, h.directory _ inside, plain, short⟩
  rw [same]
  exact h.foldlM leads inside

end Fixtures.Files.Tree
