import Fixtures.Files.Tree
import Fixtures.Proofs.Text.Cutting

/-!
# Where paths lead

A path spells a location: starting at the root or the current directory, a name goes down to what it names,
two dots go up, and empty names and single dots stay. So the location of a file can be told from its path and
the current directory alone.

## Main results

* `Tree.place_join` — a path below another one spells a location below the other's
* `Tree.place_fileName?` — a file lies in the directory that the parent of its path spells
* `Tree.place_draftOf` — a file and its draft lie side by side
* `Tree.exists_ancestor_of_parent?` — the directories above a name are those that the path before it names
* `Tree.place_ne_of_mem_ancestors` — without two dots, none of these lies in the directory of the name
-/

namespace Fixtures.Files

/-! ## Names -/

namespace Path

/-- A name without slashes that is not empty and not made of dots that lead elsewhere. -/
structure IsPlain (name : String) : Prop where
  slashless : '/' ∉ name.toList
  named : Tree.isDots name = false

theorem IsPlain.ne {name : String} (h : IsPlain name) : name ≠ "" ∧ name ≠ "." ∧ name ≠ ".." := by
  have named := h.named
  simp only [Tree.isDots, Bool.or_eq_false_iff, decide_eq_false_iff_not] at named
  exact ⟨named.1.1, named.1.2, named.2⟩

/-- A name with a longer ending is no dots. -/
theorem IsPlain.append {name ending : String} (slashless : '/' ∉ name.toList)
    (slashless' : '/' ∉ ending.toList) (long : 2 < ending.length) : IsPlain (name ++ ending) := by
  have differs {dots : String} (h : dots.length ≤ 2) : name ++ ending ≠ dots := by
    rintro rfl
    rw [String.length_append] at h
    omega
  refine ⟨by simp [slashless, slashless'], ?_⟩
  simp only [Tree.isDots, Bool.or_eq_false_iff, decide_eq_false_iff_not]
  exact ⟨⟨differs (by decide), differs (by decide)⟩, differs (by decide)⟩

theorem slashless_of_mem_names {path name : String} (h : name ∈ names path) : '/' ∉ name.toList := by
  obtain ⟨piece, hpiece, rfl⟩ := List.mem_map.1 h
  rw [String.toList_ofList]
  exact Text.not_mem_of_mem_pieces hpiece

theorem names_slash (dir path : String) : names (dir ++ "/" ++ path) = names dir ++ names path := by
  have slash : (dir ++ "/" ++ path).toList = dir.toList ++ '/' :: path.toList := by simp
  rw [names, slash, Text.pieces_append, List.map_append, names, names]

theorem names_of_slashless {name : String} (h : '/' ∉ name.toList) : names name = [name] := by
  rw [names, Text.pieces_of_not_mem h, List.map_singleton, String.ofList_toList]

/-- Only the empty path has no name but an empty one. -/
theorem eq_empty_of_names {path : String} (h : names path = [""]) : path = "" := by
  obtain ⟨piece, alone, empty⟩ := List.map_eq_singleton_iff.1 h
  have whole := Text.join_pieces '/' path.toList
  rw [alone, Text.join] at whole
  rw [← empty, whole, String.ofList_toList]

theorem isAbsolute_of_slashless {name : String} (h : '/' ∉ name.toList) : isAbsolute name = false := by
  cases hn : name.toList with
  | nil => simp [isAbsolute, hn]
  | cons c rest =>
    rw [hn, List.mem_cons, not_or] at h
    simp [isAbsolute, hn, Ne.symm h.1]

theorem isAbsolute_append {dir : String} (h : dir ≠ "") (path : String) :
    isAbsolute (dir ++ path) = isAbsolute dir := by
  cases hd : dir.toList with
  | nil => exact absurd (String.toList_eq_nil_iff.1 hd) h
  | cons c rest => simp [isAbsolute, hd]

/-- A path that ends in a slash is another path with a slash. -/
theorem eq_of_getLast? {dir : String} (h : dir.toList.getLast? = some '/') :
    ∃ before, dir = before ++ "/" := by
  obtain ⟨before, hbefore⟩ := List.getLast?_eq_some_iff.1 h
  refine ⟨String.ofList before, String.toList_injective ?_⟩
  simpa using hbefore

/-- A name below a directory comes last, after names that lead where the directory does. -/
theorem names_join {dir name : String} (hdir : dir ≠ "") (h : '/' ∉ name.toList) :
    ∃ before, names (join dir name) = before ++ [name] ∧
      (names dir = before ∨ names dir = before ++ [""]) := by
  have relative := isAbsolute_of_slashless h
  have nonempty : dir.isEmpty = false := by simpa using hdir
  by_cases ends : dir.toList.getLast? = some '/'
  · obtain ⟨before, rfl⟩ := eq_of_getLast? ends
    refine ⟨names before, ?_, .inr ?_⟩
    · rw [join, relative, nonempty, if_neg (by decide), if_pos ends, names_slash, names_of_slashless h]
    · have nothing := names_slash before ""
      rwa [String.append_empty, @names_of_slashless "" (by decide)] at nothing
  · refine ⟨names dir, ?_, .inl rfl⟩
    rw [join, relative, nonempty, if_neg (by decide), if_neg ends, names_slash, names_of_slashless h]

/-- A name below a directory is appended to it. -/
theorem join_eq_append {dir name : String} (hdir : dir ≠ "") (h : '/' ∉ name.toList) :
    ∃ more, join dir name = dir ++ more := by
  have relative := isAbsolute_of_slashless h
  have nonempty : dir.isEmpty = false := by simpa using hdir
  rw [join, relative, nonempty, if_neg (by decide)]
  split
  · exact ⟨name, rfl⟩
  · exact ⟨"/" ++ name, String.append_assoc ..⟩

theorem isAbsolute_join {dir name : String} (hdir : dir ≠ "") (h : '/' ∉ name.toList) :
    isAbsolute (join dir name) = isAbsolute dir := by
  obtain ⟨more, hmore⟩ := join_eq_append hdir h
  rw [hmore]
  exact isAbsolute_append hdir more

/-- A plain name that comes last is the name of a file. -/
theorem fileName?_of_names {path name : String} {before : List String} (hnames : names path = before ++ [name])
    (h : IsPlain name) : fileName? path = some name := by
  have last : (parts path).getLast? = some name := by
    rw [parts, hnames]
    cases before with
    | nil => simp [h.ne.1]
    | cons first rest =>
      simp only [List.cons_append, List.filter_append, ← List.append_assoc]
      simp [h.ne.1, h.ne.2.1]
  rw [fileName?, last]
  simp [h.ne.2.1, h.ne.2.2]

/-- A plain name below a directory is the name of a file. -/
theorem fileName?_join (dir : String) {name : String} (h : IsPlain name) :
    fileName? (join dir name) = some name := by
  by_cases hdir : dir = ""
  · have joined : join "" name = name := by simp [join]
    have alone : names (join dir name) = [] ++ [name] := by
      rw [hdir, joined, names_of_slashless h.slashless, List.nil_append]
    exact fileName?_of_names alone h
  · obtain ⟨before, hnames, -⟩ := names_join hdir h.slashless
    exact fileName?_of_names hnames h

/-- A path with a longer ending leads to a file. -/
theorem exists_fileName?_append (path : String) {ending : String} (slashless : '/' ∉ ending.toList)
    (long : 2 < ending.length) : ∃ name, fileName? (path ++ ending) = some name := by
  obtain ⟨before, last, hpath, hwhole⟩ := Text.pieces_append_of_not_mem path.toList slashless
  have inLast : '/' ∉ (String.ofList last).toList := by
    rw [String.toList_ofList]
    apply @Text.not_mem_of_mem_pieces '/' path.toList
    rw [hpath]
    exact List.mem_append_right _ List.mem_cons_self
  have hnames : names (path ++ ending) = before.map String.ofList ++ [String.ofList last ++ ending] := by
    rw [names, String.toList_append, hwhole, List.map_append, List.map_singleton, String.ofList_append,
      String.ofList_toList]
  exact ⟨_, fileName?_of_names hnames (IsPlain.append inLast slashless long)⟩

/-- What a path below another one ends in, the whole path ends in. -/
theorem exists_join_eq_append (dir path ending : String) : ∃ front, join dir (path ++ ending) = front ++ ending := by
  rw [join]
  split
  · exact ⟨path, rfl⟩
  split
  · exact ⟨dir ++ path, by rw [String.append_assoc]⟩
  · exact ⟨dir ++ "/" ++ path, by simp only [String.append_assoc]⟩

/-! ### Parts -/

theorem slashless_of_mem_parts {path part : String} (h : part ∈ parts path) : '/' ∉ part.toList := by
  have hnames : part ∈ names path := by
    rw [parts] at h
    split at h
    · exact absurd h List.not_mem_nil
    · next first rest hn =>
      rw [hn]
      rcases List.mem_append.1 h with h | h
      · split at h
        · exact absurd h List.not_mem_nil
        · rw [List.mem_singleton.1 h]
          exact List.mem_cons_self
      · exact List.mem_cons_of_mem _ (List.mem_filter.1 h).1
  exact slashless_of_mem_names hnames

theorem ne_of_mem_parts {path part : String} (h : part ∈ parts path) : part ≠ "" := by
  rw [parts] at h
  split at h
  · exact absurd h List.not_mem_nil
  · rcases List.mem_append.1 h with h | h
    · split at h
      · exact absurd h List.not_mem_nil
      · next first =>
        rw [List.mem_singleton.1 h]
        exact first
    · have kept := (List.mem_filter.1 h).2
      simp only [Bool.and_eq_true, decide_eq_true_eq] at kept
      exact kept.1

/-- The names of parts between slashes are the parts. -/
theorem names_intercalate {part : String} {parts : List String}
    (h : ∀ p ∈ part :: parts, '/' ∉ p.toList) :
    names (String.intercalate "/" (part :: parts)) = part :: parts := by
  induction parts generalizing part with
  | nil =>
    rw [String.intercalate_singleton]
    exact names_of_slashless (h part List.mem_cons_self)
  | cons second parts ih =>
    rw [String.intercalate_cons_cons, names_slash, names_of_slashless (h part List.mem_cons_self),
      ih fun p hp => h p (List.mem_cons_of_mem _ hp), List.singleton_append]

theorem isAbsolute_intercalate {part : String} {parts : List String} (slashless : '/' ∉ part.toList)
    (nonempty : part ≠ "") : isAbsolute (String.intercalate "/" (part :: parts)) = false := by
  have relative := isAbsolute_of_slashless slashless
  cases parts with
  | nil => rwa [String.intercalate_singleton]
  | cons second parts =>
    rwa [String.intercalate_cons_cons, String.append_assoc, isAbsolute_append nonempty]

theorem names_ofParts {isAbsolute : Bool} {part : String} {parts : List String}
    (h : ∀ p ∈ part :: parts, '/' ∉ p.toList) :
    names (ofParts isAbsolute (part :: parts)) = (if isAbsolute then [""] else []) ++ part :: parts := by
  rw [ofParts]
  cases isAbsolute with
  | true =>
    have root := names_slash "" (String.intercalate "/" (part :: parts))
    rwa [names_intercalate h, String.empty_append] at root
  | false =>
    rw [if_neg (by decide), String.empty_append, names_intercalate h]
    rfl

theorem isAbsolute_ofParts {absolute : Bool} {parts : List String}
    (h : ∀ p ∈ parts, '/' ∉ p.toList ∧ p ≠ "") : isAbsolute (ofParts absolute parts) = absolute := by
  rw [ofParts]
  cases absolute with
  | true => simp [isAbsolute]
  | false =>
    rw [if_neg (by decide), String.empty_append]
    cases parts with
    | nil => rfl
    | cons part parts =>
      obtain ⟨slashless, nonempty⟩ := h part List.mem_cons_self
      exact isAbsolute_intercalate slashless nonempty

/-- Single dots are parts at the start of a path only, and of none that starts at the root. -/
theorem ne_dot_of_mem_parts {path part : String}
    (h : part ∈ if isAbsolute path then parts path else (parts path).tail) : part ≠ "." := by
  have kept {rest : List String} (h : part ∈ rest.filter fun name => name ≠ "" && name ≠ ".") :
      part ≠ "." := by
    have kept := (List.mem_filter.1 h).2
    simp only [Bool.and_eq_true, decide_eq_true_eq] at kept
    exact kept.2
  split at h
  · next absolute =>
    obtain ⟨rest, hrest⟩ := List.head?_eq_some_iff.1 (of_decide_eq_true absolute)
    have root : path = "" ++ "/" ++ String.ofList rest := String.toList_injective (by simpa using hrest)
    rw [root, parts, names_slash, @names_of_slashless "" (by decide)] at h
    exact kept h
  · rw [parts] at h
    cases hn : names path with
    | nil =>
      rw [hn] at h
      exact absurd h List.not_mem_nil
    | cons first rest =>
      rw [hn] at h
      dsimp only at h
      split at h
      · exact kept (List.mem_of_mem_tail h)
      · exact kept h

/-- Parts are read back from their path. -/
theorem parts_ofParts {absolute : Bool} {parts : List String} (h : ∀ p ∈ parts, '/' ∉ p.toList ∧ p ≠ "")
    (dotless : ∀ p ∈ if absolute then parts else parts.tail, p ≠ ".") :
    Path.parts (ofParts absolute parts) = parts := by
  cases parts with
  | nil => cases absolute <;> decide
  | cons part parts =>
    have all {ps : List String} (sub : ∀ p ∈ ps, p ∈ part :: parts) (dotless : ∀ p ∈ ps, p ≠ ".") :
        (ps.filter fun name => name ≠ "" && name ≠ ".") = ps := by
      refine List.filter_eq_self.2 fun p hp => ?_
      simp [(h p (sub p hp)).2, dotless p hp]
    rw [Path.parts, names_ofParts fun p hp => (h p hp).1]
    cases absolute with
    | true => exact all (fun p hp => hp) dotless
    | false =>
      have nonempty := (h part List.mem_cons_self).2
      show (if part = "" then [] else [part]) ++ _ = _
      rw [if_neg nonempty, all (fun p hp => List.mem_cons_of_mem _ hp) dotless]
      rfl

/-- The parts of the parent of a path are those of the path but the last one. -/
theorem parts_parent? {path dir : String} (h : parent? path = some dir) : parts dir = (parts path).dropLast := by
  rw [parent?] at h
  split at h
  · cases h
  next last before hparts =>
  cases h
  have split : parts path = before.reverse ++ [last] := by simpa using congrArg List.reverse hparts
  rw [split, List.dropLast_concat]
  refine parts_ofParts (fun p hp => ?_) fun p hp => ?_
  · have inside : p ∈ parts path := split ▸ List.mem_append_left _ hp
    exact ⟨slashless_of_mem_parts inside, ne_of_mem_parts inside⟩
  · -- A part before the last one is not the first of the path unless it is the first of the parent.
    refine @ne_dot_of_mem_parts path p ?_
    rw [split]
    split at hp
    · next absolute =>
      rw [if_pos absolute]
      exact List.mem_append_left _ hp
    · next relative =>
      rw [if_neg relative]
      cases hfront : before.reverse with
      | nil =>
        rw [hfront] at hp
        exact absurd hp List.not_mem_nil
      | cons first rest =>
        rw [hfront] at hp
        exact List.mem_append_left _ hp

/-- A name below a directory comes last among the parts. -/
theorem parts_join {dir name : String} (hdir : dir ≠ "") (h : IsPlain name) :
    parts (join dir name) = parts dir ++ [name] := by
  obtain ⟨before, joined, hnames⟩ := names_join hdir h.slashless
  rw [parts, parts, joined]
  cases before with
  | nil =>
    rcases hnames with none | alone
    · exact absurd (List.map_eq_nil_iff.1 none) (Text.pieces_ne_nil _ _)
    · exact absurd (eq_empty_of_names alone) hdir
  | cons first rest =>
    rcases hnames with hn | hn
    · rw [hn]
      simp [h.ne]
    · rw [hn]
      simp [h.ne]

/-- The parent of a name below a directory is the directory, written with its parts. -/
theorem parent?_join {dir name : String} (hdir : dir ≠ "") (h : IsPlain name) :
    parent? (join dir name) = some (ofParts (isAbsolute dir) (parts dir)) := by
  rw [parent?, parts_join hdir h, isAbsolute_join hdir h.slashless, List.reverse_append]
  simp

/-- The parent of a name alone is empty. -/
theorem parent?_plain {name : String} (h : IsPlain name) : parent? name = some "" := by
  have alone : parts name = [name] := by
    rw [parts, names_of_slashless h.slashless]
    simp [h.ne.1]
  rw [parent?, alone, isAbsolute_of_slashless h.slashless]
  rfl

/-- Names below the same directory have the same parent. -/
theorem parent?_join_congr (dir : String) {a b : String} (ha : IsPlain a) (hb : IsPlain b) :
    parent? (join dir a) = parent? (join dir b) := by
  by_cases hdir : dir = ""
  · have joined (name : String) : join dir name = name := by simp [hdir, join]
    rw [joined, joined, parent?_plain ha, parent?_plain hb]
  · rw [parent?_join hdir ha, parent?_join hdir hb]

end Path

/-! ## Locations -/

namespace Tree

/-- Where a name leads from a location, if everything is there. -/
def stepTo (location : Location) (name : String) : Location :=
  if name = "" || name = "." then location
  else if name = ".." then location.tail
  else name :: location

/-- Where names lead from a location, if everything is there. -/
def walk (location : Location) (names : List String) : Location := names.foldl stepTo location

/-- The location that a path spells. -/
def place (t : Tree) (path : String) : Location := walk (t.start path) (Path.names path)

theorem walk_append (location : Location) (names more : List String) :
    walk location (names ++ more) = walk (walk location names) more := by
  rw [walk, List.foldl_append, walk, walk]

theorem stepTo_plain {name : String} (h : isDots name = false) (location : Location) :
    stepTo location name = name :: location := by
  simp only [isDots, Bool.or_eq_false_iff, decide_eq_false_iff_not] at h
  simp [stepTo, h.1.1, h.1.2, h.2]

/-- The location of a path depends on the current directory alone. -/
theorem place_congr {t t' : Tree} (h : t'.here = t.here) (path : String) :
    t'.place path = t.place path := by
  rw [place, place, start, start, h]

/-- A path below another one spells a location below the other's. -/
theorem place_join (t : Tree) (dir : String) {name : String} (h : '/' ∉ name.toList) :
    t.place (Path.join dir name) = stepTo (t.place dir) name := by
  by_cases hdir : dir = ""
  · have joined : Path.join "" name = name := by simp [Path.join]
    have relative := Path.isAbsolute_of_slashless h
    rw [hdir, joined, place, place, Path.names_of_slashless h, start, relative]
    rfl
  · obtain ⟨before, hjoin, hnames⟩ := Path.names_join hdir h
    -- A slash at the end of the directory leaves an empty name, which leads nowhere else.
    have leads : walk (t.start dir) (Path.names dir) = walk (t.start dir) before := by
      rcases hnames with hn | hn
      · rw [hn]
      · rw [hn, walk_append]
        rfl
    have same : t.start (Path.join dir name) = t.start dir := by
      rw [start, start, Path.isAbsolute_join hdir h]
    rw [place, place, same, hjoin, walk_append, leads]
    rfl

/-- The names that are no parts of a path stay where they are. -/
theorem walk_filter (location : Location) (names : List String) :
    walk location (names.filter fun name => name ≠ "" && name ≠ ".") = walk location names := by
  induction names generalizing location with
  | nil => rfl
  | cons name rest ih =>
    by_cases hname : name = "" ∨ name = "."
    · have same : stepTo location name = location := by
        rcases hname with rfl | rfl <;> rfl
      have dropped : (name ≠ "" && name ≠ ".") = false := by
        rcases hname with rfl | rfl <;> rfl
      rw [List.filter_cons, dropped, if_neg (by decide), ih, walk, walk, List.foldl_cons, same]
    · have kept : (name ≠ "" && name ≠ ".") = true := by simpa using hname
      rw [List.filter_cons, if_pos kept]
      exact ih _

/-- The slashes that may follow the name of a directory do not count. -/
theorem walk_slashes (location : Location) {slashes : List String} (empty : ∀ s ∈ slashes, s = "") :
    walk location slashes = location := by
  have none : (slashes.filter fun name => name ≠ "" && name ≠ ".") = [] := by
    refine List.filter_eq_nil_iff.2 fun s hs => ?_
    simp [empty s hs]
  rw [← walk_filter, none, walk, List.foldl_nil]

/-- A path leads where its parts lead. -/
theorem place_eq_walk_parts (t : Tree) (path : String) :
    t.place path = walk (t.start path) (Path.parts path) := by
  rw [place, Path.parts]
  cases hn : Path.names path with
  | nil => rfl
  | cons first rest =>
    dsimp only
    rw [walk_append, walk_filter]
    split
    · next hfirst =>
      rw [hfirst]
      rfl
    · rfl

/-- The path with parts leads where the parts lead. -/
theorem place_ofParts (t : Tree) {isAbsolute : Bool} {parts : List String}
    (h : ∀ p ∈ parts, '/' ∉ p.toList ∧ p ≠ "") :
    t.place (Path.ofParts isAbsolute parts) = walk (if isAbsolute then [] else t.here) parts := by
  rw [place, start, Path.isAbsolute_ofParts h]
  cases parts with
  | nil => cases isAbsolute <;> rfl
  | cons part parts =>
    rw [Path.names_ofParts fun p hp => (h p hp).1]
    cases isAbsolute <;> rfl

/-- A path above another one leads where the first of its parts lead. -/
theorem place_of_mem_ancestors (t : Tree) {path above : String} (h : above ∈ Path.ancestors path) :
    ∃ n, t.place above = walk (t.start path) ((Path.parts path).take n) := by
  rw [Path.ancestors] at h
  split at h
  · exact absurd h List.not_mem_nil
  rcases List.mem_cons.1 h with rfl | h
  · refine ⟨(Path.parts above).length, ?_⟩
    rw [List.take_length]
    exact place_eq_walk_parts t above
  · obtain ⟨n, -, rfl⟩ := List.mem_map.1 h
    refine ⟨n + 1, place_ofParts t fun p hp => ?_⟩
    have part := List.mem_of_mem_take hp
    exact ⟨Path.slashless_of_mem_parts part, Path.ne_of_mem_parts part⟩

/-- Without two dots, names lead no further up. -/
theorem length_le_walk {names : List String} (dotless : ".." ∉ names) (location : Location) :
    location.length ≤ (walk location names).length := by
  induction names generalizing location with
  | nil => exact Nat.le_refl _
  | cons name names ih =>
    rw [List.mem_cons, not_or] at dotless
    have step : location.length ≤ (stepTo location name).length := by
      rw [stepTo, if_neg (Ne.symm dotless.1)]
      split
      · exact Nat.le_refl _
      · exact Nat.le_succ _
    exact Nat.le_trans step (ih dotless.2 _)

/-- Without two dots, a path above a directory leads to nothing that is in the directory. -/
theorem place_ne_of_mem_ancestors (t : Tree) {dir above : String} (dotless : ".." ∉ Path.parts dir)
    (h : above ∈ Path.ancestors dir) (name : String) : t.place above ≠ name :: t.place dir := by
  obtain ⟨n, hn⟩ := place_of_mem_ancestors t h
  have down : ".." ∉ (Path.parts dir).drop n := fun dots => dotless (List.mem_of_mem_drop dots)
  have leads : t.place dir = walk (t.place above) ((Path.parts dir).drop n) := by
    rw [hn, ← walk_append, List.take_append_drop, place_eq_walk_parts]
  intro same
  have shorter := length_le_walk down (t.place above)
  rw [← leads, same, List.length_cons] at shorter
  omega

/-- The parent of a path spells the location from which its last part leads on. -/
theorem place_parent? (t : Tree) {path dir : String} (h : Path.parent? path = some dir) :
    ∃ last, (Path.parts path).getLast? = some last ∧ '/' ∉ last.toList ∧ last ≠ "" ∧
      t.place path = stepTo (t.place dir) last := by
  rw [Path.parent?] at h
  split at h
  · cases h
  · next last before hparts =>
    have parts : Path.parts path = before.reverse ++ [last] := by
      rw [← List.reverse_reverse (Path.parts path), hparts, List.reverse_cons]
    have each (p : String) (hp : p ∈ before.reverse ++ [last]) : '/' ∉ p.toList ∧ p ≠ "" := by
      rw [← parts] at hp
      exact ⟨Path.slashless_of_mem_parts hp, Path.ne_of_mem_parts hp⟩
    have above := @place_ofParts t (Path.isAbsolute path) _
      fun p hp => each p (List.mem_append_left _ hp)
    obtain ⟨slashless, nonempty⟩ := each last (List.mem_append_right _ List.mem_cons_self)
    cases h
    refine ⟨last, by rw [parts, List.getLast?_concat], slashless, nonempty, ?_⟩
    rw [place_eq_walk_parts, parts, walk_append, above]
    rfl

/-- A path whose last part is a name has a parent and spells a location in it. -/
theorem place_fileName? (t : Tree) {path name : String} (h : Path.fileName? path = some name) :
    ∃ dir, Path.parent? path = some dir ∧ Path.IsPlain name ∧ t.place path = name :: t.place dir := by
  obtain ⟨hlast, hname⟩ := Option.filter_eq_some_iff.1 h
  obtain ⟨before, hparts⟩ := List.getLast?_eq_some_iff.1 hlast
  have parent : Path.parent? path = some (Path.ofParts (Path.isAbsolute path) before) := by
    rw [Path.parent?, hparts, List.reverse_append]
    simp
  obtain ⟨last, hlast', slashless, nonempty, leads⟩ := place_parent? t parent
  cases hlast.symm.trans hlast'
  have named : isDots name = false := by
    simp only [ne_eq, Bool.and_eq_true, decide_eq_true_eq] at hname
    simp [isDots, nonempty, hname.1, hname.2]
  exact ⟨_, parent, ⟨slashless, named⟩, by rw [leads, stepTo_plain named]⟩

/-- The directories above a name in a directory are those above the directory and the directory itself. -/
theorem exists_ancestor_of_parent? (t : Tree) {dir name parent above : String} (plain : Path.IsPlain name)
    (hparent : Path.parent? (Path.join dir name) = some parent) (h : above ∈ Path.ancestors parent) :
    ∃ same ∈ Path.ancestors dir, t.place above = t.place same := by
  by_cases hdir : dir = ""
  · -- A name alone has an empty parent, above which nothing is.
    have joined : Path.join dir name = name := by simp [hdir, Path.join]
    rw [joined, Path.parent?_plain plain] at hparent
    cases hparent
    exact absurd h List.not_mem_nil
  · rw [Path.parent?_join hdir plain] at hparent
    cases hparent
    have each (p : String) (hp : p ∈ Path.parts dir) : '/' ∉ p.toList ∧ p ≠ "" :=
      ⟨Path.slashless_of_mem_parts hp, Path.ne_of_mem_parts hp⟩
    have parts := Path.parts_ofParts each fun p hp => Path.ne_dot_of_mem_parts hp
    rw [Path.ancestors] at h ⊢
    rw [parts, Path.isAbsolute_ofParts each] at h
    rw [if_neg (by simpa using hdir)]
    split at h
    · exact absurd h List.not_mem_nil
    rcases List.mem_cons.1 h with rfl | further
    · refine ⟨dir, List.mem_cons_self, ?_⟩
      rw [place_ofParts t each, place_eq_walk_parts, start]
    · exact ⟨above, List.mem_cons_of_mem _ further, rfl⟩

/-- A file and its draft lie side by side. -/
theorem place_draftOf (t : Tree) {path name : String} (h : Path.fileName? path = some name) :
    ∃ dir, Path.parent? path = some dir ∧ t.place path = name :: t.place dir ∧
      t.place (draftOf path) = (name ++ ".tmp") :: t.place dir := by
  obtain ⟨dir, parent, plain, leads⟩ := place_fileName? t h
  have draft : Path.IsPlain (name ++ ".tmp") := Path.IsPlain.append plain.slashless (by decide) (by decide)
  refine ⟨dir, parent, leads, ?_⟩
  rw [draftOf, Path.withName, parent, h, Option.getD_some]
  rw [place_join t dir draft.slashless, stepTo_plain draft.named]

end Tree

end Fixtures.Files
