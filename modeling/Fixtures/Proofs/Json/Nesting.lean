import Fixtures.Proofs.Json.RoundTrip

/-!
# Values that nest too deep

The reader of values refuses the text of a value that nests deeper than it may open arrays and objects, and
names that as the cause: `value_tooDeep`. With `value_pretty` this makes the limit exact for the values that are
kept, and `decodeAll_documentsText_tooDeep` says so of document files.

## Shape of the argument

What stands before the first part that nests too deep is read as it was written; there the reader fails. The
loops over items and members hand this failure on, and so do the ends of the containers around it, since the
cause of a fault stays when its place is told.
-/

namespace Fixtures.Json

/-- A reading that fails because too many arrays and objects would be open. -/
def TooDeep {α : Type} (r : Outcome α) : Prop := ∃ f, r = .error f ∧ f.cause = .recursionLimit

namespace TooDeep

variable {α β : Type} {r : Outcome α}

theorem close (h : TooDeep r) (end_ : List Char → Outcome Unit) : TooDeep (close end_ r) := by
  obtain ⟨f, rfl, cause⟩ := h
  rw [Json.close]
  split
  · exact ⟨_, rfl, cause⟩
  · exact ⟨_, rfl, cause⟩

/-- What would be read next is not reached. -/
theorem bind (h : TooDeep r) (next : α × List Char → Outcome β) : TooDeep (r.bind next) := by
  obtain ⟨f, rfl, cause⟩ := h
  exact ⟨f, rfl, cause⟩

theorem mapOutcome (h : TooDeep r) (g : α → β) : TooDeep (mapOutcome g r) := by
  obtain ⟨f, rfl, cause⟩ := h
  exact ⟨f, rfl, cause⟩

theorem settle (h : TooDeep r) : TooDeep (settle r) := by
  obtain ⟨f, rfl, cause⟩ := h
  refine ⟨f.settle, rfl, ?_⟩
  rw [Fault.settle]
  split
  · exact cause
  · exact cause

end TooDeep

/-- A reader of parts, each written as a text, that reads the parts that fit and finds all others too deep. -/
structure ReadsFitting {α β : Type} (reader : List Char → Outcome β) (text : α → List Char) (value : α → β)
    (fits : α → Prop) (parts : List α) : Prop where
  read : ∀ x ∈ parts, fits x → ∀ rest, EndsNumeral rest → reader (text x ++ rest) = .ok (value x, rest)
  deep : ∀ x ∈ parts, ¬ fits x → ∀ rest, EndsNumeral rest → TooDeep (reader (text x ++ rest))

theorem ReadsFitting.tail {α β : Type} {reader : List Char → Outcome β} {text : α → List Char}
    {value : α → β} {fits : α → Prop} {x : α} {parts : List α}
    (h : ReadsFitting reader text value fits (x :: parts)) : ReadsFitting reader text value fits parts :=
  ⟨fun y hy => h.read y (List.mem_cons_of_mem _ hy), fun y hy => h.deep y (List.mem_cons_of_mem _ hy)⟩

/-- If the first part fits, the one that does not comes later. -/
theorem exists_later {α : Type} {fits : α → Prop} {x : α} {parts : List α}
    (unfit : ∃ y ∈ x :: parts, ¬ fits y) (first : fits x) : ∃ y ∈ parts, ¬ fits y := by
  obtain ⟨y, hy, deep⟩ := unfit
  rcases List.mem_cons.1 hy with rfl | hy
  · exact absurd first deep
  · exact ⟨y, hy, deep⟩

/-! ## Arrays -/

section Items

variable {α : Type} {item : List Char → Outcome α} {toJson : α → Json} {fits : α → Prop} {level : Nat}
  {xs : List α}

/-- The items after the first are read up to the one that nests too deep. -/
theorem items_tooDeep
    (h : ReadsFitting item (fun x => (toJson x).prettyChars (level + 1)) id fits xs)
    (floatless : ∀ x ∈ xs, (toJson x).Floatless) (unfit : ∃ x ∈ xs, ¬ fits x)
    {read : List α} (more : read.isEmpty = false) {fuel : Nat} (enough : xs.length ≤ fuel)
    (rest : List Char) :
    TooDeep (items item fuel read (prettyItems level (xs.map toJson) ++ rest)) := by
  induction xs generalizing read fuel with
  | nil =>
    obtain ⟨x, hx, -⟩ := unfit
    exact absurd hx List.not_mem_nil
  | cons x xs ih =>
    obtain ⟨fuel, rfl⟩ : ∃ less, fuel = less + 1 := ⟨fuel - 1, by simp at enough; omega⟩
    have ends := endsNumeral_prettyItems level (xs.map toJson) rest
    rw [List.map_cons, items_next (floatless x List.mem_cons_self) more]
    by_cases shallow : fits x
    · rw [h.read x List.mem_cons_self shallow _ ends]
      exact ih h.tail (fun y hy => floatless y (List.mem_cons_of_mem _ hy)) (exists_later unfit shallow) rfl
        (by simpa using enough)
    · exact (h.deep x List.mem_cons_self shallow _ ends).bind _

/-- An array is read up to the item that nests too deep. -/
theorem array_tooDeep
    (h : ReadsFitting item (fun x => (toJson x).prettyChars (level + 1)) id fits xs)
    (floatless : ∀ x ∈ xs, (toJson x).Floatless) (unfit : ∃ x ∈ xs, ¬ fits x) (rest : List Char) :
    ∃ text, (array (xs.map toJson)).prettyChars level ++ rest = '[' :: text ∧
      TooDeep (close arrayEnd (items item (text.length + 1) [] text)) := by
  cases xs with
  | nil =>
    obtain ⟨x, hx, -⟩ := unfit
    exact absurd hx List.not_mem_nil
  | cons x xs =>
    have ends := endsNumeral_prettyItems level (xs.map toJson) rest
    have long := length_le_prettyItems level (xs.map toJson)
    rw [List.length_map] at long
    refine ⟨newline (level + 1) ++ ((toJson x).prettyChars (level + 1) ++ (prettyItems level (xs.map toJson) ++ rest)),
      by simp [prettyChars], ?_⟩
    apply TooDeep.close
    rw [items_first (floatless x List.mem_cons_self)]
    by_cases shallow : fits x
    · rw [h.read x List.mem_cons_self shallow _ ends]
      refine items_tooDeep h.tail (fun y hy => floatless y (List.mem_cons_of_mem _ hy))
        (exists_later unfit shallow) rfl ?_ rest
      simp only [List.length_append]
      omega
    · exact (h.deep x List.mem_cons_self shallow _ ends).bind _

end Items

/-! ## Objects -/

section Members

variable {reader : List Char → Outcome Json} {fits : String × Json → Prop} {level : Nat}
  {ms : List (String × Json)}

/-- A member whose value nests too deep is not taken. -/
theorem TooDeep.takeMember {rest : List Char} (h : TooDeep (reader rest)) (state : Document) (key : String) :
    TooDeep (takeMember reader state key rest) := by
  obtain ⟨f, failed, cause⟩ := h
  refine ⟨f, ?_, cause⟩
  rw [Json.takeMember, failed]

/-- The members after the first are read up to the one whose value nests too deep. -/
theorem members_tooDeep
    (h : ReadsFitting reader (fun m => ' ' :: m.2.prettyChars (level + 1)) (·.2) fits ms)
    (unfit : ∃ m ∈ ms, ¬ fits m) {state : Document} {fuel : Nat} (enough : ms.length ≤ fuel)
    (rest : List Char) :
    TooDeep (members (takeMember reader) fuel false state (prettyMembers level ms ++ rest)) := by
  induction ms generalizing state fuel with
  | nil =>
    obtain ⟨m, hm, -⟩ := unfit
    exact absurd hm List.not_mem_nil
  | cons m ms ih =>
    obtain ⟨key, v⟩ := m
    obtain ⟨fuel, rfl⟩ : ∃ less, fuel = less + 1 := ⟨fuel - 1, by simp at enough; omega⟩
    have ends := endsNumeral_prettyMembers level ms rest
    rw [members_next]
    by_cases shallow : fits (key, v)
    · rw [takeMember, h.read (key, v) List.mem_cons_self shallow _ ends]
      exact ih h.tail (exists_later unfit shallow) (by simpa using enough)
    · exact ((h.deep (key, v) List.mem_cons_self shallow _ ends).takeMember state key).bind _

/-- An object is read up to the member whose value nests too deep. -/
theorem object_tooDeep
    (h : ReadsFitting reader (fun m => ' ' :: m.2.prettyChars (level + 1)) (·.2) fits ms)
    (unfit : ∃ m ∈ ms, ¬ fits m) (rest : List Char) :
    ∃ text, (object ms).prettyChars level ++ rest = '\x7b' :: text ∧
      TooDeep (close objectEnd (valueMembers reader text)) := by
  cases ms with
  | nil =>
    obtain ⟨m, hm, -⟩ := unfit
    exact absurd hm List.not_mem_nil
  | cons m ms =>
    obtain ⟨key, v⟩ := m
    have ends := endsNumeral_prettyMembers level ms rest
    have long := length_le_prettyMembers level ms
    refine ⟨newline (level + 1) ++ (quote key ++
      (':' :: (' ' :: v.prettyChars (level + 1) ++ (prettyMembers level ms ++ rest)))), by simp [prettyChars], ?_⟩
    apply TooDeep.close
    rw [valueMembers_eq, members_first]
    by_cases shallow : fits (key, v)
    · rw [takeMember, h.read (key, v) List.mem_cons_self shallow _ ends]
      refine members_tooDeep h.tail (exists_later unfit shallow) ?_ rest
      simp only [List.length_append, List.length_cons]
      omega
    · exact ((h.deep (key, v) List.mem_cons_self shallow _ ends).takeMember [] key).bind _

end Members

/-! ## Values -/

theorem exists_deep_item {items : List Json} {levels : Nat} (deep : levels < depthItems items) :
    ∃ item ∈ items, ¬ item.depth ≤ levels := by
  have notAll := mt depthItems_le_iff.2 (Nat.not_le.2 deep)
  simpa using notAll

theorem exists_deep_member {members : List (String × Json)} {levels : Nat}
    (deep : levels < depthMembers members) : ∃ m ∈ members, ¬ m.2.depth ≤ levels := by
  have notAll := mt depthMembers_le_iff.2 (Nat.not_le.2 deep)
  simpa using notAll

/-- A reader of values with so many levels finds too deep what nests deeper. -/
def FindsDeep (levels : Nat) : Prop :=
  ∀ (j : Json) (level : Nat) (rest : List Char), levels < j.depth → j.Regular → j.Floatless →
    EndsNumeral rest → TooDeep (value levels (j.prettyChars level ++ rest))

/-- The items of an array are read with the levels left for them. -/
theorem FindsDeep.items {levels : Nat} (finds : FindsDeep levels) {items : List Json} (level : Nat)
    (regular : (array items).Regular) (floatless : (array items).Floatless) :
    ReadsFitting (value levels) (fun item => (id item).prettyChars (level + 1)) id (·.depth ≤ levels) items where
  read item h shallow _ ends :=
    value_pretty (level + 1) shallow (regularItems_iff.1 regular item h) (floatlessItems_iff.1 floatless item h)
      ends
  deep item h deep rest ends :=
    finds item (level + 1) rest (Nat.not_le.1 deep) (regularItems_iff.1 regular item h)
      (floatlessItems_iff.1 floatless item h) ends

/-- The values of the members of an object are read with the levels left for them. -/
theorem FindsDeep.members {levels : Nat} (finds : FindsDeep levels) {members : Document} (level : Nat)
    (regular : (object members).Regular) (floatless : (object members).Floatless) :
    ReadsFitting (value levels) (fun m => ' ' :: m.2.prettyChars (level + 1)) (·.2) (·.2.depth ≤ levels)
      members where
  read m h shallow rest ends := by
    rw [List.cons_append, value_blank]
    exact value_pretty (level + 1) shallow (regularMembers_iff.1 regular.2 m h)
      (floatlessMembers_iff.1 floatless m h) ends
  deep m h deep rest ends := by
    rw [List.cons_append, value_blank]
    exact finds m.2 (level + 1) rest (Nat.not_le.1 deep) (regularMembers_iff.1 regular.2 m h)
      (floatlessMembers_iff.1 floatless m h) ends

/-- A value that nests deeper than the reader may open arrays and objects is refused for that. -/
theorem value_tooDeep (levels : Nat) : FindsDeep levels := by
  induction levels with
  | zero =>
    -- No array or object may be opened, and the value is one of them.
    intro j level rest deep _ _ _
    cases j with
    | array items =>
      obtain ⟨text, htext⟩ : ∃ text, (array items).prettyChars level ++ rest = '[' :: text := by
        cases items <;> exact ⟨_, rfl⟩
      rw [htext, value, skipSpace_cons (by decide)]
      exact ⟨_, rfl, rfl⟩
    | object members =>
      obtain ⟨text, htext⟩ : ∃ text, (object members).prettyChars level ++ rest = '\x7b' :: text := by
        cases members <;> exact ⟨_, rfl⟩
      rw [htext, value, skipSpace_cons (by decide)]
      exact ⟨_, rfl, rfl⟩
    | _ => exact absurd deep (Nat.lt_irrefl 0)
  | succ levels ih =>
    intro j level rest deep regular floatless _
    cases j with
    | array items =>
      have unfit := exists_deep_item (Nat.lt_of_succ_lt_succ deep)
      obtain ⟨text, htext, failed⟩ :=
        array_tooDeep (ih.items level regular floatless) (floatlessItems_iff.1 floatless) unfit rest
      rw [List.map_id] at htext
      rw [htext, value, skipSpace_cons (by decide)]
      exact failed.mapOutcome array
    | object members =>
      have unfit := exists_deep_member (Nat.lt_of_succ_lt_succ deep)
      obtain ⟨text, htext, failed⟩ := object_tooDeep (ih.members level regular floatless) unfit rest
      rw [htext, value, skipSpace_cons (by decide)]
      exact failed.mapOutcome object
    | _ => exact absurd deep (Nat.not_lt_zero _)

/-! ## Document files -/

/-- A document that nests deeper than its reader may open arrays and objects is refused for that. -/
theorem document_tooDeep {levels : Nat} {d : Document} (level : Nat) (deep : levels < (object d).depth)
    (regular : (object d).Regular) (floatless : (object d).Floatless) (rest : List Char) :
    TooDeep (document levels ((object d).prettyChars level ++ rest)) := by
  cases levels with
  | zero =>
    obtain ⟨text, htext⟩ : ∃ text, (object d).prettyChars level ++ rest = '\x7b' :: text := by
      cases d <;> exact ⟨_, rfl⟩
    rw [htext, document, skipSpace_cons (by decide)]
    exact ⟨_, rfl, rfl⟩
  | succ levels =>
    have unfit := exists_deep_member (Nat.lt_of_succ_lt_succ deep)
    obtain ⟨text, htext, failed⟩ :=
      object_tooDeep ((value_tooDeep levels).members level regular floatless) unfit rest
    rw [htext, document, skipSpace_cons (by decide)]
    exact failed.settle

/-- The text of a document file whose documents nest too deep is refused for that. -/
theorem decodeAll_documentsText_tooDeep {documents : List Document}
    (deep : depthLimit < (array (documents.map object)).depth)
    (regular : ∀ d ∈ documents, (object d).Regular)
    (floatless : ∀ d ∈ documents, (object d).Floatless) :
    ∃ e, decodeAll (list document) (Generation.documentsText documents) = .error e ∧
      e.cause = .recursionLimit := by
  obtain ⟨levels, limit⟩ : ∃ less, depthLimit = less + 1 := ⟨126, rfl⟩
  rw [depth, limit] at deep
  obtain ⟨item, hitem, deepItem⟩ := exists_deep_item (Nat.lt_of_succ_lt_succ deep)
  obtain ⟨d, hd, rfl⟩ := List.mem_map.1 hitem
  have reads : ReadsFitting (document levels) (fun d => (object d).prettyChars 1) id
      (fun d => (object d).depth ≤ levels) documents := by
    refine ⟨fun d h shallow rest _ => ?_, fun d h deep rest _ => ?_⟩
    · exact document_pretty 1 shallow (regular d h) (floatless d h) rest
    · exact document_tooDeep 1 (Nat.not_le.1 deep) (regular d h) (floatless d h) rest
  obtain ⟨text, htext, failed⟩ := @array_tooDeep _ _ _ _ 0 _ reads floatless ⟨d, hd, deepItem⟩ []
  obtain ⟨f, hf, cause⟩ := failed.settle
  rw [List.append_nil] at htext
  rw [decodeAll, readAll, Generation.documentsText, pretty, String.toList_ofList, htext, limit, list,
    skipSpace_cons (by decide)]
  simp only [hf]
  exact ⟨_, rfl, cause⟩

end Fixtures.Json
