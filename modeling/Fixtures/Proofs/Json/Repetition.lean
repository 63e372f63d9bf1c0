import Fixtures.Json.Reader

/-!
# Repeated keys

A text may write a key of an object more than once. `listed` reads a value and keeps the members of objects as they
are written, repeated keys included; `merged` leaves each key once, in its first place and with its last value
(`keys_unrepeated`, `lookup_unrepeated`), at every level. The reader of values does both at once: `value_eq_merged`.
-/

namespace Fixtures.Json

/-! ## Members written more than once -/

/-- Members without repetition: a key keeps its first place and its last value. -/
def unrepeated {α : Type} (members : List (String × α)) : List (String × α) :=
  members.foldl (fun kept member => setMember kept member.1 member.2) []

theorem unrepeated_concat {α : Type} (members : List (String × α)) (key : String) (value : α) :
    unrepeated (members ++ [(key, value)]) = setMember (unrepeated members) key value := by
  rw [unrepeated, List.foldl_append]
  rfl

/-- The keys come in the order of their first places. -/
theorem keys_unrepeated {α : Type} (members : List (String × α)) :
    (unrepeated members).map (·.1) = (members.map (·.1)).eraseDups := by
  have grow (more kept : List (String × α)) (names : List String) (h : kept.map (·.1) = names.eraseDups) :
      (more.foldl (fun kept member => setMember kept member.1 member.2) kept).map (·.1) =
        (names ++ more.map (·.1)).eraseDups := by
    induction more generalizing kept names with
    | nil => simpa using h
    | cons member more ih =>
      have first : (setMember kept member.1 member.2).map (·.1) = (names ++ [member.1]).eraseDups := by
        rw [keys_setMember, h, List.eraseDups_append]
        by_cases known : member.1 ∈ names <;>
          simp [known, List.removeAll, List.mem_eraseDups, List.eraseDups_cons]
      rw [List.foldl_cons, ih _ _ first, List.map_cons, List.append_assoc, List.singleton_append]
  exact grow members [] [] rfl

/-- The value of a key is the last that is written. -/
theorem lookup_unrepeated {α : Type} (members : List (String × α)) (key : String) :
    (unrepeated members).lookup key = members.reverse.lookup key := by
  have grow (more kept : List (String × α)) :
      (more.foldl (fun kept member => setMember kept member.1 member.2) kept).lookup key =
        (more.reverse.lookup key).or (kept.lookup key) := by
    induction more generalizing kept with
    | nil => simp
    | cons member more ih =>
      obtain ⟨name, value⟩ := member
      rw [List.foldl_cons, ih, List.reverse_cons, List.lookup_append]
      by_cases same : name = key
      · rw [same, lookup_setMember_self]
        simp
      · rw [lookup_setMember_ne kept value same]
        simp [List.lookup_cons, beq_false_of_ne (Ne.symm same)]
  rw [unrepeated, grow, List.lookup_nil, Option.or_none]

/-! ## Values -/

mutual

/-- A value in which no object has a key twice: at every level, a key keeps its first place and its last value. -/
def merged : Json → Json
  | array items => array (mergedItems items)
  | object members => object (unrepeated (mergedMembers members))
  | v => v

/-- The items without repeated keys in them. -/
def mergedItems : List Json → List Json
  | [] => []
  | item :: rest => item.merged :: mergedItems rest

/-- The members without repeated keys in their values. -/
def mergedMembers : List (String × Json) → List (String × Json)
  | [] => []
  | (key, value) :: rest => (key, value.merged) :: mergedMembers rest

end

theorem mergedItems_eq (items : List Json) : mergedItems items = items.map merged := by
  induction items with
  | nil => rfl
  | cons item rest ih => rw [mergedItems, ih, List.map_cons]

theorem mergedMembers_eq (members : List (String × Json)) :
    mergedMembers members = members.map fun member => (member.1, member.2.merged) := by
  induction members with
  | nil => rfl
  | cons member rest ih => rw [mergedMembers, ih, List.map_cons]

/-- An object without repeated keys: they are those that are written, in the order of their first places, and the
value of each is the last that is written, itself without repeated keys. -/
structure KeepsLast (written document : Document) : Prop where
  keys : document.map (·.1) = (written.map (·.1)).eraseDups
  value : ∀ key, document.lookup key = (written.reverse.lookup key).map merged

theorem keepsLast_merged (written : Document) : KeepsLast written (unrepeated (mergedMembers written)) := by
  have changed (members : Document) (key : String) :
      (mergedMembers members).lookup key = (members.lookup key).map merged := by
    induction members with
    | nil => rfl
    | cons member rest ih =>
      rw [mergedMembers, List.lookup_cons, List.lookup_cons, ih]
      split <;> rfl
  refine ⟨?_, fun key => ?_⟩
  · rw [keys_unrepeated, mergedMembers_eq, List.map_map]
    rfl
  · rw [lookup_unrepeated, ← changed, mergedMembers_eq, mergedMembers_eq, List.map_reverse]

/-! ## Reading them -/

/-- Reads the members of an object as they are written. -/
def listedMembers (value : List Char → Outcome Json) (rest : List Char) : Outcome (List (String × Json)) :=
  members
    (fun read k rest =>
      match value rest with
      | .ok (v, rest) => .ok (read ++ [(k, v)], rest)
      | .error f => .error f)
    (rest.length + 1) true [] rest

/-- Reads a value like `value` does, but keeps the members of objects as they are written. -/
def listed : (levels : Nat) → (rest : List Char) → Outcome Json
  | levels, rest =>
    match skipSpace rest with
    | '[' :: inside =>
      match levels with
      | 0 => .error (faultNext .recursionLimit ('[' :: inside))
      | levels + 1 => mapOutcome array (close arrayEnd (items (listed levels) (inside.length + 1) [] inside))
    | '\x7b' :: inside =>
      match levels with
      | 0 => .error (faultNext .recursionLimit ('\x7b' :: inside))
      | levels + 1 => mapOutcome object (close objectEnd (listedMembers (listed levels) inside))
    | _ => value levels rest

section Loops

variable {α β : Type} {f : α → β}

theorem mapOutcome_mapOutcome {γ : Type} (g : β → γ) (r : Outcome α) :
    mapOutcome g (mapOutcome f r) = mapOutcome (g ∘ f) r := by
  cases r <;> rfl

theorem close_mapOutcome (end_ : List Char → Outcome Unit) (r : Outcome α) :
    close end_ (mapOutcome f r) = mapOutcome f (close end_ r) := by
  rcases r with fault | ⟨a, rest⟩
  · simp only [close, mapOutcome]
    cases end_ fault.rest <;> rfl
  · simp only [close, mapOutcome]
    cases end_ rest <;> rfl

/-- Reading changed items is changing the items that are read. -/
theorem items_mapOutcome {item : List Char → Outcome α} {other : List Char → Outcome β}
    (each : ∀ rest, other rest = mapOutcome f (item rest)) (fuel : Nat) (read : List α) (rest : List Char) :
    items other fuel (read.map f) rest = mapOutcome (List.map f) (items item fuel read rest) := by
  induction fuel generalizing read rest with
  | zero => rfl
  | succ fuel ih =>
    rw [items, items, List.isEmpty_map]
    split
    · rfl
    · simp [mapOutcome]
    · next after _ =>
      rw [each]
      rcases item after with fault | ⟨a, more⟩
      · rfl
      · exact ih (a :: read) more

/-- Reading members into a changed state is changing the state that they are read into. -/
theorem members_mapOutcome {member : α → String → List Char → Outcome α}
    {other : β → String → List Char → Outcome β}
    (each : ∀ state key rest, other (f state) key rest = mapOutcome f (member state key rest)) (fuel : Nat)
    (first : Bool) (state : α) (rest : List Char) :
    members other fuel first (f state) rest = mapOutcome f (members member fuel first state rest) := by
  induction fuel generalizing first state rest with
  | zero => rfl
  | succ fuel ih =>
    rw [members, members]
    split
    · rfl
    · rfl
    · next key after _ =>
      split
      · rfl
      · next start _ =>
        rw [each]
        rcases member state key start with fault | ⟨next, more⟩
        · rfl
        · exact ih false next more

end Loops

/-- Where values are read as merged, members are read as those that are written, without repetition. -/
theorem valueMembers_eq_merged {reader other : List Char → Outcome Json}
    (each : ∀ rest, reader rest = mapOutcome merged (other rest)) (rest : List Char) :
    valueMembers reader rest =
      mapOutcome (fun written => unrepeated (mergedMembers written)) (listedMembers other rest) := by
  rw [valueMembers, listedMembers]
  refine @members_mapOutcome _ _ (fun written => unrepeated (mergedMembers written)) _ _
    (fun written key start => ?_) (rest.length + 1) true [] rest
  rw [each]
  rcases other start with fault | ⟨v, more⟩
  · rfl
  · have last : mergedMembers (written ++ [(key, v)]) = mergedMembers written ++ [(key, v.merged)] := by
      simp [mergedMembers_eq]
    simp only [mapOutcome, last, unrepeated_concat]

section Containers

variable {levels : Nat} {rest inside : List Char}

theorem value_bracket (h : skipSpace rest = '[' :: inside) :
    value (levels + 1) rest =
      mapOutcome array (close arrayEnd (items (value levels) (inside.length + 1) [] inside)) := by
  rw [value, h]
  rfl

theorem value_brace (h : skipSpace rest = '\x7b' :: inside) :
    value (levels + 1) rest = mapOutcome object (close objectEnd (valueMembers (value levels) inside)) := by
  rw [value, h]
  rfl

end Containers

/-- Reading what is no array and no object, nothing is repeated. -/
theorem value_of_plain {levels : Nat} {rest : List Char} (noArray : ∀ inside, skipSpace rest ≠ '[' :: inside)
    (noObject : ∀ inside, skipSpace rest ≠ '\x7b' :: inside) :
    value levels rest = mapOutcome merged (value levels rest) := by
  have numeral : merged ∘ value.ofNumeral = value.ofNumeral := by
    funext n
    cases n <;> rfl
  rw [value]
  split
  · rfl
  · rw [mapOutcome_mapOutcome]
    rfl
  · rw [mapOutcome_mapOutcome]
    rfl
  · rw [mapOutcome_mapOutcome]
    rfl
  · rw [mapOutcome_mapOutcome]
    rfl
  · rw [mapOutcome_mapOutcome, numeral]
  · next inside h => exact absurd h (noArray inside)
  · next inside h => exact absurd h (noObject inside)
  · split
    · rw [mapOutcome_mapOutcome, numeral]
    · rfl

/-- A value is read as it is written, with every key kept once. -/
theorem value_eq_merged (levels : Nat) (rest : List Char) :
    value levels rest = mapOutcome merged (listed levels rest) := by
  induction levels generalizing rest with
  | zero =>
    rw [listed]
    split
    · next inside h =>
      rw [value, h]
      rfl
    · next inside h =>
      rw [value, h]
      rfl
    · next noArray noObject => exact value_of_plain noArray noObject
  | succ levels ih =>
    rw [listed]
    split
    · next inside h =>
      have read := items_mapOutcome ih (inside.length + 1) [] inside
      rw [List.map_nil] at read
      rw [value_bracket h, read, close_mapOutcome, mapOutcome_mapOutcome, mapOutcome_mapOutcome]
      congr 1
      funext written
      simp [merged, mergedItems_eq]
    · next inside h =>
      rw [value_brace h, valueMembers_eq_merged ih, close_mapOutcome, mapOutcome_mapOutcome, mapOutcome_mapOutcome]
      rfl
    · next noArray noObject => exact value_of_plain noArray noObject

/-- Reads a text that holds one value, and keeps the members of objects as they are written. -/
def listing (text : String) : Except ReadError Json := readAll (listed depthLimit) text.toList

/-- A text is read as it is written, with every key kept once. -/
theorem parse_eq_merged (text : String) : parse text = (listing text).map merged := by
  rw [parse, listing, readAll, readAll, value_eq_merged]
  rcases listed depthLimit text.toList with fault | ⟨v, rest⟩
  · rfl
  · simp only [mapOutcome]
    split <;> rfl

end Fixtures.Json
