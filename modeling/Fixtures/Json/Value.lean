/-!
# JSON values

A document is an object: a list of members in the order they were first set. Setting a key again
keeps its place and replaces its value (`setMember`), so the keys of an object built this way are
distinct.
-/

namespace Fixtures

/-- A JSON value. Numbers that fit a 64-bit integer are kept exact, all others are doubles. -/
inductive Json where
  | null
  | bool (b : Bool)
  | int (n : Int)
  | float (x : Float)
  | string (s : String)
  | array (items : List Json)
  | object (members : List (String × Json))
  deriving BEq, Inhabited

/-- A generated or stored record: the members of a JSON object. -/
abbrev Document := List (String × Json)

namespace Json

/-- Sets a member: the last value wins, the first place is kept. -/
def setMember {α : Type} (members : List (String × α)) (key : String) (value : α) :
    List (String × α) :=
  match members with
  | [] => [(key, value)]
  | (k, v) :: rest => if k = key then (k, value) :: rest else (k, v) :: setMember rest key value

/-- The keys after setting one: a new key comes last. -/
theorem keys_setMember {α : Type} (members : List (String × α)) (key : String) (value : α) :
    (setMember members key value).map (·.1) =
      if key ∈ members.map (·.1) then members.map (·.1) else members.map (·.1) ++ [key] := by
  induction members with
  | nil => simp [setMember]
  | cons kv rest ih =>
    obtain ⟨k, v⟩ := kv
    by_cases h : k = key
    · simp [setMember, h]
    · simp only [setMember, h, if_false, List.map_cons, ih, List.mem_cons, Ne.symm h, false_or]
      split <;> simp_all

/-- The value of a key that was set. -/
theorem lookup_setMember_self {α : Type} (members : List (String × α)) (key : String) (value : α) :
    (setMember members key value).lookup key = some value := by
  induction members with
  | nil => simp [setMember]
  | cons member rest ih =>
    obtain ⟨k, v⟩ := member
    by_cases h : k = key
    · simp [setMember, h]
    · rw [setMember, if_neg h, List.lookup_cons, beq_false_of_ne (Ne.symm h)]
      exact ih

/-- The values of other keys stay. -/
theorem lookup_setMember_ne {α : Type} (members : List (String × α)) {key other : String} (value : α)
    (h : key ≠ other) : (setMember members key value).lookup other = members.lookup other := by
  induction members with
  | nil => simp [setMember, Ne.symm h]
  | cons member rest ih =>
    obtain ⟨k, v⟩ := member
    by_cases hk : k = key
    · rw [setMember, if_pos hk, List.lookup_cons, List.lookup_cons, beq_false_of_ne (hk ▸ Ne.symm h)]
    · rw [setMember, if_neg hk, List.lookup_cons, List.lookup_cons, ih]

/-- The value of a key. -/
def member? (members : List (String × Json)) (key : String) : Option Json := members.lookup key

mutual

/-- How deep arrays and objects nest in a value. -/
def depth : Json → Nat
  | array items => depthItems items + 1
  | object members => depthMembers members + 1
  | _ => 0

/-- The greatest depth of some values. -/
def depthItems : List Json → Nat
  | [] => 0
  | item :: rest => max item.depth (depthItems rest)

/-- The greatest depth of the values of some members. -/
def depthMembers : List (String × Json) → Nat
  | [] => 0
  | (_, value) :: rest => max value.depth (depthMembers rest)

end

end Json

end Fixtures
