import Mathlib.Algebra.Ring.Int.Defs
import Fixtures.Json.Value
import Fixtures.Script.Value

/-!
# Regular values

A JSON value that a program holds is regular: its integers fit 64 bits, with a sign or without one, and no
object has a key twice. What scripts answer is regular, since script integers have 64 bits and objects are
built member by member. Regular values without doubles are the ones that document files keep exactly.

## Shape of the predicates

`Json.Regular` and `Json.Floatless` descend to every level; `regularItems_iff` and the lemmas beside it say
what they mean for the items and members of one level.
-/

namespace Fixtures.Json

/-- Whether an integer fits 64 bits, with a sign or without one. -/
def FitsWord (n : Int) : Prop := -(2 ^ 63 : Int) ≤ n ∧ n < 2 ^ 64

mutual

/-- A value whose integers fit 64 bits and whose objects have no key twice. -/
def Regular : Json → Prop
  | int n => FitsWord n
  | array items => RegularItems items
  | object members => (members.map (·.1)).Nodup ∧ RegularMembers members
  | _ => True

/-- Values each of which is regular. -/
def RegularItems : List Json → Prop
  | [] => True
  | item :: rest => item.Regular ∧ RegularItems rest

/-- Members each value of which is regular. -/
def RegularMembers : List (String × Json) → Prop
  | [] => True
  | (_, value) :: rest => value.Regular ∧ RegularMembers rest

end

mutual

/-- A value that holds no double at any level. -/
def Floatless : Json → Prop
  | float _ => False
  | array items => FloatlessItems items
  | object members => FloatlessMembers members
  | _ => True

/-- Values none of which holds a double. -/
def FloatlessItems : List Json → Prop
  | [] => True
  | item :: rest => item.Floatless ∧ FloatlessItems rest

/-- Members none of which holds a double. -/
def FloatlessMembers : List (String × Json) → Prop
  | [] => True
  | (_, value) :: rest => value.Floatless ∧ FloatlessMembers rest

end

/-! ## One level -/

theorem regularItems_iff {items : List Json} :
    RegularItems items ↔ ∀ item ∈ items, item.Regular := by
  induction items with
  | nil => simp [RegularItems]
  | cons item rest ih => simp [RegularItems, ih]

theorem regularMembers_iff {members : List (String × Json)} :
    RegularMembers members ↔ ∀ member ∈ members, member.2.Regular := by
  induction members with
  | nil => simp [RegularMembers]
  | cons member rest ih => simp [RegularMembers, ih]

theorem floatlessItems_iff {items : List Json} :
    FloatlessItems items ↔ ∀ item ∈ items, item.Floatless := by
  induction items with
  | nil => simp [FloatlessItems]
  | cons item rest ih => simp [FloatlessItems, ih]

theorem floatlessMembers_iff {members : List (String × Json)} :
    FloatlessMembers members ↔ ∀ member ∈ members, member.2.Floatless := by
  induction members with
  | nil => simp [FloatlessMembers]
  | cons member rest ih => simp [FloatlessMembers, ih]

theorem depthItems_le_iff {items : List Json} {levels : Nat} :
    depthItems items ≤ levels ↔ ∀ item ∈ items, item.depth ≤ levels := by
  induction items with
  | nil => simp [depthItems]
  | cons item rest ih =>
    rw [depthItems, Nat.max_le, ih, List.forall_mem_cons]

theorem depthMembers_le_iff {members : List (String × Json)} {levels : Nat} :
    depthMembers members ≤ levels ↔ ∀ member ∈ members, member.2.depth ≤ levels := by
  induction members with
  | nil => simp [depthMembers]
  | cons member rest ih =>
    rw [depthMembers, Nat.max_le, ih, List.forall_mem_cons]

/-! ## Setting members -/

/-- Setting a member of an object brings in no key twice. -/
theorem nodup_keys_setMember {α : Type} {members : List (String × α)}
    (distinct : (members.map (·.1)).Nodup) (key : String) (value : α) :
    ((setMember members key value).map (·.1)).Nodup := by
  rw [keys_setMember]
  split
  · exact distinct
  · next fresh =>
    refine List.nodup_append.2 ⟨distinct, by simp, ?_⟩
    intro k hk k' hk'
    simp only [List.mem_singleton] at hk'
    rintro rfl
    exact fresh (hk' ▸ hk)

/-- A member after setting one is the one that was set or was there before. -/
theorem mem_setMember {α : Type} {members : List (String × α)} {key : String} {value : α}
    {member : String × α} (h : member ∈ setMember members key value) :
    member = (key, value) ∨ member ∈ members := by
  induction members with
  | nil => simpa [setMember] using h
  | cons head rest ih =>
    obtain ⟨k, v⟩ := head
    rw [setMember] at h
    split at h
    · next same =>
      rcases List.mem_cons.1 h with rfl | h
      · exact .inl (by rw [same])
      · exact .inr (List.mem_cons_of_mem _ h)
    · rcases List.mem_cons.1 h with rfl | h
      · exact .inr List.mem_cons_self
      · exact (ih h).imp_right (List.mem_cons_of_mem _)

/-- A new member comes last. -/
theorem setMember_of_not_mem {α : Type} {members : List (String × α)} {key : String}
    (fresh : key ∉ members.map (·.1)) (value : α) :
    setMember members key value = members ++ [(key, value)] := by
  induction members with
  | nil => rfl
  | cons head rest ih =>
    obtain ⟨k, v⟩ := head
    simp only [List.map_cons, List.mem_cons, not_or] at fresh
    rw [setMember, if_neg (Ne.symm fresh.1), ih fresh.2, List.cons_append]

/-- Setting a regular value keeps an object regular. -/
theorem Regular.setMember {members : Document} (h : (object members).Regular) (key : String)
    {value : Json} (hvalue : value.Regular) : (object (setMember members key value)).Regular := by
  have hmembers := regularMembers_iff.1 h.2
  refine ⟨nodup_keys_setMember h.1 key value, regularMembers_iff.2 ?_⟩
  intro member hmember
  rcases mem_setMember hmember with rfl | hmember
  · exact hvalue
  · exact hmembers member hmember

end Fixtures.Json

namespace Fixtures.Script.Value

open Fixtures.Json (Regular RegularItems FitsWord)

/-- The integers of scripts fit 64 bits. -/
theorem fitsWord_toInt (n : Int64) : FitsWord n.toInt := by
  have least := n.le_toInt
  have greatest := n.toInt_lt
  exact ⟨least, by omega⟩

mutual

/-- What a document holds of a script value is regular. -/
theorem regular_toJson (v : Value) : v.toJson.Regular := by
  cases v with
  | int n => exact fitsWord_toInt n
  | float x =>
    rw [toJson]
    split <;> trivial
  | array items => exact regular_itemsToJson items
  | map members =>
    have nothing : (Json.object []).Regular := ⟨List.nodup_nil, trivial⟩
    exact regular_membersToJson nothing members
  | _ => trivial

theorem regular_itemsToJson (items : List Value) : RegularItems (itemsToJson items) := by
  cases items with
  | nil => trivial
  | cons item rest => exact ⟨regular_toJson item, regular_itemsToJson rest⟩

theorem regular_membersToJson {read : Document} (h : (Json.object read).Regular)
    (members : List (String × Value)) : (Json.object (membersToJson read members)).Regular := by
  cases members with
  | nil => exact h
  | cons member rest =>
    obtain ⟨name, value⟩ := member
    exact regular_membersToJson (h.setMember name (regular_toJson value)) rest

end

end Fixtures.Script.Value
