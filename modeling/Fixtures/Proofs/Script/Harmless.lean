import Fixtures.Script.Library

/-!
# Harmless values

The random stream of a script is reached through the fake values alone: the binding and its topics. A value is
harmless if it holds none of them at any level. What operators and the functions of the library make of harmless
values is harmless again, and so is what a script sees of a fault that it catches.

## Shape of the predicates

`Value.Harmless` descends to every level, and `harmless_array` and the lemmas beside it say what it means for one
level. A call is `Fair` if its value, and the new value of its first argument, are harmless.
-/

namespace Fixtures.Script

/-! ## Values -/

mutual

/-- A value that holds no fake value at any level. -/
def Value.Harmless : Value → Prop
  | .faker | .topic _ => False
  | .array items => HarmlessItems items
  | .map members => HarmlessMembers members
  | .function _ given => HarmlessItems given
  | _ => True

/-- Values each of which is harmless. -/
def HarmlessItems : List Value → Prop
  | [] => True
  | item :: rest => item.Harmless ∧ HarmlessItems rest

/-- Members each value of which is harmless. -/
def HarmlessMembers : List (String × Value) → Prop
  | [] => True
  | (_, value) :: rest => value.Harmless ∧ HarmlessMembers rest

end

theorem harmlessItems_iff {items : List Value} : HarmlessItems items ↔ ∀ v ∈ items, v.Harmless := by
  induction items with
  | nil => simp [HarmlessItems]
  | cons item rest ih => simp [HarmlessItems, ih]

theorem harmlessMembers_iff {members : List (String × Value)} :
    HarmlessMembers members ↔ ∀ m ∈ members, m.2.Harmless := by
  induction members with
  | nil => simp [HarmlessMembers]
  | cons member rest ih => simp [HarmlessMembers, ih]

namespace Value

@[simp] theorem harmless_unit : unit.Harmless := trivial

@[simp] theorem harmless_bool (b : Bool) : (bool b).Harmless := trivial

@[simp] theorem harmless_int (n : Int64) : (int n).Harmless := trivial

@[simp] theorem harmless_float (x : Float) : (float x).Harmless := trivial

@[simp] theorem harmless_char (c : Char) : (char c).Harmless := trivial

@[simp] theorem harmless_string (s : String) : (string s).Harmless := trivial

@[simp] theorem harmless_range (first last : Int64) (closed : Bool) : (range first last closed).Harmless := trivial

@[simp] theorem harmless_cell (address : Nat) : (cell address).Harmless := trivial

@[simp] theorem harmless_array {items : List Value} : (array items).Harmless ↔ ∀ v ∈ items, v.Harmless :=
  harmlessItems_iff

@[simp] theorem harmless_map {members : List (String × Value)} :
    (map members).Harmless ↔ ∀ m ∈ members, m.2.Harmless := harmlessMembers_iff

@[simp] theorem harmless_function {name : String} {given : List Value} :
    (function name given).Harmless ↔ ∀ v ∈ given, v.Harmless := harmlessItems_iff

@[simp] theorem not_harmless_faker : ¬ faker.Harmless := id

@[simp] theorem not_harmless_topic (t : Topic) : ¬ (topic t).Harmless := id

end Value

/-! ## Members of maps -/

theorem harmless_insertMember {members : List (String × Value)} (h : ∀ m ∈ members, m.2.Harmless) (name : String)
    {value : Value} (hv : value.Harmless) : ∀ m ∈ insertMember members name value, m.2.Harmless := by
  induction members with
  | nil => simpa [insertMember] using hv
  | cons member rest ih =>
    obtain ⟨n, v⟩ := member
    rw [List.forall_mem_cons] at h
    rw [insertMember]
    split
    · exact List.forall_mem_cons.mpr ⟨hv, h.2⟩
    · split
      · exact List.forall_mem_cons.mpr ⟨hv, List.forall_mem_cons.mpr h⟩
      · exact List.forall_mem_cons.mpr ⟨h.1, ih h.2⟩

theorem harmless_foldl_insertMember {members added : List (String × Value)} (h : ∀ m ∈ members, m.2.Harmless)
    (hadded : ∀ m ∈ added, m.2.Harmless) :
    ∀ m ∈ added.foldl (fun map (name, value) => insertMember map name value) members, m.2.Harmless := by
  induction added generalizing members with
  | nil => exact h
  | cons member added ih =>
    rw [List.forall_mem_cons] at hadded
    exact ih (harmless_insertMember h member.1 hadded.1) hadded.2

theorem mem_of_lookup {members : List (String × Value)} {name : String} {value : Value}
    (h : members.lookup name = some value) : (name, value) ∈ members := by
  obtain ⟨before, after, rfl, -⟩ := List.lookup_eq_some_iff.mp h
  exact List.mem_append_right _ List.mem_cons_self

theorem harmless_member? {members : List (String × Value)} (h : ∀ m ∈ members, m.2.Harmless) (name : String) :
    ∀ v ∈ member? members name, v.Harmless := fun _ hv => h _ (mem_of_lookup hv)

theorem harmless_getD {v? : Option Value} (h : ∀ v ∈ v?, v.Harmless) : (v?.getD .unit).Harmless := by
  cases v? with
  | none => trivial
  | some v => exact h v rfl

theorem harmless_getElem? {items : List Value} (h : ∀ v ∈ items, v.Harmless) (n : Nat) :
    ∀ v ∈ items[n]?, v.Harmless := fun _ hv => h _ (List.mem_of_getElem? hv)

/-! ## Faults -/

/-- A cause that holds no fake value. -/
def Cause.Harmless : Cause → Prop
  | thrown v => v.Harmless
  | _ => True

@[simp] theorem Cause.harmless_arithmetic (text : String) : (arithmetic text).Harmless := trivial

/-- A value or a cause that holds no fake value. -/
def HarmlessOutcome : Except Cause Value → Prop
  | .ok v => v.Harmless
  | .error c => c.Harmless

theorem Cause.harmless_details (c : Cause) : ∀ m ∈ c.details, m.2.Harmless := by
  cases c <;> simp [Cause.details]

theorem Fault.harmless_details (f : Fault) : ∀ m ∈ f.details, m.2.Harmless := by
  rw [Fault.details]
  split
  · simp
  · exact f.cause.harmless_details

theorem Fault.harmless_leaving {f : Fault} (h : f.cause.Harmless) {function : String} {place : Place} :
    (f.leaving function place).cause.Harmless := by
  rw [Fault.leaving]
  split <;> exact h

theorem Fault.harmless_movedTo {f : Fault} (h : f.cause.Harmless) (place : Place) :
    (f.movedTo place).cause.Harmless := by
  rw [Fault.movedTo]
  split <;> exact h

/-- What a script sees of a fault holds no fake value unless one was thrown. -/
theorem Fault.harmless_caught {f : Fault} (h : f.cause.Harmless) : f.caught.Harmless := by
  rw [Fault.caught]
  split
  · next v thrown =>
    rw [thrown] at h
    exact h
  · rw [Value.harmless_map]
    refine harmless_foldl_insertMember (by simp) ?_
    rw [List.forall_mem_append]
    refine ⟨?_, f.harmless_details⟩
    split <;> simp

/-! ## Operators -/

namespace Operation

theorem harmless_checked (n : Int) (fault : String) : HarmlessOutcome (checked n fault) := by
  rw [checked]
  split <;> trivial

theorem harmless_power (a b : Int) : HarmlessOutcome (power a b) := by
  rw [power]
  split
  · trivial
  · split
    · trivial
    · split
      · trivial
      · split
        · trivial
        · exact harmless_checked _ _

theorem harmless_onInts (op : Operator) (a b : Int64) : HarmlessOutcome (onInts op a b) := by
  cases op <;> rw [onInts] <;> try trivial
  · exact harmless_checked _ _
  · exact harmless_checked _ _
  · exact harmless_checked _ _
  · split
    · trivial
    · exact harmless_checked _ _
  · split <;> trivial
  · exact harmless_power _ _

theorem harmless_onFloats? (op : Operator) (a b : Float) : ∀ v ∈ onFloats? op a b, v.Harmless := by
  cases op <;> simp [onFloats?]

theorem harmless_onTexts? (op : Operator) (a b : String) : ∀ v ∈ onTexts? op a b, v.Harmless := by
  cases op <;> simp [onTexts?, compare?]

theorem harmless_onBools? (op : Operator) (a b : Bool) : ∀ v ∈ onBools? op a b, v.Harmless := by
  cases op <;> simp [onBools?, compare?]

/-- Simple values give simple values. -/
theorem harmless_basic? (op : Operator) (a b : Value) : ∀ o ∈ basic? op a b, HarmlessOutcome o := by
  have given {v? : Option Value} (h : ∀ v ∈ v?, v.Harmless) : ∀ o ∈ v?.map .ok, HarmlessOutcome o := by
    intro o ho
    obtain ⟨v, hv, rfl⟩ := Option.map_eq_some_iff.mp ho
    exact h v hv
  intro o ho
  -- One case a pair of kinds.
  unfold basic? at ho
  split at ho
  · cases ho
    exact harmless_onInts _ _ _
  · exact given (harmless_onFloats? _ _ _) o ho
  · exact given (harmless_onFloats? _ _ _) o ho
  · exact given (harmless_onFloats? _ _ _) o ho
  · exact given (harmless_onBools? _ _ _) o ho
  · split at ho
    · cases ho
      trivial
    · exact given (harmless_onTexts? _ _ _) o ho
  · split at ho
    · cases ho
      trivial
    · exact given (harmless_onTexts? _ _ _) o ho
  · exact given (harmless_onTexts? _ _ _) o ho
  · exact given (harmless_onTexts? _ _ _) o ho
  · split at ho <;> cases ho <;> trivial
  · split at ho <;> split at ho <;> cases ho <;> trivial
  · split at ho
    · cases ho
    · split at ho <;> cases ho <;> trivial

theorem harmless_merge {a b : List (String × Value)} (ha : ∀ m ∈ a, m.2.Harmless) (hb : ∀ m ∈ b, m.2.Harmless) :
    ∀ m ∈ merge a b, m.2.Harmless := harmless_foldl_insertMember ha hb

theorem harmless_extended? (op : Operator) {a b : Value} (ha : a.Harmless) (hb : b.Harmless) :
    ∀ v ∈ extended? op a b, v.Harmless := by
  intro v hv
  unfold extended? at hv
  split at hv <;> cases hv
  case h_1 =>
    rw [Value.harmless_array] at ha hb ⊢
    exact List.forall_mem_append.mpr ⟨ha, hb⟩
  case h_2 =>
    rw [Value.harmless_map] at ha hb ⊢
    exact harmless_merge ha hb
  all_goals trivial

theorem harmless_signed? (sign : Sign) (v : Value) : ∀ o ∈ signed? sign v, HarmlessOutcome o := by
  intro o ho
  unfold signed? at ho
  split at ho <;> cases ho
  · exact harmless_checked _ _
  all_goals trivial

end Operation

/-! ## Functions of the library -/

/-- A reply whose value, and whose new first argument, hold no fake value. -/
structure HarmlessReply (r : Reply) : Prop where
  value : r.value.Harmless
  first : ∀ v ∈ r.first, v.Harmless

namespace Library

/-- A call, if there is one, that gives no fake value. -/
def Fair : Option (Except Cause Reply) → Prop
  | some (.ok r) => HarmlessReply r
  | some (.error c) => c.Harmless
  | none => True

@[simp] theorem harmless_count (n : Nat) : (count n).Harmless := trivial

@[simp] theorem harmless_text (chars : List Char) : (text chars).Harmless := trivial

@[simp] theorem fair_none : Fair none := trivial

@[simp] theorem fair_gives {v : Value} : Fair (gives v) ↔ v.Harmless :=
  ⟨fun h => h.value, fun h => ⟨h, by simp⟩⟩

@[simp] theorem fair_changes {first v : Value} : Fair (changes first v) ↔ first.Harmless ∧ v.Harmless :=
  ⟨fun h => ⟨h.first _ rfl, h.value⟩, fun h => ⟨h.2, by simpa using h.1⟩⟩

@[simp] theorem fair_error {c : Cause} : Fair (some (.error c)) ↔ c.Harmless := Iff.rfl

@[simp] theorem fair_map {o : Except Cause Value} :
    Fair (some (o.map fun v => { value := v })) ↔ HarmlessOutcome o := by
  cases o with
  | error c => exact Iff.rfl
  | ok v => exact ⟨fun h => h.value, fun h => ⟨h, by simp⟩⟩

theorem Fair.or {call? other? : Option (Except Cause Reply)} (h : Fair call?) (hother : Fair other?) :
    Fair (call?.or other?) := by
  cases call? with
  | none => exact hother
  | some c => exact h

/-! ### Texts -/

@[simp] theorem harmless_texts (pieces : List (List Char)) : (Value.array (pieces.map text)).Harmless := by
  rw [Value.harmless_array, List.forall_mem_map]
  exact fun _ _ => trivial

@[simp] theorem harmless_split (part : List Char) (most : Nat) (chars : List Char) :
    (split part most chars).Harmless := harmless_texts _

@[simp] theorem harmless_splitAt (chars : List Char) (index : Int) : (splitAt chars index).Harmless := by
  simp [splitAt]

@[simp] theorem harmless_indexOf (part chars : List Char) (start : Int) :
    (indexOf part chars start).Harmless := by
  unfold indexOf
  dsimp only
  split
  · trivial
  · split <;> trivial

@[simp] theorem harmless_parseInt (s : String) (base : Nat) : HarmlessOutcome (parseInt s base) := by
  unfold parseInt
  dsimp only
  repeat' split
  all_goals trivial

theorem fair_onText? (function s : String) (args : List Value) : Fair (onText? function s args) := by
  unfold onText?
  dsimp only
  split
  all_goals first
    | (simp; done)
    | (split <;> simp)

/-! ### Arrays and maps -/

theorem fair_onArray? (function : String) {items args : List Value} (hitems : ∀ v ∈ items, v.Harmless)
    (hargs : ∀ v ∈ args, v.Harmless) : Fair (onArray? function items args) := by
  revert hargs
  have sub {kept : List Value} (h : kept ⊆ items) : (Value.array kept).Harmless :=
    Value.harmless_array.mpr fun v hv => hitems v (h hv)
  -- In the order of the library: all that comes out of an array was in it or among the arguments.
  unfold onArray?
  split <;> intro hargs
  · simp
  · simp
  · next v => simpa [or_imp, forall_and] using ⟨hitems, hargs v List.mem_cons_self⟩
  · next more =>
    have hmore := Value.harmless_array.mp (hargs (.array more) List.mem_cons_self)
    simpa [or_imp, forall_and] using ⟨hitems, hmore⟩
  · split
    · next v last => exact fair_changes.mpr ⟨sub (List.dropLast_subset _), hitems v (List.mem_of_getLast? last)⟩
    · simp
  · split
    · exact fair_changes.mpr ⟨sub (List.subset_cons_self _ _), hitems _ List.mem_cons_self⟩
    · simp
  · simpa using hitems
  · simp
  · next index v =>
    refine fair_changes.mpr ⟨Value.harmless_array.mpr ?_, trivial⟩
    rw [List.forall_mem_append, List.forall_mem_cons]
    exact ⟨fun w hw => hitems w (List.mem_of_mem_take hw), by simpa using hargs,
      fun w hw => hitems w (List.mem_of_mem_drop hw)⟩
  · split
    · exact fair_changes.mpr ⟨sub (List.eraseIdx_subset), harmless_getD (harmless_getElem? hitems _)⟩
    · simp
  · simp
  · split <;> simp
  · simp

theorem fair_onMap? (function : String) {members : List (String × Value)} (args : List Value)
    (h : ∀ m ∈ members, m.2.Harmless) : Fair (onMap? function members args) := by
  unfold onMap?
  split
  · simp
  · simp
  · rw [fair_gives, Value.harmless_array, List.forall_mem_map]
    exact fun _ _ => trivial
  · rw [fair_gives, Value.harmless_array, List.forall_mem_map]
    exact h
  · simp
  · next name =>
    refine fair_changes.mpr ⟨Value.harmless_map.mpr ?_, harmless_getD (harmless_member? h name)⟩
    exact fun m hm => h m (List.mem_filter.mp hm).1
  · simp
  · simp

/-! ### Numbers, characters and ranges -/

@[simp] theorem harmless_toInt (x : Float) : HarmlessOutcome (toInt x) := by
  unfold toInt
  repeat' split
  all_goals trivial

theorem fair_onInt? (function : String) (n : Int64) (args : List Value) : Fair (onInt? function n args) := by
  unfold onInt?
  split <;> simp [Operation.harmless_checked]

theorem fair_onFloat? (function : String) (x : Float) (args : List Value) : Fair (onFloat? function x args) := by
  unfold onFloat?
  split <;> simp

theorem fair_onChar? (function : String) (c : Char) (args : List Value) : Fair (onChar? function c args) := by
  unfold onChar?
  split <;> simp

theorem fair_onRange? (function : String) (first last : Int64) (closed : Bool) (args : List Value) :
    Fair (onRange? function first last closed args) := by
  unfold onRange?
  split <;> simp

/-! ### All of them -/

theorem fair_onAny? (function : String) (v : Value) (args : List Value) : Fair (onAny? function v args) := by
  unfold onAny?
  split <;> simp

/-- A function of the library gives no fake value unless it is given one. -/
theorem fair_call? (function : String) {args : List Value} (h : ∀ v ∈ args, v.Harmless) :
    Fair (call? function args) := by
  unfold call?
  split
  · trivial
  next v rest =>
  rw [List.forall_mem_cons] at h
  refine Fair.or ?_ (fair_onAny? _ _ _)
  split
  · exact fair_onText? _ _ _
  · exact fair_onArray? _ (Value.harmless_array.mp h.1) h.2
  · exact fair_onMap? _ _ (Value.harmless_map.mp h.1)
  · exact fair_onInt? _ _ _
  · exact fair_onFloat? _ _ _
  · exact fair_onChar? _ _ _
  · exact fair_onRange? _ _ _ _ _
  · trivial

theorem harmless_property? (name : String) (v : Value) : ∀ p ∈ property? name v, p.Harmless := by
  intro p hp
  unfold property? at hp
  split at hp <;> cases hp <;> trivial

end Library

end Fixtures.Script
