import Fixtures.Proofs.Json.Decoding
import Fixtures.Toml.Decode
import Mathlib.Data.List.Forall2

/-!
# Entries of tables

The way of an entry from its statement to the field of a record. Statements that give different keys something are
put into the table of the text one after another, and the members of a table are decoded into the fields that bear
their names.

## Main results

* `build_assigns`: the table holds what the statements give.
* `record_of_fills`: a record is decoded from a table that holds its fields in any order and among others.
-/

namespace Fixtures.Toml

open Data (Fields Slots Record)

/-! ## Statements -/

section Statements

variable {α : Type}

/-- A statement that gives a key an item of some meaning. -/
def Assigns (R : α → Item → Prop) (setting : String × α) (s : Statement) : Prop :=
  ∃ span value start, s = .item [] ⟨setting.1, span⟩ value start ∧ R setting.2 value

/-- A member of a table with an item of some meaning. -/
def Stores (R : α → Item → Prop) (setting : String × α) (member : Key × Item) : Prop :=
  member.1.name = setting.1 ∧ R setting.2 member.2

/-- The members bear the keys of the settings. -/
theorem names_of_stores {R : α → Item → Prop} {settings : List (String × α)} {members : Members}
    (stored : List.Forall₂ (Stores R) settings members) : members.map (·.1.name) = settings.map (·.1) := by
  induction stored with
  | nil => rfl
  | cons first _ ih => rw [List.map_cons, List.map_cons, ih, first.1]

/-- Each of them holds what a setting says. -/
theorem exists_of_mem_stores {R : α → Item → Prop} {settings : List (String × α)} {members : Members}
    (stored : List.Forall₂ (Stores R) settings members) {m : Key × Item} (hm : m ∈ members) :
    ∃ setting ∈ settings, Stores R setting m := by
  induction stored with
  | nil => cases hm
  | @cons setting _ _ _ first _ ih =>
    rcases List.mem_cons.1 hm with rfl | later
    · exact ⟨setting, List.mem_cons_self, first⟩
    · obtain ⟨other, there, stores⟩ := ih later
      exact ⟨other, List.mem_cons_of_mem _ there, stores⟩

theorem find?_eq_none_of_fresh {members : Members} {name : String} (fresh : ∀ m ∈ members, m.1.name ≠ name) :
    members.find? name = none := by
  rw [Members.find?, List.find?_eq_none.mpr fun m hm => by simpa using fresh m hm]
  rfl

/-- Statements with keys of their own put their items into the table of the text. -/
theorem build_assigns {R : α → Item → Prop} {settings : List (String × α)} {read : List Statement}
    (given : List.Forall₂ (Assigns R) settings read) (distinct : (settings.map (·.1)).Nodup)
    (members : Members) (fresh : ∀ m ∈ members, m.1.name ∉ settings.map (·.1)) (span : Option Span) :
    ∃ added span', List.Forall₂ (Stores R) settings added ∧
      Document.build ⟨members, span, []⟩ read = .ok ⟨members ++ added, span', []⟩ := by
  induction given generalizing members span with
  | nil => exact ⟨[], span, .nil, by rw [List.append_nil]; rfl⟩
  | @cons setting s settings read gives _ ih =>
    obtain ⟨keySpan, value, start, rfl, meant⟩ := gives
    rw [List.map_cons, List.nodup_cons] at distinct
    let key : Key := ⟨setting.1, keySpan⟩
    -- the key is none of those before, so the item is added at the end
    have absent : members.find? key.name = none :=
      find?_eq_none_of_fresh fun m hm same =>
        fresh m hm (same ▸ List.mem_map.mpr ⟨setting, List.mem_cons_self, rfl⟩)
    have step : Document.Progress.step ⟨members, span, []⟩ (.item [] key value start) =
        .ok ⟨members ++ [(key, value)], Document.grown span value, []⟩ := by
      simp only [Document.Progress.step, Document.Progress.change, Document.within, Document.assign,
        Document.addItem, absent]
      rfl
    have fresh' : ∀ m ∈ members ++ [(key, value)], m.1.name ∉ settings.map (·.1) := by
      intro m hm
      rcases List.mem_append.mp hm with hm | hm
      · exact fun hin => fresh m hm (List.mem_cons_of_mem _ hin)
      · obtain rfl := List.mem_singleton.mp hm
        exact distinct.1
    obtain ⟨added, span', stored, built⟩ := ih distinct.2 _ fresh' (Document.grown span value)
    refine ⟨(key, value) :: added, span', .cons ⟨rfl, meant⟩ stored, ?_⟩
    rw [Document.build, step]
    simpa using built

end Statements

/-! ## Records -/

section Records

variable {ts : List Type} {fields : Fields Decoder ts} {values : Record ts}

/-- A member that is decoded to the value of the field that bears its name, or that no field knows. -/
def Fills : {ts : List Type} → Fields Decoder ts → Record ts → Key × Item → Prop
  | _, .nil, _, _ => True
  | _, .cons name decode _ more, (value, values), m =>
    (m.1.name = name → decode m.2 = .ok value) ∧ Fills more values m

/-- A member goes into the slot of its field. -/
theorem fieldItem_of_fills (distinct : fields.names.Nodup) {m : Key × Item} (fills : Fills fields values m)
    (names : List String) :
    fieldItem m.2 m.1.name fields (Json.filled fields values names) =
      .ok (Json.filled fields values (m.1.name :: names)) := by
  induction fields with
  | nil => rfl
  | cons field decode _ more ih =>
    obtain ⟨value, values⟩ := values
    obtain ⟨here, later⟩ := fills
    obtain ⟨apart, distinct⟩ := List.nodup_cons.1 distinct
    rw [Json.filled, Json.filled, fieldItem]
    by_cases same : field = m.1.name
    · rw [if_pos same, here same.symm, if_pos (same ▸ List.mem_cons_self),
        Json.filled_cons_of_not_mem (same ▸ apart)]
      rfl
    · rw [if_neg same, ih distinct later]
      simp only [List.mem_cons, same, false_or]
      rfl

/-- Members go into the slots of their fields one after another. -/
theorem members_of_fills (distinct : fields.names.Nodup) {ms : Members} (fill : ∀ m ∈ ms, Fills fields values m)
    (names : List String) :
    members fields false (Json.filled fields values names) ms =
      .ok (Json.filled fields values ((ms.map (·.1.name)).reverse ++ names)) := by
  induction ms generalizing names with
  | nil => rfl
  | cons m ms ih =>
    have others := ih (fun m hm => fill m (List.mem_cons_of_mem _ hm)) (m.1.name :: names)
    simp only [members, Bool.false_and, Bool.false_eq_true, if_false,
      fieldItem_of_fills distinct (fill m List.mem_cons_self), others]
    simp

/-- A record is decoded from a table that holds all its fields, in any order and among others. -/
theorem record_of_fills {α : Type} (distinct : fields.names.Nodup) {ms : Members}
    (fill : ∀ m ∈ ms, Fills fields values m) (all : ∀ name ∈ fields.names, name ∈ ms.map (·.1.name))
    (build : Record ts → α) (form : Form) (span : Option Span) :
    record fields false build (.table form ms span) = .ok (build values) := by
  have read := members_of_fills distinct fill []
  rw [Json.filled_nil, List.append_nil] at read
  have finished : fields.finish (Json.filled fields values (ms.map (·.1.name)).reverse) = .ok values :=
    Json.finish_filled fun name hname => List.mem_reverse.mpr (all name hname)
  simp only [record, read, bind, Except.bind, finished]

end Records

end Fixtures.Toml
