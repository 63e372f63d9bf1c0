import Fixtures.Proofs.Data.Slots
import Fixtures.Proofs.Toml.Statements
import Fixtures.Toml.Decode

/-!
# Records of two settings texts

Two texts that differ in a secret are decoded alike: both decodings succeed, or both end with one fault. The fault is
shown with the line of the text in which it was found; so this line is all that a message tells about the secret.

The texts have the same statements up to their strings, hence the same tables up to their strings (`build_hushed`),
and no fault names the text of a string.
-/

namespace Fixtures.Toml

open Data (Fields Slots Record Mismatch SlotsAlike)
open Text (Veiled)

/-! ## The table of a text -/

theorem Refusal.Alike.fault_eq {e f : Refusal} (h : e.Alike f) : Fault.mk e.message e.span = ⟨f.message, f.span⟩ := by
  have message : e.message = f.message := by
    have words := congrArg Refusal.message h.words
    exact words
  have span : e.span = f.span := by rw [Refusal.span, Refusal.span, h.length]
  rw [message, span]

/-- Two texts have tables that are the same but for their strings, or the same fault. -/
theorem parse_alike {t u : String} (length : t.toList.length = u.toList.length)
    (h : Rests (Document.body t) (Document.body u)) :
    (∃ inner inner' place, Document.parse t = .ok (.table .header inner place) ∧
      Document.parse u = .ok (.table .header inner' place) ∧ hushedMembers inner = hushedMembers inner') ∨
      ∃ f, Document.parse t = .error f ∧ Document.parse u = .error f := by
  have read := statements_alike ((Document.body t).length + 1) h
  have built (read : List Statement) := Document.build_hushed (.start t.toList.length) read
  have same := built (statements ((Document.body t).length + 1) (Document.body t)).1
  rw [read.1, built] at same
  unfold Document.parse
  dsimp only
  rw [← length, ← h.length_eq]
  generalize statements ((Document.body t).length + 1) (Document.body t) = x at *
  generalize statements ((Document.body t).length + 1) (Document.body u) = y at *
  obtain ⟨x, refused⟩ := x
  obtain ⟨y, refused'⟩ := y
  dsimp only at same ⊢
  -- The statements build tables alike, and what refused the rest of the text is alike too.
  rcases hp : Document.build (.start t.toList.length) x with e | p <;>
    rcases hq : Document.build (.start t.toList.length) y with f | q <;> rw [hp, hq] at same
  · exact .inr ⟨f, congrArg Except.error (Except.error.inj same).symm, rfl⟩
  · cases same
  · cases same
  · cases read.2 with
    | some refusal => exact .inr ⟨_, rfl, congrArg Except.error refusal.fault_eq.symm⟩
    | none =>
      have same := Except.ok.inj same
      have inner : hushedMembers q.members = hushedMembers p.members := congrArg Document.Progress.members same
      have place : q.span = p.span := by
        have span := congrArg Document.Progress.span same
        exact span
      exact .inl ⟨p.members, q.members, p.span, rfl, congrArg (fun s => Except.ok (Item.table .header q.members s)) place,
        inner.symm⟩

/-! ## Decoding -/

/-- A decoder whose faults do not name the text of a string. -/
def Steady {α : Type} (decode : Decoder α) : Prop :=
  ∀ item : Item, (decode item.hushed).map (fun _ => ()) = (decode item).map fun _ => ()

theorem steady_text (expected : String) : Steady (text expected) := by
  intro item
  cases item <;> rfl

/-- The fields of a record whose decoders are steady. -/
def SteadyFields : {ts : List Type} → Fields Decoder ts → Prop
  | _, .nil => True
  | _, .cons _ decode _ more => Steady decode ∧ SteadyFields more

theorem Steady.cases {α : Type} {decode : Decoder α} (steady : Steady decode) {i j : Item} (same : i.hushed = j.hushed) :
    (∃ v w, decode i = .ok v ∧ decode j = .ok w) ∨ ∃ m, decode i = .error m ∧ decode j = .error m := by
  have outcome : (decode i).map (fun _ => ()) = (decode j).map fun _ => () := by
    rw [← steady i, ← steady j, same]
  rcases hi : decode i with m | v <;> rcases hj : decode j with n | w <;> rw [hi, hj] at outcome
  · exact .inr ⟨m, rfl, congrArg Except.error (Except.error.inj outcome).symm⟩
  · cases outcome
  · cases outcome
  · exact .inl ⟨v, w, rfl, rfl⟩

variable {ts : List Type} {fields : Fields Decoder ts} {slots slots' : Slots ts}

theorem fieldItem_alike (steady : SteadyFields fields) (filled : SlotsAlike slots slots') {i j : Item}
    (same : i.hushed = j.hushed) (name : String) :
    (∃ next next', fieldItem i name fields slots = .ok next ∧ fieldItem j name fields slots' = .ok next' ∧
      SlotsAlike next next') ∨
      ∃ m, fieldItem i name fields slots = .error m ∧ fieldItem j name fields slots' = .error m := by
  induction fields with
  | nil => exact .inl ⟨slots, slots', rfl, rfl, filled⟩
  | @cons t ts field decode absent more ih =>
    obtain ⟨slot, slots⟩ := slots
    obtain ⟨slot', slots'⟩ := slots'
    rw [fieldItem, fieldItem]
    split
    · obtain ⟨v, w, hi, hj⟩ | ⟨m, hi, hj⟩ := steady.1.cases same <;> rw [hi, hj]
      · exact .inl ⟨(some v, slots), (some w, slots'), rfl, rfl, rfl, filled.2⟩
      · exact .inr ⟨m, rfl, rfl⟩
    · obtain ⟨next, next', hi, hj, others⟩ | ⟨m, hi, hj⟩ := ih steady.2 filled.2 <;> rw [hi, hj]
      · exact .inl ⟨(slot, next), (slot', next'), rfl, rfl, filled.1, others⟩
      · exact .inr ⟨m, rfl, rfl⟩

theorem members_alike (steady : SteadyFields fields) (strict : Bool) (filled : SlotsAlike slots slots')
    {inner inner' : Members} (same : hushedMembers inner = hushedMembers inner') :
    (∃ next next', members fields strict slots inner = .ok next ∧ members fields strict slots' inner' = .ok next' ∧
      SlotsAlike next next') ∨
      ∃ f, members fields strict slots inner = .error f ∧ members fields strict slots' inner' = .error f := by
  -- Along both tables, which have the same keys.
  induction inner generalizing inner' slots slots' with
  | nil =>
    cases inner' with
    | nil => exact .inl ⟨slots, slots', rfl, rfl, filled⟩
    | cons m inner' => cases same
  | cons m inner ih =>
    obtain ⟨key, i⟩ := m
    cases inner' with
    | nil => cases same
    | cons m inner' =>
      obtain ⟨key', j⟩ := m
      rw [hushedMembers, hushedMembers, List.cons.injEq, Prod.mk.injEq] at same
      obtain ⟨⟨rfl, item⟩, others⟩ := same
      rw [members, members]
      split
      · exact .inr ⟨_, rfl, rfl⟩
      · obtain ⟨next, next', hi, hj, filled⟩ | ⟨m, hi, hj⟩ := fieldItem_alike steady filled item key.name <;>
          rw [hi, hj]
        · exact ih filled others
        · rw [← i.span?_hushed, ← j.span?_hushed, item]
          exact .inr ⟨_, rfl, rfl⟩

/-- Records of such tables are both decoded, or have the same fault. -/
theorem record_alike {α : Type} (steady : SteadyFields fields) (strict : Bool) (build : Record ts → α)
    {inner inner' : Members} (same : hushedMembers inner = hushedMembers inner') (form : Form) (place : Option Span) :
    (∃ v w, record fields strict build (.table form inner place) = .ok v ∧
      record fields strict build (.table form inner' place) = .ok w) ∨
      ∃ f, record fields strict build (.table form inner place) = .error f ∧
        record fields strict build (.table form inner' place) = .error f := by
  unfold record
  dsimp only
  obtain ⟨slots, slots', hi, hj, filled⟩ | ⟨f, hi, hj⟩ := members_alike steady strict fields.empty_alike same <;>
    rw [hi, hj]
  · dsimp only [bind, Except.bind]
    obtain ⟨values, values', hs, hs'⟩ | ⟨name, hs, hs'⟩ := fields.finish_alike filled <;> rw [hs, hs']
    · exact .inl ⟨_, _, rfl, rfl⟩
    · exact .inr ⟨_, rfl, rfl⟩
  · exact .inr ⟨f, rfl, rfl⟩

/-! ## Whole texts -/

theorem body_rests {t u : String} (h : Veiled t.toList u.toList) (keys : KeysUnmarked t.toList) :
    Rests (Document.body t) (Document.body u) := by
  unfold Document.body
  obtain ⟨ht, hu⟩ | ⟨c, a, b, ht, hu, -, rest⟩ := h.cases
  · rw [ht] at keys
    rw [ht, hu]
    exact ⟨.alike [], keys⟩
  · rw [ht, hu] at h ⊢
    rw [ht] at keys
    by_cases byteOrder : c = '\ufeff'
    · subst byteOrder
      exact ⟨rest (by decide), keys.suffix (List.suffix_cons _ a)⟩
    · simp only [List.cons.injEq, byteOrder, false_and, imp_self, implies_true]
      exact ⟨h, keys⟩

/-- Records of two texts are both decoded, or end with one fault, shown in each of the texts. -/
theorem decodeAll_alike {α : Type} (steady : SteadyFields fields) (strict : Bool) (build : Record ts → α)
    {t u : String} (h : Veiled t.toList u.toList) (keys : KeysUnmarked t.toList) :
    (∃ v w, decodeAll (record fields strict build) t = .ok v ∧ decodeAll (record fields strict build) u = .ok w) ∨
      ∃ f : Fault, decodeAll (record fields strict build) t = .error (f.render t) ∧
        decodeAll (record fields strict build) u = .error (f.render u) := by
  unfold decodeAll
  obtain ⟨inner, inner', place, ht, hu, same⟩ | ⟨f, ht, hu⟩ := parse_alike h.length_eq (body_rests h keys) <;>
    rw [ht, hu]
  · dsimp only [Except.bind]
    obtain ⟨v, w, hv, hw⟩ | ⟨f, hv, hw⟩ := record_alike steady strict build same .header place <;> rw [hv, hw]
    · exact .inl ⟨v, w, rfl, rfl⟩
    · exact .inr ⟨f, rfl, rfl⟩
  · exact .inr ⟨f, rfl, rfl⟩

end Fixtures.Toml
