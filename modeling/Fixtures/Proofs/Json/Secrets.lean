import Fixtures.Proofs.Data.Slots
import Fixtures.Proofs.Json.Passing

/-!
# Records of two JSON texts

Two texts that differ in a secret are read alike: both readings succeed, or both fail with one cause at one place.
The exception is a text that is a string itself, for a string is shown in the fault that it is no record.
-/

namespace Fixtures.Json

open Text (Veiled Twins)
open Data (Fields Slots Record SlotsAlike)

variable {a b : List Char}

/-! ## Records -/

/-- Outcomes that succeed with any values, or fail alike. -/
abbrev AlikeUpToValue {α : Type} : Outcome α → Outcome α → Prop := Alike Veiled fun _ _ => True

/-- A decoder that reads veiled texts alike. -/
def Steady {α : Type} (decode : Decoder α) : Prop :=
  ∀ levels {a b : List Char}, Veiled a b → AlikeUpToValue (decode levels a) (decode levels b)

theorem steady_text (expected : String) : Steady (text expected) := by
  intro _ a b h
  have twice : skipSpace (skipSpace a) = skipSpace a := List.dropWhile_idempotent _ _
  unfold text
  obtain ⟨ha, hb⟩ | ⟨c, a', b', ha, hb, whole, rest⟩ := skip_cases h
  · rw [ha, hb]
    exact faultNext_alike _ (.alike [])
  · rw [ha] at twice
    rw [ha, hb]
    split
    · next e =>
      cases e
      exact (stringBody_alike (rest (by decide))).any
    · next quote =>
      have quote : c ≠ '"' := by simpa using quote
      simp only [List.cons.injEq, quote, false_and, imp_self, implies_true]
      refine refuse_alike expected whole ?_
      rw [twice]
      simpa using quote

/-- The fields of a record whose decoders are steady and whose names do not hold the mark before a secret. -/
def SteadyFields : {ts : List Type} → Fields Decoder ts → Prop
  | _, .nil => True
  | _, .cons name decode _ more => '/' ∉ name.toList ∧ Steady decode ∧ SteadyFields more

variable {ts : List Type} {fields : Fields Decoder ts} {slots slots' : Slots ts} {k l : String}

/-- Two keys name the same field, or none. -/
theorem AlikeOrMarked.eq_iff (h : AlikeOrMarked k l) {name : String} (free : '/' ∉ name.toList) :
    name = k ↔ name = l := by
  rcases h with rfl | ⟨hk, hl⟩
  · rfl
  · refine iff_of_false ?_ ?_
    · rintro rfl
      exact free hk
    · rintro rfl
      exact free hl

theorem fieldValue_alike (levels : Nat) (steady : SteadyFields fields) (keys : AlikeOrMarked k l)
    (filled : SlotsAlike slots slots') (h : Veiled a b) :
    Alike Veiled SlotsAlike (fieldValue levels fields slots k a) (fieldValue levels fields slots' l b) := by
  induction fields with
  | nil => exact (skipValue_alike h).map fun _ _ _ => trivial
  | @cons t ts name decode absent more ih =>
    obtain ⟨slot, slots⟩ := slots
    obtain ⟨slot', slots'⟩ := slots'
    obtain ⟨free, steady, others⟩ := steady
    rw [fieldValue, fieldValue]
    by_cases same : name = k
    · rw [if_pos same, if_pos ((keys.eq_iff free).1 same)]
      exact (steady levels h).map fun _ _ _ => ⟨rfl, filled.2⟩
    · rw [if_neg same, if_neg fun e => same ((keys.eq_iff free).2 e)]
      exact (ih others filled.2).map fun _ _ rest => ⟨filled.1, rest⟩

/-- Of two keys, the fields were read alike; a field that was read has one name. -/
theorem isRead_alike (steady : SteadyFields fields) (keys : AlikeOrMarked k l) (filled : SlotsAlike slots slots') :
    fields.isRead slots k = fields.isRead slots' l ∧ (fields.isRead slots k = true → k = l) := by
  induction fields with
  | nil => exact ⟨rfl, fun read => absurd read (by simp [Fields.isRead])⟩
  | @cons t ts name decode absent more ih =>
    obtain ⟨slot, slots⟩ := slots
    obtain ⟨slot', slots'⟩ := slots'
    obtain ⟨free, -, others⟩ := steady
    rw [Fields.isRead, Fields.isRead]
    by_cases same : name = k
    · have same' := (keys.eq_iff free).1 same
      rw [if_pos same, if_pos same']
      exact ⟨filled.1, fun _ => same.symm.trans same'⟩
    · rw [if_neg same, if_neg fun e => same ((keys.eq_iff free).2 e)]
      exact ih others filled.2

theorem objectFields_alike (levels : Nat) (steady : SteadyFields fields) (fuel : Nat) (first : Bool)
    (filled : SlotsAlike slots slots') (h : Veiled a b) :
    Alike Veiled SlotsAlike (objectFields levels fields fuel first slots a)
      (objectFields levels fields fuel first slots' b) := by
  -- The slots filled so far are alike, which is what the next member may rely on.
  induction fuel generalizing first slots slots' a b with
  | zero => exact fault_alike _ h 0
  | succ fuel ih =>
    rw [objectFields, objectFields]
    obtain ⟨key, a, key', b, ha, hb, keys, rest⟩ | ⟨f, g, ha, hb, fault⟩ := (nextKey_alike first h).cases <;>
      rw [ha, hb]
    · cases key with
      | none =>
        cases key' with
        | none => exact ⟨filled, rest⟩
        | some l => exact keys.elim
      | some k =>
        cases key' with
        | none => exact keys.elim
        | some l =>
          obtain ⟨read, same⟩ := isRead_alike steady keys filled
          dsimp only
          rw [← read]
          split
          · next duplicate =>
            rw [same duplicate]
            exact shapeFault_alike _ rest
          · obtain ⟨_, a, _, b, ha, hb, -, rest⟩ | ⟨f, g, ha, hb, fault⟩ := (colon_alike rest).cases <;> rw [ha, hb]
            · dsimp only
              obtain ⟨_, a, _, b, ha, hb, filled, rest⟩ | ⟨f, g, ha, hb, fault⟩ :=
                (fieldValue_alike levels steady keys filled rest).cases <;> rw [ha, hb]
              · exact ih false filled rest
              · exact fault
            · exact fault
    · exact fault

theorem finishObject_alike {x y : Outcome (Slots ts)} (h : Alike Veiled SlotsAlike x y) :
    AlikeUpToValue (finishObject fields x) (finishObject fields y) := by
  obtain ⟨slots, a, slots', b, rfl, rfl, filled, rest⟩ | ⟨f, g, rfl, rfl, fault⟩ := h.cases
  · rw [finishObject, finishObject]
    obtain ⟨_, _, hslots, hslots'⟩ | ⟨name, hslots, hslots'⟩ := fields.finish_alike filled <;>
      rw [hslots, hslots']
    · exact ⟨trivial, rest⟩
    · exact shapeFault_alike _ rest
  · exact fault

theorem arrayFields_alike (levels : Nat) (expected : String) (steady : SteadyFields fields) (index : Nat)
    (h : Veiled a b) :
    AlikeUpToValue (arrayFields levels expected fields index a) (arrayFields levels expected fields index b) := by
  induction fields generalizing index a b with
  | nil => exact ⟨trivial, h⟩
  | @cons t ts name decode absent more ih =>
    obtain ⟨-, steady, others⟩ := steady
    rw [arrayFields, arrayFields]
    obtain ⟨follows, a, _, b, ha, hb, rfl, rest⟩ | ⟨f, g, ha, hb, fault⟩ := (nextItem_alike (index = 0) h).cases <;>
      rw [ha, hb]
    · cases follows with
      | false => exact shapeFault_alike _ rest
      | true =>
        dsimp only
        obtain ⟨_, a, _, b, ha, hb, -, rest⟩ | ⟨f, g, ha, hb, fault⟩ := (steady levels rest).cases <;> rw [ha, hb]
        · exact (ih others (index + 1) rest).map fun _ _ _ => trivial
        · exact fault
    · exact fault

/-- A record is read alike unless a string stands in its place. -/
theorem record_alike {α : Type} (name : String) (steady : SteadyFields fields) (build : Record ts → α) (levels : Nat)
    (h : Veiled a b) (other : (skipSpace a).head? ≠ some '"') :
    AlikeUpToValue (record name fields build levels a) (record name fields build levels b) := by
  have array : ∀ a b : List Char, Veiled a b → ∀ levels,
      AlikeUpToValue
        (mapOutcome build (settle (close arrayEnd (arrayFields levels (elementsText name fields.count) fields 0 a))))
        (mapOutcome build
          (settle (close arrayEnd (arrayFields levels (elementsText name fields.count) fields 0 b)))) :=
    fun _ _ h levels => (close_alike arrayEnd_alike (arrayFields_alike levels _ steady 0 h)).settle.map fun _ _ _ => trivial
  have object : ∀ a b : List Char, Veiled a b → ∀ levels,
      AlikeUpToValue
        (mapOutcome build (settle (close objectEnd (finishObject fields
          (objectFields levels fields (a.length + 1) true fields.empty a)))))
        (mapOutcome build (settle (close objectEnd (finishObject fields
          (objectFields levels fields (b.length + 1) true fields.empty b))))) := by
    intro a b h levels
    rw [h.length_eq]
    have slots := objectFields_alike levels steady (b.length + 1) true fields.empty_alike h
    exact (close_alike objectEnd_alike (finishObject_alike slots)).settle.map fun _ _ _ => trivial
  have twice : skipSpace (skipSpace a) = skipSpace a := List.dropWhile_idempotent _ _
  unfold record
  obtain ⟨ha, hb⟩ | ⟨c, a', b', ha, hb, whole, rest⟩ := skip_cases h
  · rw [ha, hb]
    exact faultNext_alike _ (.alike [])
  -- A record is an array or an object; what is neither is refused, and shown only if it is no string.
  · rw [ha] at twice other
    rw [ha, hb]
    split
    · next e =>
      cases e
      cases levels with
      | zero => exact faultNext_alike _ whole
      | succ levels => exact array _ _ (rest (by decide)) levels
    · next e =>
      cases e
      cases levels with
      | zero => exact faultNext_alike _ whole
      | succ levels => exact object _ _ (rest (by decide)) levels
    · next bracket brace =>
      have bracket : c ≠ '[' := by simpa using bracket
      have brace : c ≠ '\x7b' := by simpa using brace
      simp only [List.cons.injEq, bracket, brace, false_and, imp_self, implies_true]
      refine refuse_alike _ whole ?_
      rwa [twice]

/-! ## Whole texts -/

theorem placeOf_eq (h : Twins a b) (bytes line column : Nat) : placeOf bytes a line column = placeOf bytes b line column := by
  have alike := h.forall₂
  clear h
  induction alike generalizing bytes line column with
  | nil => rfl
  | @cons c d _ _ first _ ih =>
    rw [placeOf, placeOf, first.utf8Size_eq]
    split
    · rfl
    · by_cases ends : c = '\n'
      · rw [if_pos ends, if_pos ((first.eq_iff (by decide)).1 ends), ih]
      · rw [if_neg ends, if_neg fun e => ends ((first.eq_iff (by decide)).2 e), ih]

theorem locate_eq {f g : Fault} (fault : f.Alike g) (h : Veiled a b) : f.locate a = g.locate b := by
  have place : (f.place.getD (f.rest, 0)).2 = (g.place.getD (g.rest, 0)).2 ∧
      Veiled (f.place.getD (f.rest, 0)).1 (g.place.getD (g.rest, 0)).1 := by
    have alike := fault.place
    rcases hf : f.place with _ | ⟨x, n⟩ <;> rcases hg : g.place with _ | ⟨y, m⟩ <;> rw [hf, hg] at alike
    · exact ⟨rfl, fault.rest⟩
    · exact alike.elim
    · exact alike.elim
    · exact ⟨alike.2, alike.1⟩
  rw [Fault.locate, Fault.locate, fault.cause]
  dsimp only
  rw [byteCount_eq h.twins, byteCount_eq place.2.twins, place.1, placeOf_eq h.twins]

/-- Whole texts are both read, or refused for the same cause at the same place. -/
theorem readAll_alike {α : Type} {reader : List Char → Outcome α} (h : Veiled a b)
    (alike : AlikeUpToValue (reader a) (reader b)) :
    (∃ v w, readAll reader a = .ok v ∧ readAll reader b = .ok w) ∨
      ∃ e, readAll reader a = .error e ∧ readAll reader b = .error e := by
  unfold readAll
  obtain ⟨v, a', w, b', ha, hb, -, rest⟩ | ⟨f, g, ha, hb, fault⟩ := alike.cases <;> rw [ha, hb]
  · dsimp only
    obtain ⟨ha, hb⟩ | ⟨c, a', b', ha, hb, whole, -⟩ := skip_cases rest <;> rw [ha, hb]
    · exact .inl ⟨v, w, rfl, rfl⟩
    · exact .inr ⟨_, rfl, congrArg Except.error (locate_eq (faultNext_alike _ whole) h).symm⟩
  · exact .inr ⟨_, rfl, congrArg Except.error (locate_eq fault h).symm⟩

end Fixtures.Json
