import Fixtures.Data.Record

/-!
# Slots that are filled alike

Whether a record is complete depends on which of its slots are filled, and not on what they hold.
-/

namespace Fixtures.Data

/-- Slots of which the same are filled. -/
def SlotsAlike : {ts : List Type} → Slots ts → Slots ts → Prop
  | [], _, _ => True
  | _ :: _, (slot, slots), (slot', slots') => slot.isSome = slot'.isSome ∧ SlotsAlike slots slots'

variable {ts : List Type} {D : Type → Type} {slots slots' : Slots ts}

/-- The slots before anything was read are alike. -/
theorem Fields.empty_alike (fields : Fields D ts) : SlotsAlike fields.empty fields.empty := by
  induction fields with
  | nil => trivial
  | cons _ _ _ _ ih => exact ⟨rfl, ih⟩

/-- Of alike slots either both give a record, or the same field is missing. -/
theorem Fields.finish_alike (fields : Fields D ts) (filled : SlotsAlike slots slots') :
    (∃ values values', fields.finish slots = .ok values ∧ fields.finish slots' = .ok values') ∨
      ∃ name, fields.finish slots = .error name ∧ fields.finish slots' = .error name := by
  induction fields with
  | nil => exact .inl ⟨(), (), rfl, rfl⟩
  | @cons t ts name decode absent more ih =>
    obtain ⟨slot, slots⟩ := slots
    obtain ⟨slot', slots'⟩ := slots'
    obtain ⟨first, filled⟩ := filled
    have present : (slot.or absent).isSome = (slot'.or absent).isSome := by
      rw [Option.isSome_or, Option.isSome_or]
      exact congrArg (· || absent.isSome) first
    rw [Fields.finish, Fields.finish]
    rcases hv : slot.or absent with _ | v <;> rcases hw : slot'.or absent with _ | w <;>
      rw [hv, hw] at present
    · exact .inr ⟨name, rfl, rfl⟩
    · cases present
    · cases present
    · obtain ⟨values, values', hs, hs'⟩ | ⟨name, hs, hs'⟩ := ih filled <;> dsimp only <;> rw [hs, hs']
      · exact .inl ⟨_, _, rfl, rfl⟩
      · exact .inr ⟨name, rfl, rfl⟩

end Fixtures.Data
