/-!
# Records read from text

A record is read field by field, in any order. `Fields` lists the fields of a record in order, each with
its name and its decoder; `Slots` holds what was read so far. The kind of decoder is a parameter, so that
records of different text formats are described in the same way.

## Shape of a reading

A reader fills the slots one after another and then asks `Fields.finish` for the record, which names the
first field that is still missing.
-/

namespace Fixtures.Data

/-- The values of the fields of a record. -/
def Record : List Type → Type
  | [] => Unit
  | t :: ts => t × Record ts

/-- The values of the fields read so far. -/
def Slots : List Type → Type
  | [] => Unit
  | t :: ts => Option t × Slots ts

/-- The fields of a record, in order. -/
inductive Fields (D : Type → Type) : List Type → Type 1 where
  | nil : Fields D []
  /-- A field that has the value `absent`, if there is one, when it is missing. -/
  | cons {t : Type} {ts : List Type} (name : String) (decode : D t) (absent : Option t)
    (rest : Fields D ts) : Fields D (t :: ts)

namespace Fields

variable {D : Type → Type}

/-- The names of the fields. -/
def names : {ts : List Type} → Fields D ts → List String
  | _, nil => []
  | _, cons name _ _ rest => name :: rest.names

/-- How many fields there are. -/
def count {ts : List Type} (fields : Fields D ts) : Nat := fields.names.length

/-- The slots before anything was read. -/
def empty : {ts : List Type} → Fields D ts → Slots ts
  | _, nil => ()
  | _, cons _ _ _ rest => (none, rest.empty)

/-- Whether the field of a name was read. -/
def isRead : {ts : List Type} → Fields D ts → Slots ts → String → Bool
  | _, nil, _, _ => false
  | _, cons name _ _ rest, (slot, slots), key =>
    if name = key then slot.isSome else rest.isRead slots key

/-- The record, or the name of the first field that is missing. -/
def finish : {ts : List Type} → Fields D ts → Slots ts → Except String (Record ts)
  | _, nil, _ => .ok ()
  | _, cons name _ absent rest, (slot, slots) =>
    match slot.or absent with
    | none => .error name
    | some value => (rest.finish slots).map fun values => (value, values)

/-- No field was read before reading begins. -/
theorem isRead_empty {ts : List Type} (fields : Fields D ts) (key : String) :
    fields.isRead fields.empty key = false := by
  induction fields with
  | nil => rfl
  | cons name _ _ rest ih => simp [isRead, empty, ih]

end Fields

end Fixtures.Data
