import Fixtures.Json.Decode
import Fixtures.Proofs.Json.Repetition
import Mathlib.Data.List.Forall2

/-!
# Decoding documents and reading any value

A list of documents is decoded with the reader of objects at each item, and any value is read first and looked at
then: both accept the same texts and give the same documents (`decodeAll_eq_ok`). They differ in the faults alone.

## Shape of the argument

`value_cases` says what a text that is read as a value begins with, so `document_eq_ok` need only compare objects.
`items_eq_ok` compares the loops over items. Where the decoder refuses an item that the reader of values takes, the
item is among the values at the end and is no object.
-/

namespace Fixtures.Json

variable {α β : Type}

/-! ## Outcomes that succeed -/

theorem settle_eq_ok {r : Outcome α} {x : α × List Char} : settle r = .ok x ↔ r = .ok x := by
  cases r with
  | error f => exact ⟨fun h => (by cases h), fun h => (by cases h)⟩
  | ok y => exact Iff.rfl

theorem mapOutcome_eq_ok {f : α → β} {r : Outcome α} {b : β} {after : List Char} :
    mapOutcome f r = .ok (b, after) ↔ ∃ a, r = .ok (a, after) ∧ f a = b := by
  rcases r with fault | ⟨a, rest⟩
  · refine ⟨fun h => (by cases h), ?_⟩
    rintro ⟨_, h, -⟩
    cases h
  · rw [mapOutcome, Except.ok.injEq, Prod.mk.injEq]
    constructor
    · rintro ⟨rfl, rfl⟩
      exact ⟨a, rfl, rfl⟩
    · rintro ⟨_, h, rfl⟩
      cases h
      exact ⟨rfl, rfl⟩

theorem close_eq_ok {end_ : List Char → Outcome Unit} {r : Outcome α} {a : α} {after : List Char} :
    close end_ r = .ok (a, after) ↔ ∃ rest, r = .ok (a, rest) ∧ end_ rest = .ok ((), after) := by
  rcases r with fault | ⟨b, rest⟩
  · refine ⟨fun h => ?_, ?_⟩
    · rw [close] at h
      split at h <;> cases h
    · rintro ⟨_, h, -⟩
      cases h
  · rw [close]
    constructor
    · intro h
      split at h
      · next ended =>
        cases h
        exact ⟨rest, rfl, ended⟩
      · cases h
    · rintro ⟨_, h, ended⟩
      cases h
      rw [ended]

/-- What is refused is never taken. -/
theorem refuse_ne_ok (expected : String) (rest : List Char) (x : α × List Char) : refuse expected rest ≠ .ok x := by
  intro h
  rw [refuse] at h
  split at h <;> cases h

theorem readAll_eq_ok {reader : List Char → Outcome α} {text : List Char} {a : α} :
    readAll reader text = .ok a ↔ ∃ rest, reader text = .ok (a, rest) ∧ skipSpace rest = [] := by
  rw [readAll]
  split
  · next fault h =>
    rw [h]
    refine ⟨fun same => (by cases same), ?_⟩
    rintro ⟨_, same, -⟩
    cases same
  · next b rest h =>
    rw [h]
    split
    · next ends =>
      constructor
      · intro same
        cases same
        exact ⟨rest, rfl, ends⟩
      · rintro ⟨_, same, -⟩
        cases same
        rfl
    · next more =>
      refine ⟨fun same => (by cases same), ?_⟩
      rintro ⟨_, same, ends⟩
      cases same
      exact absurd ends more

/-! ## Objects -/

/-- What a value is read from: an array, an object, or something that is neither. -/
theorem value_cases {levels : Nat} {rest after : List Char} {v : Json} (h : value levels rest = .ok (v, after)) :
    (∃ less inside vs, levels = less + 1 ∧ skipSpace rest = '[' :: inside ∧ v = array vs ∧
      close arrayEnd (items (value less) (inside.length + 1) [] inside) = .ok (vs, after)) ∨
    (∃ less inside d, levels = less + 1 ∧ skipSpace rest = '\x7b' :: inside ∧ v = object d ∧
      close objectEnd (valueMembers (value less) inside) = .ok (d, after)) ∨
    ((∀ vs, v ≠ array vs) ∧ ∀ d, v ≠ object d) := by
  have plain {γ : Type} {f : γ → Json} {r : Outcome γ} (h : mapOutcome f r = .ok (v, after))
      (noArray : ∀ c vs, f c ≠ array vs) (noObject : ∀ c d, f c ≠ object d) :
      (∀ vs, v ≠ array vs) ∧ ∀ d, v ≠ object d := by
    obtain ⟨c, -, rfl⟩ := mapOutcome_eq_ok.1 h
    exact ⟨noArray c, noObject c⟩
  have numeral {r : Outcome Numeral} (h : mapOutcome value.ofNumeral r = .ok (v, after)) :
      (∀ vs, v ≠ array vs) ∧ ∀ d, v ≠ object d := by
    refine plain h (fun n _ => ?_) fun n _ => ?_ <;> cases n <;> exact Json.noConfusion
  rw [value] at h
  split at h
  · cases h
  · exact .inr (.inr (plain h (fun _ _ => Json.noConfusion) fun _ _ => Json.noConfusion))
  · exact .inr (.inr (plain h (fun _ _ => Json.noConfusion) fun _ _ => Json.noConfusion))
  · exact .inr (.inr (plain h (fun _ _ => Json.noConfusion) fun _ _ => Json.noConfusion))
  · exact .inr (.inr (plain h (fun _ _ => Json.noConfusion) fun _ _ => Json.noConfusion))
  · exact .inr (.inr (numeral h))
  -- Arrays and objects are read only while levels are left.
  · next inside hstart =>
    cases levels with
    | zero => cases h
    | succ less =>
      obtain ⟨vs, read, rfl⟩ := mapOutcome_eq_ok.1 h
      exact .inl ⟨less, inside, vs, rfl, hstart, rfl, read⟩
  · next inside hstart =>
    cases levels with
    | zero => cases h
    | succ less =>
      obtain ⟨d, read, rfl⟩ := mapOutcome_eq_ok.1 h
      exact .inr (.inl ⟨less, inside, d, rfl, hstart, rfl, read⟩)
  · split at h
    · exact .inr (.inr (numeral h))
    · cases h

/-- An object is decoded where an object is read, and as the same. -/
theorem document_eq_ok {levels : Nat} {rest after : List Char} {d : Document} :
    document levels rest = .ok (d, after) ↔ value levels rest = .ok (object d, after) := by
  constructor
  · intro h
    rw [document] at h
    split at h
    · next inside hstart =>
      cases levels with
      | zero => cases h
      | succ less =>
        rw [value_brace hstart]
        exact mapOutcome_eq_ok.2 ⟨d, settle_eq_ok.1 h, rfl⟩
    · exact absurd h (refuse_ne_ok _ _ _)
  · intro h
    rcases value_cases h with ⟨_, _, _, -, -, same, -⟩ | ⟨less, inside, d', rfl, hstart, same, read⟩ | ⟨-, none⟩
    · cases same
    · cases same
      rw [document, hstart]
      exact settle_eq_ok.2 read
    · exact absurd rfl (none d)

/-! ## Lists of objects -/

/-- What was read before is among the items at the end. -/
theorem mem_of_items {item : List Char → Outcome α} {fuel : Nat} {read all : List α} {rest after : List Char}
    (h : items item fuel read rest = .ok (all, after)) {a : α} (ha : a ∈ read) : a ∈ all := by
  induction fuel generalizing read rest with
  | zero => cases h
  | succ fuel ih =>
    rw [items] at h
    split at h
    · cases h
    · cases h
      exact List.mem_reverse.2 ha
    · split at h
      · cases h
      · exact ih h (List.mem_cons_of_mem _ ha)

/-- If one reader takes what another one reads as a wrapped value, it takes a list of items where the other one
reads wrapped values only. -/
theorem items_eq_ok {item : List Char → Outcome α} {reader : List Char → Outcome β} {wrap : α → β}
    (injective : ∀ a b, wrap a = wrap b → a = b)
    (each : ∀ rest a after, item rest = .ok (a, after) ↔ reader rest = .ok (wrap a, after)) {fuel : Nat}
    {read all : List α} {rest after : List Char} :
    items item fuel read rest = .ok (all, after) ↔
      items reader fuel (read.map wrap) rest = .ok (all.map wrap, after) := by
  induction fuel generalizing read rest with
  | zero => exact ⟨fun h => (by cases h), fun h => (by cases h)⟩
  | succ fuel ih =>
    rw [items, items, List.isEmpty_map]
    split
    · exact ⟨fun h => (by cases h), fun h => (by cases h)⟩
    · rw [Except.ok.injEq, Except.ok.injEq, Prod.mk.injEq, Prod.mk.injEq, ← List.map_reverse]
      refine and_congr_left fun _ => ⟨congrArg _, fun same => ?_⟩
      exact (List.map_inj_right injective).1 same
    · next start _ =>
      cases hreader : reader start with
      | error fault =>
        cases hitem : item start with
        | error fault' => exact ⟨fun h => (by cases h), fun h => (by cases h)⟩
        | ok taken =>
          have read := (each start taken.1 taken.2).1 hitem
          rw [hreader] at read
          cases read
      | ok found =>
        cases hitem : item start with
        | ok taken =>
          have same := (each start taken.1 taken.2).1 hitem
          rw [hreader] at same
          cases same
          exact ih
        | error fault =>
          refine ⟨fun h => (by cases h), fun h => ?_⟩
          -- What was found here is a wrapped value, so it would have been taken.
          obtain ⟨a, -, ha⟩ := List.mem_map.1 (mem_of_items h List.mem_cons_self)
          have taken := (each start a found.2).2 (by rw [hreader, ha])
          rw [hitem] at taken
          cases taken

/-- A list of objects is decoded where an array of objects is read, and as the same. -/
theorem list_document_eq_ok {levels : Nat} {rest after : List Char} {documents : List Document} :
    list document levels rest = .ok (documents, after) ↔
      value levels rest = .ok (array (documents.map object), after) := by
  have content (levels : Nat) (inside : List Char) :
      close arrayEnd (items (document levels) (inside.length + 1) [] inside) = .ok (documents, after) ↔
        close arrayEnd (items (value levels) (inside.length + 1) [] inside) =
          .ok (documents.map object, after) := by
    rw [close_eq_ok, close_eq_ok]
    refine exists_congr fun more => and_congr_left fun _ => ?_
    exact @items_eq_ok _ _ (document levels) (value levels) object (fun _ _ => object.inj)
      (fun _ _ _ => document_eq_ok) _ [] documents inside more
  constructor
  · intro h
    rw [list] at h
    split at h
    · next inside hstart =>
      cases levels with
      | zero => cases h
      | succ less =>
        rw [value_bracket hstart]
        exact mapOutcome_eq_ok.2 ⟨_, (content less inside).1 (settle_eq_ok.1 h), rfl⟩
    · exact absurd h (refuse_ne_ok _ _ _)
  · intro h
    rcases value_cases h with ⟨less, inside, vs, rfl, hstart, same, read⟩ | ⟨_, _, _, -, -, same, -⟩ | ⟨none, -⟩
    · cases same
      rw [list, hstart]
      exact settle_eq_ok.2 ((content less inside).2 read)
    · cases same
    · exact absurd rfl (none _)

/-- The document that a value is, if it is an object. -/
def document? : Json → Option Document
  | object d => some d
  | _ => none

/-- The documents that a value is an array of, if it is one. -/
def documents? : Json → Option (List Document)
  | array items => items.mapM document?
  | _ => none

theorem document?_eq_some {v : Json} {d : Document} : document? v = some d ↔ v = object d := by
  cases v <;> simp [document?]

theorem documents?_eq_some {v : Json} {documents : List Document} :
    documents? v = some documents ↔ v = array (documents.map object) := by
  have each (items : List Json) (documents : List Document) :
      items.mapM document? = some documents ↔ items = documents.map object := by
    induction items generalizing documents with
    | nil => cases documents <;> simp
    | cons item items ih =>
      cases documents with
      | nil => simp [List.mapM_cons, Option.bind_eq_some_iff]
      | cons d documents =>
        simp [List.mapM_cons, Option.bind_eq_some_iff, document?_eq_some, ih]
  cases v with
  | array items =>
    rw [documents?, each]
    exact ⟨congrArg array, array.inj⟩
  | _ => simp [documents?]

/-- A text is decoded as documents if it is read as one value, an array of objects, and then as these. -/
theorem decodeAll_eq_ok {text : String} {documents : List Document} :
    decodeAll (list document) text = .ok documents ↔ (parse text).toOption.bind documents? = some documents := by
  have whole : decodeAll (list document) text = .ok documents ↔
      parse text = .ok (array (documents.map object)) := by
    rw [decodeAll, parse, readAll_eq_ok, readAll_eq_ok]
    exact exists_congr fun rest => and_congr_left fun _ => list_document_eq_ok
  rw [whole]
  cases parse text with
  | error e => simp [Except.toOption]
  | ok v => simp [Except.toOption, documents?_eq_some]

/-- Documents that are left of a value without repeated keys are the objects that are written, each without
repeated keys. -/
theorem documents?_merged {v : Json} {documents : List Document} (h : documents? (merged v) = some documents) :
    ∃ written, v = array (written.map object) ∧ List.Forall₂ KeepsLast written documents := by
  -- A value keeps its kind when its keys are merged, so objects come of objects only.
  have each (items : List Json) (documents : List Document) (h : items.map merged = documents.map object) :
      ∃ written, items = written.map object ∧ List.Forall₂ KeepsLast written documents := by
    induction items generalizing documents with
    | nil =>
      cases documents with
      | nil => exact ⟨[], rfl, .nil⟩
      | cons d documents => cases h
    | cons item items ih =>
      cases documents with
      | nil => cases h
      | cons d documents =>
        rw [List.map_cons, List.map_cons, List.cons.injEq] at h
        obtain ⟨written, rfl, kept⟩ := ih documents h.2
        cases item with
        | object members =>
          cases h.1
          exact ⟨members :: written, rfl, .cons (keepsLast_merged members) kept⟩
        | _ => cases h.1
  rw [documents?_eq_some] at h
  cases v with
  | array items =>
    rw [merged, mergedItems_eq, array.injEq] at h
    obtain ⟨written, rfl, kept⟩ := each items documents h
    exact ⟨written, rfl, kept⟩
  | _ => cases h

end Fixtures.Json
