import Fixtures.Proofs.Json.Skipping
import Mathlib.Data.List.Nodup

/-!
# Texts that are decoded

What the decoders of `Json.Decode` read of the texts of a value (`Decodes`). Simple values and arrays are read as
they are written; a record is read from an object with its members in any order and among others, and from the
array of its values.

## Main results

* `decodes_list`: an array of values that are decoded is decoded.
* `decodes_record`: a record of values that are decoded is decoded.
* `decodeAll_of_decodes`: a whole text is decoded.
-/

namespace Fixtures.Json

open Data (Fields Slots Record Found)

/-! ## Strings -/

theorem escaped_of_mem {e c : Char} (h : (e, c) ∈ shortEscapes) (rest : List Char) :
    escaped (e :: rest) = .ok (c, rest) := by
  simp only [shortEscapes, List.mem_cons, Prod.mk.injEq, List.not_mem_nil, or_false] at h
  rcases h with ⟨rfl, rfl⟩ | ⟨rfl, rfl⟩ | ⟨rfl, rfl⟩ | ⟨rfl, rfl⟩ | ⟨rfl, rfl⟩ | ⟨rfl, rfl⟩ | ⟨rfl, rfl⟩ |
    ⟨rfl, rfl⟩ <;> rfl

/-- A code that is no half of a pair stands for its character. -/
theorem escaped_alone {w x y z : Char} {n : Nat} (h : Text.readHex? [w, x, y, z] = some n)
    (alone : n < 0xD800 ∨ 0xDFFF < n) (rest : List Char) :
    escaped ('u' :: w :: x :: y :: z :: rest) = .ok (Char.ofNat n, rest) := by
  have noLow : ¬ (0xDC00 ≤ n ∧ n ≤ 0xDFFF) := by omega
  have noHigh : ¬ (0xD800 ≤ n ∧ n ≤ 0xDBFF) := by omega
  simp only [escaped, fourHex_of_readHex? h, if_neg noLow, if_neg noHigh]

/-- Two codes that are a pair stand for one character. -/
theorem escaped_pair {w x y z w' x' y' z' : Char} {high low : Nat} (h : Text.readHex? [w, x, y, z] = some high)
    (inHigh : 0xD800 ≤ high ∧ high ≤ 0xDBFF) (h' : Text.readHex? [w', x', y', z'] = some low)
    (inLow : 0xDC00 ≤ low ∧ low ≤ 0xDFFF) (rest : List Char) :
    escaped ('u' :: w :: x :: y :: z :: '\\' :: 'u' :: w' :: x' :: y' :: z' :: rest) =
      .ok (Char.ofNat ((high - 0xD800) * 0x400 + (low - 0xDC00) + 0x10000), rest) := by
  have noLow : ¬ (0xDC00 ≤ high ∧ high ≤ 0xDFFF) := by omega
  simp only [escaped, fourHex_of_readHex? h, if_neg noLow, if_pos inHigh, lowSurrogate, fourHex_of_readHex? h',
    if_pos inLow]

/-- The characters of a string are read as those that they stand for. -/
theorem stringChars_of_spells {fuel : Nat} {text chars rest : List Char} (h : Spells text chars rest)
    (read : List Char) (enough : text.length < fuel) :
    stringChars fuel read text = .ok (String.ofList (read.reverse ++ chars), rest) := by
  -- Along the spelling; escapes take more characters, but one step each.
  induction h generalizing fuel read with
  | close =>
    obtain ⟨fuel, rfl⟩ := Nat.exists_eq_succ_of_ne_zero (Nat.ne_zero_of_lt enough)
    rw [stringChars, if_pos rfl, List.append_nil]
  | plain plain _ ih =>
    obtain ⟨fuel, rfl⟩ := Nat.exists_eq_succ_of_ne_zero (Nat.ne_zero_of_lt enough)
    obtain ⟨quote, slash, visible⟩ := plain
    rw [stringChars, if_neg quote, if_neg slash, if_neg (by omega), ih _ (Nat.lt_of_succ_lt_succ enough)]
    simp
  | short short _ ih =>
    obtain ⟨fuel, rfl⟩ := Nat.exists_eq_succ_of_ne_zero (Nat.ne_zero_of_lt enough)
    simp only [List.length_cons] at enough
    rw [stringChars, if_neg (by decide), if_pos rfl, escaped_of_mem short]
    simp [ih _ (show _ < fuel by omega)]
  | code digits alone _ ih =>
    obtain ⟨fuel, rfl⟩ := Nat.exists_eq_succ_of_ne_zero (Nat.ne_zero_of_lt enough)
    simp only [List.length_cons] at enough
    rw [stringChars, if_neg (by decide), if_pos rfl, escaped_alone digits alone]
    simp [ih _ (show _ < fuel by omega)]
  | pair digits inHigh digits' inLow _ ih =>
    obtain ⟨fuel, rfl⟩ := Nat.exists_eq_succ_of_ne_zero (Nat.ne_zero_of_lt enough)
    simp only [List.length_cons] at enough
    rw [stringChars, if_neg (by decide), if_pos rfl, escaped_pair digits inHigh digits' inLow]
    simp [ih _ (show _ < fuel by omega)]

/-- A string is read as the text that it spells. -/
theorem stringBody_of_spells {s : String} {text rest : List Char} (h : Spells text s.toList rest) :
    stringBody text = .ok (s, rest) := by
  rw [stringBody, stringChars_of_spells h [] (Nat.lt_succ_self _)]
  simp

/-! ## Items and members -/

section Separators

variable {first : Bool} {text rest : List Char}

theorem nextItem_of_leads {c : Char} {more : List Char} (h : Leads first text (c :: more))
    (visible : isSpace c = false) (closing : c ≠ ']') : nextItem first text = .ok (true, c :: more) := by
  cases h with
  | first blank =>
    rw [nextItem, blank.skipSpace_cons visible]
    simp
  | comma before behind =>
    rw [nextItem, before.skipSpace_cons (by decide)]
    simp [behind.skipSpace_cons visible, closing]

theorem nextItem_of_end (h : Blank text (']' :: rest)) : nextItem first text = .ok (false, ']' :: rest) := by
  rw [nextItem, h.skipSpace_cons (by decide)]
  rfl

theorem arrayEnd_of_end (h : Blank text (']' :: rest)) : arrayEnd text = .ok ((), rest) := by
  rw [arrayEnd, h.skipSpace_cons (by decide)]
  rfl

theorem nextKey_of_leads {key mark : List Char} {name : String} (h : Leads first text ('"' :: key))
    (named : Spells key name.toList mark) : nextKey first text = .ok (some name, mark) := by
  cases h with
  | first blank =>
    rw [nextKey, blank.skipSpace_cons (by decide)]
    simp [nextKey.key, stringBody_of_spells named]
  | comma before behind =>
    rw [nextKey, before.skipSpace_cons (by decide)]
    simp [behind.skipSpace_cons (by decide), nextKey.key, stringBody_of_spells named]

theorem nextKey_of_end (h : Blank text ('\x7d' :: rest)) :
    nextKey first text = .ok (none, '\x7d' :: rest) := by
  rw [nextKey, h.skipSpace_cons (by decide)]
  rfl

theorem objectEnd_of_end (h : Blank text ('\x7d' :: rest)) : objectEnd text = .ok ((), rest) := by
  rw [objectEnd, h.skipSpace_cons (by decide)]
  rfl

end Separators

/-! ## Decoded values -/

/-- Every text of a value is decoded, as long as so many more arrays and objects may be opened. -/
def Decodes {α : Type} (depth : Nat) (decode : Decoder α) (a : α) (j : Json) : Prop :=
  ∀ levels, depth ≤ levels → ∀ start text rest, Blank start text → Writes (.value j) text rest →
    EndsNumeral rest → decode levels start = .ok (a, rest)

section Values

variable {α β : Type} {depth : Nat} {decode : Decoder α} {a : α} {j : Json}

/-- Texts are decoded. -/
theorem decodes_text (expected s : String) : Decodes depth (text expected) s (.string s) := by
  intro levels _ start text rest blank written _
  cases written with
  | string spelled =>
    rw [Json.text, blank.skipSpace_cons (by decide)]
    simp only [stringBody_of_spells spelled]

/-- A number is found behind white space. -/
theorem found_digit {c : Char} (h : Text.isDigit c = true) {start more : List Char}
    (blank : Blank start (c :: more)) : found start = mapOutcome foundNumeral (number false (c :: more)) := by
  rw [found, blank.skipSpace_cons (isSpace_digit h)]
  split
  case h_1 he => cases he
  case h_9 he =>
    cases he
    rw [if_pos h]
  all_goals
    next he =>
    cases he
    exact absurd h (by decide)

/-- Numbers of 64 bits are decoded. -/
theorem decodes_unsigned (expected : String) {least n : Nat} (atLeast : least ≤ n) (fits : n < UInt64.size) :
    Decodes depth (unsigned expected least) n (.int n) := by
  intro levels _ start text rest blank written ends
  cases written with
  | int =>
    have size : maxExact = UInt64.size - 1 := rfl
    have read := @number_natDigits false n rest (by omega) ends
    rw [afterInteger_of_ends ends] at read
    obtain ⟨c, digits, hc, digit⟩ := Text.natDigits_eq_cons n
    have spelled : Text.intDigits n ++ rest = c :: (digits ++ rest) := by
      show Text.natDigits n ++ rest = _
      rw [hc, List.cons_append]
    rw [hc, List.cons_append] at read
    rw [spelled] at blank
    rw [unsigned, found_digit digit blank, read]
    simp [mapOutcome, foundNumeral, atLeast]

/-- What is decoded and then mapped is decoded to its image. -/
theorem Decodes.map (h : Decodes depth decode a j) (f : α → β) :
    Decodes depth (fun levels rest => mapOutcome f (decode levels rest)) (f a) j := by
  intro levels many start text rest blank written ends
  dsimp only
  rw [h levels many start text rest blank written ends]
  rfl

/-- What is decoded and accepted is decoded to what it is accepted as. -/
theorem decodes_checked (h : Decodes depth decode a j) {shape : α → Except Data.Mismatch β} {b : β}
    (accepted : shape a = .ok b) : Decodes depth (checked decode shape) b j := by
  intro levels many start text rest blank written ends
  simp only [checked, h levels many start text rest blank written ends, accepted]

theorem decodes_none : Decodes depth (optional decode) none .null := by
  intro levels many start text rest blank written ends
  cases written with
  | null =>
    rw [optional, blank.skipSpace_cons (by decide)]
    rfl

/-- A value that is not null is decoded where it is optional. -/
theorem decodes_some (h : Decodes depth decode a j) (there : j ≠ .null) :
    Decodes depth (optional decode) (some a) j := by
  intro levels many start text rest blank written ends
  obtain ⟨c, more, rfl, visible, -, letter⟩ := written.head
  rw [optional, blank.skipSpace_cons visible]
  split
  · next he =>
    cases he
    exact absurd (letter rfl) there
  · next he => rw [h levels many _ _ rest .nil written ends]; rfl

end Values

/-! ## Arrays -/

section Lists

variable {α : Type} {item : List Char → Outcome α} {toJson : α → Json}

/-- The items of an array are read one after another. -/
theorem items_of_writes {xs : List α} (each : ∀ x ∈ xs, ∀ text rest, Writes (.value (toJson x)) text rest →
    EndsNumeral rest → item text = .ok (x, rest)) {fuel : Nat} {read : List α} {text rest : List Char}
    (h : Writes (.items read.isEmpty (xs.map toJson)) text rest) (enough : text.length < fuel) :
    items item fuel read text = .ok (read.reverse ++ xs, ']' :: rest) := by
  induction xs generalizing fuel read text with
  | nil =>
    obtain ⟨fuel, rfl⟩ := Nat.exists_eq_succ_of_ne_zero (Nat.ne_zero_of_lt enough)
    cases h with
    | itemsEnd blank => rw [items, nextItem_of_end blank, List.append_nil]
  | cons x xs ih =>
    obtain ⟨fuel, rfl⟩ := Nat.exists_eq_succ_of_ne_zero (Nat.ne_zero_of_lt enough)
    cases h with
    | item lead first more =>
      have early := lead.length_le
      have shorter := first.length_lt
      obtain ⟨c, behind, rfl, visible, closing, -⟩ := first.head
      have others := @ih (fun y hy => each y (List.mem_cons_of_mem x hy)) fuel (x :: read) _ more (by omega)
      rw [items, nextItem_of_leads lead visible closing]
      simp only [each x List.mem_cons_self _ _ first more.endsNumeral_items, others]
      simp

end Lists

/-- An array of values that are decoded is decoded. -/
theorem decodes_list {α : Type} {depth : Nat} {decode : Decoder α} {toJson : α → Json} {xs : List α}
    (each : ∀ x ∈ xs, Decodes depth decode x (toJson x)) :
    Decodes (depth + 1) (list decode) xs (.array (xs.map toJson)) := by
  intro levels many start text rest blank written ends
  obtain ⟨levels, rfl⟩ := Nat.exists_eq_succ_of_ne_zero (Nat.ne_zero_of_lt many)
  cases written with
  | @array _ text _ inside =>
    have read := @items_of_writes _ (decode levels) toJson xs
      (fun x hx text rest written ends => each x hx levels (Nat.le_of_succ_le_succ many) _ _ _ .nil written ends)
      (text.length + 1) [] text rest inside (Nat.lt_succ_self _)
    rw [list, blank.skipSpace_cons (by decide)]
    simp only [read, close, arrayEnd_of_end .nil]
    rfl

/-! ## Records -/

section Records

variable {ts : List Type} {fields : Fields Decoder ts} {values : Record ts} {ms : List (String × Json)}
  {depth levels : Nat} {text rest : List Char}

/-- The values of the fields of a record are decoded, each where it is written under the name of its field. -/
def FieldsDecode (depth : Nat) : {ts : List Type} → Fields Decoder ts → Record ts → List (String × Json) → Prop
  | _, .nil, _, ms => ms = []
  | _, .cons name decode _ more, (value, values), ms =>
    ∃ j others, ms = (name, j) :: others ∧ Decodes depth decode value j ∧ FieldsDecode depth more values others

theorem FieldsDecode.nil : FieldsDecode depth .nil () [] := rfl

theorem FieldsDecode.cons {t : Type} {decode : Decoder t} {value : t} {j : Json} {name : String} {absent : Option t}
    (h : Decodes depth decode value j) (more : FieldsDecode depth fields values ms) :
    FieldsDecode depth (.cons name decode absent fields) (value, values) ((name, j) :: ms) :=
  ⟨j, ms, rfl, h, more⟩

/-- The slots of a record in which the fields of some names are filled. -/
def filled {D : Type → Type} : {ts : List Type} → Fields D ts → Record ts → (names : List String) → Slots ts
  | _, .nil, _, _ => ()
  | _, .cons name _ _ more, (value, values), names =>
    (if name ∈ names then some value else none, filled more values names)

theorem filled_nil {D : Type → Type} (fields : Fields D ts) (values : Record ts) :
    filled fields values [] = fields.empty := by
  induction fields with
  | nil => rfl
  | cons name _ _ more ih =>
    obtain ⟨value, values⟩ := values
    rw [filled, ih, if_neg List.not_mem_nil, Fields.empty]

/-- A name whose field was not filled was not read. -/
theorem isRead_filled {D : Type → Type} {fields : Fields D ts} {names : List String} {key : String}
    (h : key ∉ names) : fields.isRead (filled fields values names) key = false := by
  induction fields with
  | nil => rfl
  | cons name _ _ more ih =>
    obtain ⟨value, values⟩ := values
    rw [filled, Fields.isRead]
    split
    · next same => rw [same, if_neg h]; rfl
    · exact ih

/-- A name that no field has was not read. -/
theorem isRead_of_not_mem {D : Type → Type} {fields : Fields D ts} {key : String} (h : key ∉ fields.names)
    (slots : Slots ts) : fields.isRead slots key = false := by
  induction fields with
  | nil => rfl
  | cons name _ _ more ih =>
    obtain ⟨slot, slots⟩ := slots
    have ne : name ≠ key := fun same => h (same ▸ List.mem_cons_self)
    rw [Fields.isRead, if_neg ne]
    exact ih (fun there => h (List.mem_cons_of_mem name there)) slots

/-- Once the fields of all names are filled, the record is there. -/
theorem finish_filled {D : Type → Type} {fields : Fields D ts} {names : List String}
    (all : ∀ name ∈ fields.names, name ∈ names) : fields.finish (filled fields values names) = .ok values := by
  induction fields with
  | nil => rfl
  | cons name _ _ more ih =>
    obtain ⟨value, values⟩ := values
    have others := @ih values fun other hother => all other (List.mem_cons_of_mem name hother)
    rw [filled, if_pos (all name List.mem_cons_self), Fields.finish, others]
    rfl

theorem filled_cons_of_not_mem {D : Type → Type} {fields : Fields D ts} {key : String}
    (h : key ∉ fields.names) (values : Record ts) (names : List String) : filled fields values (key :: names) = filled fields values names := by
  induction fields with
  | nil => rfl
  | cons name _ _ more ih =>
    obtain ⟨value, values⟩ := values
    have ne : name ≠ key := fun same => h (same ▸ List.mem_cons_self)
    have others := ih (fun there => h (List.mem_cons_of_mem name there)) values
    simp only [filled, others, List.mem_cons, ne, false_or]
    rfl

theorem FieldsDecode.names (h : FieldsDecode depth fields values ms) : ms.map (·.1) = fields.names := by
  induction fields generalizing ms with
  | nil =>
    rw [show ms = [] from h]
    rfl
  | cons name _ _ more ih =>
    obtain ⟨value, values⟩ := values
    obtain ⟨j, others, rfl, -, decoded⟩ := h
    rw [List.map_cons, ih decoded, Fields.names]

/-- The value of a field goes into its slot. -/
theorem fieldValue_of_mem (h : FieldsDecode depth fields values ms) (distinct : fields.names.Nodup)
    (many : depth ≤ levels) {name : String} {j : Json} (there : (name, j) ∈ ms) (names : List String)
    {start : List Char} (blank : Blank start text) (written : Writes (.value j) text rest)
    (ends : EndsNumeral rest) :
    fieldValue levels fields (filled fields values names) name start =
      .ok (filled fields values (name :: names), rest) := by
  induction fields generalizing ms with
  | nil =>
    rw [show ms = [] from h] at there
    cases there
  | cons other decode _ more ih =>
    obtain ⟨value, values⟩ := values
    obtain ⟨first, others, rfl, decodes, decoded⟩ := h
    obtain ⟨apart, distinct⟩ := List.nodup_cons.1 distinct
    rw [filled, filled, fieldValue]
    -- The field of the name is the first or a later one, which has another name.
    rcases List.mem_cons.1 there with same | later
    · cases same
      rw [if_pos rfl, decodes levels many start text rest blank written ends, if_pos List.mem_cons_self,
        filled_cons_of_not_mem apart]
      rfl
    · have named : name ∈ more.names := by
        rw [← decoded.names]
        exact List.mem_map_of_mem later
      have ne : other ≠ name := fun same => apart (same ▸ named)
      rw [if_neg ne, ih decoded distinct later]
      simp only [mapOutcome, List.mem_cons, ne, false_or]

/-- The value of a key that names no field is passed over. -/
theorem fieldValue_of_not_mem (slots : Slots ts) {name : String} (h : name ∉ fields.names) {start : List Char}
    (blank : Blank start text) (formed : WellFormed .value text rest) (ends : EndsNumeral rest) :
    fieldValue levels fields slots name start = .ok (slots, rest) := by
  induction fields with
  | nil =>
    rw [fieldValue, skipValue_of_wellFormed blank formed ends]
    rfl
  | cons other decode _ more ih =>
    obtain ⟨slot, slots⟩ := slots
    have ne : other ≠ name := fun same => h (same ▸ List.mem_cons_self)
    rw [fieldValue, if_neg ne, ih slots fun there => h (List.mem_cons_of_mem other there)]
    rfl

/-- The members of an object fill the slots of their fields, whatever order they stand in and whatever other
members stand between them. -/
theorem objectFields_of_writes (h : FieldsDecode depth fields values ms) (distinct : fields.names.Nodup)
    (many : depth ≤ levels) {fuel : Nat} {first : Bool} {order : List (String × Json)} {names : List String}
    (known : ∀ m ∈ order, m ∈ ms) (apart : (names ++ order.map (·.1)).Nodup)
    (written : Writes (.members first fields.names order) text rest) (enough : text.length < fuel) :
    objectFields levels fields fuel first (filled fields values names) text =
      .ok (filled fields values ((order.map (·.1)).reverse ++ names), '\x7d' :: rest) := by
  induction fuel generalizing first order names text with
  | zero => exact absurd enough (Nat.not_lt_zero _)
  | succ fuel ih =>
    -- A member fills the slot of its field, which is not filled yet; any other is passed over.
    cases written with
    | membersEnd blank =>
      rw [objectFields, nextKey_of_end blank]
      rfl
    | @member _ _ name j order _ key colon after start behind _ lead named before blank value more =>
      have early := length_start_lt lead named.length_lt before blank
      have shorter := value.length_lt
      have fresh : name ∉ names := fun there =>
        (List.nodup_append.1 apart).2.2 name there name List.mem_cons_self rfl
      have stays : ((name :: names) ++ order.map (·.1)).Nodup := List.nodup_middle.1 apart
      have others := ih (fun m hm => known m (List.mem_cons_of_mem _ hm)) stays more (by omega)
      have read := fieldValue_of_mem h distinct many (known _ List.mem_cons_self) names blank value
        more.endsNumeral_members
      rw [objectFields, nextKey_of_leads lead named]
      simp only [isRead_filled fresh, Bool.false_eq_true, if_false, colon_eq before, read, others]
      simp
    | @unknown _ _ name _ _ key colon after start behind _ other lead named before blank value more =>
      have early := length_start_lt lead named.length_lt before blank
      have shorter := value.length_lt
      have others := ih known apart more (by omega)
      have passed := @fieldValue_of_not_mem ts fields levels start behind (filled fields values names) name other
        after blank value more.endsNumeral_members
      rw [objectFields, nextKey_of_leads lead named]
      simp only [isRead_of_not_mem other, Bool.false_eq_true, if_false, colon_eq before, passed, others]

/-- The items of an array are read as the fields of a record. -/
theorem arrayFields_of_writes (h : FieldsDecode depth fields values ms) (many : depth ≤ levels)
    (expected : String) {index : Nat}
    (written : Writes (.items (index = 0) (ms.map (·.2))) text rest) :
    ∃ last, Blank last (']' :: rest) ∧
      arrayFields levels expected fields index text = .ok (values, last) := by
  induction fields generalizing ms index text with
  | nil =>
    rw [show ms = [] from h] at written
    cases written with
    | itemsEnd blank => exact ⟨text, blank, rfl⟩
  | cons name decode _ more ih =>
    obtain ⟨value, values⟩ := values
    obtain ⟨j, others, rfl, decodes, decoded⟩ := h
    cases written with
    | item lead first more =>
      obtain ⟨c, behind, rfl, visible, closing, -⟩ := first.head
      obtain ⟨last, blank, read⟩ := @ih values others _ decoded (index + 1) (by simpa using more)
      refine ⟨last, blank, ?_⟩
      rw [arrayFields, nextItem_of_leads lead visible closing]
      simp only [decodes levels many _ _ _ .nil first more.endsNumeral_items, read]
      rfl

end Records

/-- A record is decoded from its fields, which are written as an object or as an array. -/
theorem decodes_record {ts : List Type} {α : Type} {depth : Nat} {fields : Fields Decoder ts} {values : Record ts}
    {ms : List (String × Json)} (name : String) (build : Record ts → α)
    (h : FieldsDecode depth fields values ms) (distinct : fields.names.Nodup) :
    Decodes (depth + 1) (record name fields build) (build values) (.object ms) := by
  intro levels many start text rest blank written ends
  obtain ⟨levels, rfl⟩ := Nat.exists_eq_succ_of_ne_zero (Nat.ne_zero_of_lt many)
  have enough := Nat.le_of_succ_le_succ many
  -- An array holds the fields in their order, an object in any order.
  cases written with
  | tuple items =>
    have first : Writes (.items ((0 : Nat) = 0) (ms.map (·.2))) _ rest := items
    obtain ⟨last, ended, read⟩ := arrayFields_of_writes h enough (elementsText name fields.count) first
    rw [record, blank.skipSpace_cons (by decide)]
    simp only [read, close, arrayEnd_of_end ended]
    rfl
  | @object _ order text _ ordered members =>
    rw [h.names] at members
    have keys := (ordered.map (·.1)).trans (.of_eq h.names)
    have apart : (([] : List String) ++ order.map (·.1)).Nodup := keys.nodup_iff.2 distinct
    have read := objectFields_of_writes h distinct enough (fun m hm => ordered.subset hm) apart members
      (Nat.lt_succ_self _)
    rw [filled_nil] at read
    have finished := @finish_filled ts values _ fields ((order.map (·.1)).reverse ++ []) (by
      intro name hname
      simpa using keys.symm.subset hname)
    rw [record, blank.skipSpace_cons (by decide)]
    simp only [read, finishObject, finished, close, objectEnd_of_end .nil]
    rfl

/-- The texts of a value that is decoded are decoded as a whole. -/
theorem decodeAll_of_decodes {α : Type} {depth : Nat} {decode : Decoder α} {a : α} {j : Json}
    (h : Decodes depth decode a j) (shallow : depth ≤ depthLimit) {text : String} (written : IsTextOf j text) :
    decodeAll decode text = .ok a := by
  obtain ⟨start, rest, blank, value, ended⟩ := written
  rw [decodeAll, readAll, h depthLimit shallow _ _ _ blank value ended.endsNumeral_nil]
  simp only [ended.skipSpace_eq]
  rfl

end Fixtures.Json
