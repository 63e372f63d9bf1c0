import Fixtures.Generation.Output
import Fixtures.Json.Decode
import Fixtures.Proofs.Json.Tokens

/-!
# Documents read back

The text of a document file gives back its documents: in the same order, with the same keys in the same
order at every level, and with the same values, as long as these are regular, hold no double and nest no
deeper than the reader allows.

## Shape of the argument

`value_pretty` is by induction on the levels that the reader may still open, since these are what the depth of
the items and members of a container is bounded by. The loops of the reader over items and members are
followed once, in `items_pretty` and `members_pretty`, for any reader of a single item or value.
-/

namespace Fixtures.Json

open Text (natDigits intDigits)

/-! ## What stands between values -/

/-- Numerals end before a comma. -/
theorem endsNumeral_comma (rest : List Char) : EndsNumeral (',' :: rest) := by
  intro c hc
  cases hc
  decide

/-- Numerals end before the end of a line. -/
theorem endsNumeral_newline (level : Nat) (rest : List Char) : EndsNumeral (newline level ++ rest) := by
  intro c hc
  cases hc
  decide

/-- Numerals end before what follows an item. -/
theorem endsNumeral_prettyItems (level : Nat) (items : List Json) (rest : List Char) :
    EndsNumeral (prettyItems level items ++ rest) := by
  cases items with
  | nil =>
    rw [prettyItems, List.append_assoc]
    exact endsNumeral_newline level _
  | cons item items =>
    simp only [prettyItems, List.cons_append]
    exact endsNumeral_comma _

/-- Numerals end before what follows a member. -/
theorem endsNumeral_prettyMembers (level : Nat) (members : List (String × Json)) (rest : List Char) :
    EndsNumeral (prettyMembers level members ++ rest) := by
  cases members with
  | nil =>
    rw [prettyMembers, List.append_assoc]
    exact endsNumeral_newline level _
  | cons member members =>
    simp only [prettyMembers, List.cons_append]
    exact endsNumeral_comma _

/-- A value starts with a character that is no white space and closes no array. -/
theorem head_prettyChars (level : Nat) {j : Json} (h : j.Floatless) :
    ∃ c rest, j.prettyChars level = c :: rest ∧ isSpace c = false ∧ c ≠ ']' := by
  have numeral (n : Nat) : ∃ c rest, natDigits n = c :: rest ∧ isSpace c = false ∧ c ≠ ']' := by
    obtain ⟨c, rest, hc, digit⟩ := Text.natDigits_eq_cons n
    exact ⟨c, rest, hc, isSpace_digit digit, Text.digit_ne digit (by decide)⟩
  cases j with
  | null => exact ⟨_, _, rfl, rfl, by decide⟩
  | bool b => cases b <;> exact ⟨_, _, rfl, rfl, by decide⟩
  | int n =>
    cases n with
    | ofNat n => exact numeral n
    | negSucc n => exact ⟨_, _, rfl, rfl, by decide⟩
  | float x => exact h.elim
  | string s => exact ⟨_, _, rfl, rfl, by decide⟩
  | array items => cases items <;> exact ⟨_, _, rfl, rfl, by decide⟩
  | object members => cases members <;> exact ⟨_, _, rfl, rfl, by decide⟩

/-! ## Arrays -/

theorem nextItem_first (level : Nat) {c : Char} (space : isSpace c = false) (hc : c ≠ ']')
    (rest : List Char) :
    nextItem true (newline level ++ c :: rest) = .ok (true, c :: rest) := by
  simp [nextItem, skipSpace_newline, skipSpace_cons space]

theorem nextItem_more (level : Nat) {c : Char} (space : isSpace c = false) (hc : c ≠ ']')
    (rest : List Char) :
    nextItem false (',' :: (newline level ++ c :: rest)) = .ok (true, c :: rest) := by
  have comma := @skipSpace_cons ',' (by decide) (newline level ++ c :: rest)
  simp [nextItem, comma, skipSpace_newline, skipSpace_cons space, hc]

theorem nextItem_end (first : Bool) (level : Nat) (rest : List Char) :
    nextItem first (newline level ++ ']' :: rest) = .ok (false, ']' :: rest) := by
  have bracket := @skipSpace_cons ']' (by decide) rest
  simp [nextItem, skipSpace_newline, bracket]

theorem arrayEnd_bracket (rest : List Char) : arrayEnd (']' :: rest) = .ok ((), rest) := by
  have bracket := @skipSpace_cons ']' (by decide) rest
  simp [arrayEnd, bracket]

section Items

variable {α : Type} {item : List Char → Outcome α} {toJson : α → Json} {level : Nat} {xs : List α}

/-- The first item behind an opening bracket is read, and then the others. -/
theorem items_first {j : Json} (floatless : j.Floatless) (fuel : Nat) (rest : List Char) :
    items item (fuel + 1) [] (newline (level + 1) ++ (j.prettyChars (level + 1) ++ rest)) =
      (item (j.prettyChars (level + 1) ++ rest)).bind fun a => items item fuel [a.1] a.2 := by
  obtain ⟨c, text, hc, space, notEnd⟩ := head_prettyChars (level + 1) floatless
  rw [hc, List.cons_append, items, List.isEmpty_nil, nextItem_first _ space notEnd]
  dsimp only
  cases item (c :: (text ++ rest)) <;> rfl

/-- The next item behind a comma is read, and then the others. -/
theorem items_next {j : Json} (floatless : j.Floatless) {read : List α} (more : read.isEmpty = false) (fuel : Nat)
    (js : List Json) (rest : List Char) :
    items item (fuel + 1) read (prettyItems level (j :: js) ++ rest) =
      (item (j.prettyChars (level + 1) ++ (prettyItems level js ++ rest))).bind fun a =>
        items item fuel (a.1 :: read) a.2 := by
  obtain ⟨c, text, hc, space, notEnd⟩ := head_prettyChars (level + 1) floatless
  rw [prettyItems, hc, items, more]
  simp only [List.append_assoc, List.cons_append]
  rw [nextItem_more _ space notEnd]
  dsimp only
  cases item (c :: (text ++ (prettyItems level js ++ rest))) <;> rfl

/-- The items after the first are read in order. -/
theorem items_pretty
    (hitem : ∀ x ∈ xs, ∀ rest, EndsNumeral rest →
      item ((toJson x).prettyChars (level + 1) ++ rest) = .ok (x, rest))
    (floatless : ∀ x ∈ xs, (toJson x).Floatless) {read : List α} (more : read.isEmpty = false)
    {fuel : Nat} (enough : xs.length < fuel) (rest : List Char) :
    items item fuel read (prettyItems level (xs.map toJson) ++ rest) =
      .ok (read.reverse ++ xs, ']' :: rest) := by
  induction xs generalizing read fuel with
  | nil =>
    obtain ⟨fuel, rfl⟩ := Nat.exists_eq_add_of_lt enough
    rw [List.map_nil, prettyItems, List.append_assoc, List.singleton_append, items, nextItem_end]
    simp
  | cons x xs ih =>
    obtain ⟨fuel, rfl⟩ : ∃ less, fuel = less + 1 := ⟨fuel - 1, by simp at enough; omega⟩
    have others := ih (fun y hy => hitem y (List.mem_cons_of_mem _ hy))
      (fun y hy => floatless y (List.mem_cons_of_mem _ hy)) (show (x :: read).isEmpty = false from rfl)
      (by simpa using enough)
    rw [List.map_cons, items_next (floatless x List.mem_cons_self) more,
      hitem x List.mem_cons_self _ (endsNumeral_prettyItems level _ rest)]
    exact others.trans (by simp)

theorem length_le_prettyItems (level : Nat) (items : List Json) :
    items.length ≤ (prettyItems level items).length := by
  induction items with
  | nil => simp
  | cons item items ih =>
    simp only [prettyItems, List.cons_append, List.length_cons, List.length_append]
    omega

/-- An array is read from its opening bracket to its closing one. -/
theorem array_pretty
    (hitem : ∀ x ∈ xs, ∀ rest, EndsNumeral rest →
      item ((toJson x).prettyChars (level + 1) ++ rest) = .ok (x, rest))
    (floatless : ∀ x ∈ xs, (toJson x).Floatless) (rest : List Char) :
    ∃ text, (array (xs.map toJson)).prettyChars level ++ rest = '[' :: text ∧
      close arrayEnd (items item (text.length + 1) [] text) = .ok (xs, rest) := by
  cases xs with
  | nil => exact ⟨_, rfl, rfl⟩
  | cons x xs =>
    have long := length_le_prettyItems level (xs.map toJson)
    rw [List.length_map] at long
    refine ⟨newline (level + 1) ++ ((toJson x).prettyChars (level + 1) ++ (prettyItems level (xs.map toJson) ++ rest)),
      by simp [prettyChars], ?_⟩
    rw [items_first (floatless x List.mem_cons_self),
      hitem x List.mem_cons_self _ (endsNumeral_prettyItems level _ rest)]
    show close arrayEnd (items item _ [x] (prettyItems level (xs.map toJson) ++ rest)) = _
    rw [items_pretty (fun y hy => hitem y (List.mem_cons_of_mem _ hy))
      (fun y hy => floatless y (List.mem_cons_of_mem _ hy)) rfl]
    · simp [close, arrayEnd_bracket]
    · simp only [newline, List.length_append, List.length_cons]
      omega

end Items

/-! ## Objects -/

theorem key_quote (key : String) (rest : List Char) :
    nextKey.key (key.toList.flatMap escape ++ '"' :: rest) = .ok (some key, rest) := by
  rw [nextKey.key, stringBody_quote]

theorem nextKey_first (level : Nat) (key : String) (rest : List Char) :
    nextKey true (newline level ++ (quote key ++ rest)) = .ok (some key, rest) := by
  have mark := @skipSpace_cons '"' (by decide) (key.toList.flatMap escape ++ '"' :: rest)
  simp [nextKey, quote_append, skipSpace_newline, mark, key_quote]

theorem nextKey_more (level : Nat) (key : String) (rest : List Char) :
    nextKey false (',' :: (newline level ++ (quote key ++ rest))) = .ok (some key, rest) := by
  have mark := @skipSpace_cons '"' (by decide) (key.toList.flatMap escape ++ '"' :: rest)
  rw [quote_append]
  have comma := @skipSpace_cons ',' (by decide)
    (newline level ++ '"' :: (key.toList.flatMap escape ++ '"' :: rest))
  simp [nextKey, comma, skipSpace_newline, mark, key_quote]

theorem nextKey_end (first : Bool) (level : Nat) (rest : List Char) :
    nextKey first (newline level ++ '\x7d' :: rest) = .ok (none, '\x7d' :: rest) := by
  have brace := @skipSpace_cons '\x7d' (by decide) rest
  simp [nextKey, skipSpace_newline, brace]

theorem objectEnd_brace (rest : List Char) : objectEnd ('\x7d' :: rest) = .ok ((), rest) := by
  have brace := @skipSpace_cons '\x7d' (by decide) rest
  simp [objectEnd, brace]

theorem colon_cons (rest : List Char) : colon (':' :: rest) = .ok ((), rest) := by
  have mark := @skipSpace_cons ':' (by decide) rest
  simp [colon, mark]

theorem length_le_prettyMembers (level : Nat) (members : List (String × Json)) :
    members.length ≤ (prettyMembers level members).length := by
  induction members with
  | nil => simp
  | cons member members ih =>
    simp only [prettyMembers, List.cons_append, List.length_cons, List.length_append]
    omega

section Members

variable {read : List Char → Outcome Json} {level : Nat} {ms : List (String × Json)}

/-- How an object of values takes a member that is read. -/
def takeMember (read : List Char → Outcome Json) (members : Document) (key : String)
    (rest : List Char) : Outcome Document :=
  match read rest with
  | .ok (v, rest) => .ok (setMember members key v, rest)
  | .error f => .error f

theorem valueMembers_eq (rest : List Char) :
    valueMembers read rest = members (takeMember read) (rest.length + 1) true [] rest := rfl

/-- The first member behind an opening brace is taken, and then the others. -/
theorem members_first (before : Document) (key : String) (fuel : Nat) (rest : List Char) :
    members (takeMember read) (fuel + 1) true before (newline (level + 1) ++ (quote key ++ (':' :: rest))) =
      (takeMember read before key rest).bind fun d => members (takeMember read) fuel false d.1 d.2 := by
  rw [members, nextKey_first]
  simp only [colon_cons]
  cases takeMember read before key rest <;> rfl

/-- The next member behind a comma is taken, and then the others. -/
theorem members_next (before : Document) (key : String) (v : Json) (fuel : Nat) (rest : List Char) :
    members (takeMember read) (fuel + 1) false before (prettyMembers level ((key, v) :: ms) ++ rest) =
      (takeMember read before key (' ' :: v.prettyChars (level + 1) ++ (prettyMembers level ms ++ rest))).bind
        fun d => members (takeMember read) fuel false d.1 d.2 := by
  rw [prettyMembers]
  simp only [List.append_assoc, List.cons_append]
  rw [members, nextKey_more]
  simp only [colon_cons]
  cases takeMember read before key (' ' :: (v.prettyChars (level + 1) ++ (prettyMembers level ms ++ rest))) <;> rfl

/-- The members after the first are read in order. -/
theorem members_pretty
    (hread : ∀ m ∈ ms, ∀ rest, EndsNumeral rest →
      read (' ' :: m.2.prettyChars (level + 1) ++ rest) = .ok (m.2, rest))
    {before : Document} (distinct : ((before ++ ms).map (·.1)).Nodup)
    {fuel : Nat} (enough : ms.length < fuel) (rest : List Char) :
    members (takeMember read) fuel false before (prettyMembers level ms ++ rest) =
      .ok (before ++ ms, '\x7d' :: rest) := by
  induction ms generalizing before fuel with
  | nil =>
    obtain ⟨fuel, rfl⟩ := Nat.exists_eq_add_of_lt enough
    rw [prettyMembers, List.append_assoc, List.singleton_append, members, nextKey_end]
    simp
  | cons m ms ih =>
    obtain ⟨key, v⟩ := m
    obtain ⟨fuel, rfl⟩ : ∃ less, fuel = less + 1 := ⟨fuel - 1, by simp at enough; omega⟩
    have first := hread (key, v) List.mem_cons_self (prettyMembers level ms ++ rest)
      (endsNumeral_prettyMembers level _ rest)
    -- A key that was read before would be set in its old place; this one is new, and comes last.
    have fresh : key ∉ before.map (·.1) := by
      intro hk
      rw [List.map_append, List.nodup_append] at distinct
      exact distinct.2.2 key hk key List.mem_cons_self rfl
    have taken : takeMember read before key
        (' ' :: v.prettyChars (level + 1) ++ (prettyMembers level ms ++ rest)) =
          .ok (before ++ [(key, v)], prettyMembers level ms ++ rest) := by
      rw [takeMember, first]
      simp only [setMember_of_not_mem fresh]
    have others := @ih (fun m hm => hread m (List.mem_cons_of_mem _ hm)) (before ++ [(key, v)])
      (by simpa using distinct) fuel (by simpa using enough)
    rw [members_next, taken]
    exact others.trans (by simp)

/-- An object is read from its opening brace to its closing one. -/
theorem object_pretty
    (hread : ∀ m ∈ ms, ∀ rest, EndsNumeral rest →
      read (' ' :: m.2.prettyChars (level + 1) ++ rest) = .ok (m.2, rest))
    (distinct : (ms.map (·.1)).Nodup) (rest : List Char) :
    ∃ text, (object ms).prettyChars level ++ rest = '\x7b' :: text ∧
      close objectEnd (valueMembers read text) = .ok (ms, rest) := by
  cases ms with
  | nil => exact ⟨_, rfl, rfl⟩
  | cons m ms =>
    obtain ⟨key, v⟩ := m
    have first := hread (key, v) List.mem_cons_self (prettyMembers level ms ++ rest)
      (endsNumeral_prettyMembers level _ rest)
    have taken : takeMember read [] key
        (' ' :: v.prettyChars (level + 1) ++ (prettyMembers level ms ++ rest)) =
          .ok ([(key, v)], prettyMembers level ms ++ rest) := by
      rw [takeMember, first]
      rfl
    have long := length_le_prettyMembers level ms
    refine ⟨newline (level + 1) ++ (quote key ++
      (':' :: (' ' :: v.prettyChars (level + 1) ++ (prettyMembers level ms ++ rest)))), by simp [prettyChars], ?_⟩
    rw [valueMembers_eq, members_first, taken]
    show close objectEnd (members (takeMember read) _ false [(key, v)] (prettyMembers level ms ++ rest)) = _
    rw [members_pretty (fun m hm => hread m (List.mem_cons_of_mem _ hm)) distinct]
    · simp [close, objectEnd_brace]
    · simp only [List.length_append, List.length_cons]
      omega

end Members

/-! ## Values -/

/-- A blank before a value is passed over. -/
theorem value_blank (levels : Nat) (rest : List Char) :
    value levels (' ' :: rest) = value levels rest := by
  have blank : skipSpace (' ' :: rest) = skipSpace rest := rfl
  rw [value, value, blank]

theorem value_digit (levels : Nat) {c : Char} (h : Text.isDigit c = true) (rest : List Char) :
    value levels (c :: rest) = mapOutcome value.ofNumeral (number false (c :: rest)) := by
  rw [value, skipSpace_cons (isSpace_digit h)]
  split
  case h_9 he =>
    cases he
    rw [if_pos h]
  all_goals
    next he =>
    cases he
    try exact absurd h (by decide)

/-- An integer is read back. -/
theorem value_intDigits (levels : Nat) {n : Int} (fits : FitsWord n) {rest : List Char}
    (ends : EndsNumeral rest) : value levels (intDigits n ++ rest) = .ok (int n, rest) := by
  obtain ⟨least, greatest⟩ := fits
  cases n with
  | ofNat n =>
    have small : n ≤ maxExact := by
      have size : maxExact = 2 ^ 64 - 1 := rfl
      simp only [Int.ofNat_eq_natCast] at greatest
      omega
    have read := @number_natDigits false n rest small ends
    obtain ⟨c, digits, hc, digit⟩ := Text.natDigits_eq_cons n
    rw [hc] at read
    rw [intDigits, hc, List.cons_append, value_digit _ digit, ← List.cons_append, read,
      afterInteger_of_ends ends]
    simp [mapOutcome, value.ofNumeral]
  | negSucc n =>
    have small : n + 1 ≤ 2 ^ 63 := by
      rw [Int.negSucc_eq] at least
      omega
    have half : UInt64.size / 2 = 2 ^ 63 := rfl
    have size : maxExact = 2 ^ 64 - 1 := rfl
    have read := @number_natDigits true (n + 1) rest (by omega) ends
    rw [intDigits, List.cons_append, value, skipSpace_cons (by decide)]
    have inside : ¬ (n + 1 = 0 ∨ UInt64.size / 2 < n + 1) := by omega
    rw [afterInteger_of_ends ends, if_neg (by simp), if_neg inside] at read
    simp only [read, mapOutcome, value.ofNumeral, Int.negSucc_eq, Int.natCast_add, Int.cast_ofNat_Int]

/-- A value is read back, whatever follows it, as long as no more levels are open than the reader allows. -/
theorem value_pretty {levels : Nat} {j : Json} (level : Nat) (shallow : j.depth ≤ levels)
    (regular : j.Regular) (floatless : j.Floatless) {rest : List Char} (ends : EndsNumeral rest) :
    value levels (j.prettyChars level ++ rest) = .ok (j, rest) := by
  -- The values within are read with one level less, so the induction is on the levels and not on the value.
  induction levels using Nat.strongRecOn generalizing j level rest with
  | ind levels ih =>
    cases j with
    | null =>
      show value levels ('n' :: 'u' :: 'l' :: 'l' :: rest) = _
      rw [value, skipSpace_cons (by decide)]
      rfl
    | bool b =>
      cases b with
      | true =>
        show value levels ('t' :: 'r' :: 'u' :: 'e' :: rest) = _
        rw [value, skipSpace_cons (by decide)]
        rfl
      | false =>
        show value levels ('f' :: 'a' :: 'l' :: 's' :: 'e' :: rest) = _
        rw [value, skipSpace_cons (by decide)]
        rfl
    | int n => exact value_intDigits _ regular ends
    | float x => exact floatless.elim
    | string s =>
      have text := stringBody_quote s rest
      show value levels (quote s ++ rest) = _
      rw [quote_append, value, skipSpace_cons (by decide)]
      simp only [text, mapOutcome]
    | array items =>
      obtain ⟨levels, rfl⟩ : ∃ less, levels = less + 1 := ⟨levels - 1, by rw [depth] at shallow; omega⟩
      have shallower := depthItems_le_iff.1 (Nat.le_of_succ_le_succ shallow)
      have read (item : Json) (h : item ∈ items) (rest : List Char) (ends : EndsNumeral rest) :
          value levels (prettyChars (level + 1) (id item) ++ rest) = .ok (item, rest) :=
        ih levels (Nat.lt_succ_self _) (level + 1) (shallower item h)
          (regularItems_iff.1 regular item h) (floatlessItems_iff.1 floatless item h) ends
      obtain ⟨text, htext, hread⟩ := @array_pretty _ _ _ level _ read (floatlessItems_iff.1 floatless) rest
      rw [List.map_id] at htext
      rw [htext, value, skipSpace_cons (by decide)]
      simp only [hread, mapOutcome]
    | object members =>
      obtain ⟨levels, rfl⟩ : ∃ less, levels = less + 1 := ⟨levels - 1, by rw [depth] at shallow; omega⟩
      have shallower := depthMembers_le_iff.1 (Nat.le_of_succ_le_succ shallow)
      have read (m : String × Json) (h : m ∈ members) (rest : List Char) (ends : EndsNumeral rest) :
          value levels (' ' :: m.2.prettyChars (level + 1) ++ rest) = .ok (m.2, rest) := by
        rw [List.cons_append, value_blank]
        exact ih levels (Nat.lt_succ_self _) (level + 1) (shallower m h)
          (regularMembers_iff.1 regular.2 m h) (floatlessMembers_iff.1 floatless m h) ends
      obtain ⟨text, htext, hread⟩ := @object_pretty _ level _ read regular.1 rest
      rw [htext, value, skipSpace_cons (by decide)]
      simp only [hread, mapOutcome]

/-! ## Document files -/

/-- A document is read back. -/
theorem document_pretty {levels : Nat} {d : Document} (level : Nat)
    (shallow : (object d).depth ≤ levels) (regular : (object d).Regular)
    (floatless : (object d).Floatless) (rest : List Char) :
    document levels ((object d).prettyChars level ++ rest) = .ok (d, rest) := by
  obtain ⟨levels, rfl⟩ : ∃ less, levels = less + 1 := ⟨levels - 1, by rw [depth] at shallow; omega⟩
  have shallower := depthMembers_le_iff.1 (Nat.le_of_succ_le_succ shallow)
  have read (m : String × Json) (h : m ∈ d) (rest : List Char) (ends : EndsNumeral rest) :
      value levels (' ' :: m.2.prettyChars (level + 1) ++ rest) = .ok (m.2, rest) := by
    rw [List.cons_append, value_blank]
    exact value_pretty (level + 1) (shallower m h) (regularMembers_iff.1 regular.2 m h)
      (floatlessMembers_iff.1 floatless m h) ends
  obtain ⟨text, htext, hread⟩ := @object_pretty _ level _ read regular.1 rest
  rw [htext, document, skipSpace_cons (by decide)]
  simp only [hread, settle]

/-- The text of a document file decodes to its documents. -/
theorem decodeAll_documentsText {documents : List Document}
    (shallow : (array (documents.map object)).depth ≤ depthLimit)
    (regular : ∀ d ∈ documents, (object d).Regular)
    (floatless : ∀ d ∈ documents, (object d).Floatless) :
    decodeAll (list document) (Generation.documentsText documents) = .ok documents := by
  obtain ⟨levels, limit⟩ : ∃ less, depthLimit = less + 1 := ⟨126, rfl⟩
  rw [depth, limit] at shallow
  have shallower := depthItems_le_iff.1 (Nat.le_of_succ_le_succ shallow)
  have read (d : Document) (h : d ∈ documents) (rest : List Char) (_ : EndsNumeral rest) :
      document levels ((object d).prettyChars 1 ++ rest) = .ok (d, rest) :=
    document_pretty 1 (shallower _ (List.mem_map_of_mem h)) (regular d h) (floatless d h) rest
  obtain ⟨text, htext, hread⟩ := @array_pretty _ _ _ 0 _ read floatless []
  rw [List.append_nil] at htext
  rw [decodeAll, readAll, Generation.documentsText, pretty, String.toList_ofList, htext, limit, list,
    skipSpace_cons (by decide)]
  simp only [hread, settle]
  rfl

end Fixtures.Json
