import Fixtures.Proofs.Script.Lengths
import Fixtures.Proofs.Text.Hexadecimal
import Mathlib.Data.Fintype.BigOperators
import Mathlib.Data.List.Forall2
import Mathlib.Data.Set.Card

/-!
# Identifiers a script asks for

An identifier is written from sixteen drawn bytes. Six of their bits say its version and its variant, whatever was
drawn there; all others are shown. So every draw gives a text of the same form (`isIdentifier_identifier`), two draws
give the same text exactly if they agree on the other 122 bits (`identifier_eq_iff`), and there are as many
identifiers as such bits can tell apart (`ncard_identifiers`).

## Shape of the proof

An identifier is the texts of its bytes one after another, each with the hyphen before it if there is one
(`toList_identifier`). The step is what the text of one byte is: it fills the slots of its place (`fills_shown`), and
it shows the low bits of the byte that the place keeps, and no others (`shown_eq_iff`). Texts for one place are
equally long, so that the byte texts can be told apart in an identifier, and both facts go over from bytes to
identifiers.
-/

namespace Fixtures.Fake

open Fixtures.Random (Draw Generator word32)

/-! ## Draws whose values are changed -/

/-- A draw whose value is changed. -/
theorem map_apply {α β : Type} (f : α → β) (draw : Draw α) (g : Generator) :
    (do pure (f (← draw)) : Draw β) g = (f (draw g).1, (draw g).2) := rfl

/-- A repeated draw may change its values one by one or all of them at the end. -/
theorem timesFrom_map {α β : Type} (f : α → β) (draw : Draw α) (count : Nat) (drawn : List α) (g : Generator) :
    timesFrom (do pure (f (← draw))) count (drawn.map f) g =
      ((timesFrom draw count drawn g).1.map f, (timesFrom draw count drawn g).2) := by
  induction count generalizing drawn g with
  | zero => exact congrArg (·, g) List.map_reverse.symm
  | succ count ih => exact ih ((draw g).1 :: drawn) (draw g).2

theorem times_map {α β : Type} (f : α → β) (draw : Draw α) (count : Nat) (g : Generator) :
    times count (do pure (f (← draw))) g = ((times count draw g).1.map f, (times count draw g).2) :=
  timesFrom_map f draw count [] g

namespace Code

/-! ## Drawn bytes -/

/-- The bytes that an identifier is made of. -/
abbrev Bytes := Vector UInt8 16

/-- The text of sixteen bytes as an identifier. -/
def identifier (bytes : Bytes) : String := String.ofList (layout (stamp (bytes.toList.map UInt8.toNat)))

/-- The low bytes of the next sixteen words of a stream. -/
def drawnBytes (g : Generator) : Bytes :=
  ⟨((times 16 word32 g).1.map UInt32.toUInt8).toArray, by
    rw [List.size_toArray, List.length_map]
    exact (@times_spec UInt32 word32 (fun _ => True) (fun _ => trivial) 16 g).1⟩

/-- An identifier is made of sixteen bytes that are drawn. -/
theorem uuid_apply (g : Generator) : uuid g = (identifier (drawnBytes g), (times 16 word32 g).2) := by
  have low : times 16 (Internet.lowBits 8) g =
      ((times 16 word32 g).1.map fun w => w.toNat % (1 <<< 8), (times 16 word32 g).2) := times_map _ word32 16 g
  have bytes : (drawnBytes g).toList.map UInt8.toNat = (times 16 word32 g).1.map fun w => w.toNat % (1 <<< 8) := by
    rw [drawnBytes, Vector.toList, List.toList_toArray, List.map_map]
    rfl
  rw [uuid, map_apply _ (times 16 (Internet.lowBits 8)), low, identifier, bytes]

/-! ## The text of one byte -/

/-- The places where a group begins behind another one. -/
abbrev Begins (i : Nat) : Prop := i = 4 ∨ i = 6 ∨ i = 8 ∨ i = 10

/-- What stands before the text of a byte. -/
def hyphen (i : Nat) : List Char := if Begins i then ['-'] else []

/-- A byte with what its place says of an identifier. -/
def stamped (i b : Nat) : Nat := if i = 6 then b % 16 + 0x40 else if i = 8 then b % 64 + 0x80 else b

/-- The text of a byte at a place. -/
def shown (i : Nat) (b : UInt8) : List Char := hyphen i ++ Text.hexDigits 2 (stamped i b.toNat)

theorem toList_identifier (bytes : Bytes) : (identifier bytes).toList = (bytes.toList.mapIdx shown).flatten := by
  rw [identifier, String.toList_ofList, layout, stamp, List.mapIdx_mapIdx, List.mapIdx_eq_zipIdx_map,
    List.zipIdx_map, List.map_map, List.mapIdx_eq_zipIdx_map]
  rfl

/-- How many of the low bits of a byte a place keeps. -/
def kept (i : Nat) : Nat := if i = 6 then 4 else if i = 8 then 6 else 8

theorem stamped_lt (i : Nat) (b : UInt8) : stamped i b.toNat < 256 := by
  have byte := b.toNat_lt
  unfold stamped
  split
  · omega
  split
  · omega
  · exact byte

/-- The bits that are not kept are the same for all bytes. -/
theorem stamped_eq_iff (i : Nat) (a b : UInt8) :
    stamped i a.toNat = stamped i b.toNat ↔ a.toNat % 2 ^ kept i = b.toNat % 2 ^ kept i := by
  have first := a.toNat_lt
  have second := b.toNat_lt
  unfold stamped kept
  split
  · exact Nat.add_right_cancel_iff
  split
  · exact Nat.add_right_cancel_iff
  · rw [Nat.mod_eq_of_lt first, Nat.mod_eq_of_lt second]

theorem mod_two_pow_eq_iff {m n k : Nat} : m % 2 ^ k = n % 2 ^ k ↔ ∀ j < k, m.testBit j = n.testBit j := by
  constructor
  · intro same j hj
    have bit := congrArg (Nat.testBit · j) same
    simpa [Nat.testBit_mod_two_pow, hj] using bit
  · intro same
    apply Nat.eq_of_testBit_eq
    intro j
    rw [Nat.testBit_mod_two_pow, Nat.testBit_mod_two_pow]
    by_cases hj : j < k
    · rw [same j hj]
    · simp [hj]

/-- The text of a byte shows the bits that its place keeps, and no others. -/
theorem shown_eq_iff (i : Nat) (a b : UInt8) :
    shown i a = shown i b ↔ ∀ j < kept i, a.toNat.testBit j = b.toNat.testBit j := by
  rw [shown, shown, List.append_cancel_left_eq, Text.hexDigits_inj (stamped_lt i a) (stamped_lt i b), stamped_eq_iff,
    mod_two_pow_eq_iff]

/-! ## The form of identifiers -/

/-- What may stand at a place of an identifier. -/
inductive Slot where
  | hyphen
  | digit
  | version
  | variant
  deriving DecidableEq, Repr

/-- The characters that may stand in a slot. -/
def Slot.Admits : Slot → Char → Prop
  | hyphen, c => c = '-'
  | digit, c => c ∈ Text.hexAlphabet
  | version, c => c = '4'
  | variant, c => c ∈ ['8', '9', 'a', 'b']

/-- The slot of the first digit of a byte. -/
def firstSlot (i : Nat) : Slot := if i = 6 then .version else if i = 8 then .variant else .digit

/-- The slots of a byte. -/
def slotsOf (i : Nat) : List Slot := (if Begins i then [.hyphen] else []) ++ [firstSlot i, .digit]

/-- The slots of an identifier. -/
def slots : List Slot := ((List.range 16).map slotsOf).flatten

theorem admits_firstSlot (i : Nat) (b : UInt8) : (firstSlot i).Admits (stamped i b.toNat / 16).digitChar := by
  have byte := b.toNat_lt
  unfold firstSlot stamped
  split
  · have four : (b.toNat % 16 + 0x40) / 16 = 4 := by omega
    rw [four]
    rfl
  split
  · have eight : (b.toNat % 64 + 0x80) / 16 = 8 + b.toNat % 64 / 16 := by omega
    have four : b.toNat % 64 / 16 < 4 := by omega
    have all : ∀ d < 4, Slot.variant.Admits (8 + d).digitChar := by
      unfold Slot.Admits
      decide
    rw [eight]
    exact all _ four
  · exact Text.digitChar_mem (by omega)

/-- The text of a byte fills its slots. -/
theorem fills_shown (i : Nat) (b : UInt8) : List.Forall₂ Slot.Admits (slotsOf i) (shown i b) := by
  have digits : Text.hexDigits 2 (stamped i b.toNat) =
      [(stamped i b.toNat / 16).digitChar, (stamped i b.toNat % 16).digitChar] := by
    have half : stamped i b.toNat / 16 < 16 := Nat.div_lt_of_lt_mul (stamped_lt i b)
    rw [Text.hexDigits_succ, Text.hexDigits_one half]
    rfl
  have last : Slot.digit.Admits (stamped i b.toNat % 16).digitChar := Text.digitChar_mem (Nat.mod_lt _ (by decide))
  rw [slotsOf, shown, digits]
  apply List.rel_append
  · unfold hyphen
    split
    · exact .cons rfl .nil
    · exact .nil
  · exact .cons (admits_firstSlot i b) (.cons last .nil)

theorem length_shown (i : Nat) (a b : UInt8) : (shown i a).length = (shown i b).length := by
  rw [← (fills_shown i a).length_eq, (fills_shown i b).length_eq]

/-- An identifier fills its slots. -/
theorem fills_identifier (bytes : Bytes) : List.Forall₂ Slot.Admits slots (identifier bytes).toList := by
  rw [toList_identifier]
  apply List.rel_flatten
  rw [List.forall₂_iff_get]
  refine ⟨by simp, fun i hi _ => ?_⟩
  have inside : i < 16 := by simpa using hi
  simpa using fills_shown i bytes[i]

/-- The form of an identifier: five groups of lower-case hexadecimal digits with hyphens between them, among the
digits one for the version, four, and one for the variant. -/
structure IsIdentifier (text : String) : Prop where
  length : text.length = 36
  hyphens : ∀ i ∈ [8, 13, 18, 23], text.toList[i]? = some '-'
  digits : ∀ i c, i ∉ [8, 13, 18, 23] → text.toList[i]? = some c → c ∈ Text.hexAlphabet
  version : text.toList[14]? = some '4'
  variant : ∃ c ∈ ['8', '9', 'a', 'b'], text.toList[19]? = some c

/-- What stands at the place of a slot is one of the characters that the slot admits. -/
theorem exists_of_slot (bytes : Bytes) {i : Nat} {slot : Slot} (h : slots[i]? = some slot) :
    ∃ c, (identifier bytes).toList[i]? = some c ∧ slot.Admits c := by
  obtain ⟨length, admitted⟩ := List.forall₂_iff_get.mp (fills_identifier bytes)
  obtain ⟨inside, rfl⟩ := List.getElem?_eq_some_iff.mp h
  exact ⟨_, List.getElem?_eq_getElem (length ▸ inside), admitted i inside (length ▸ inside)⟩

/-- In all slots but those of hyphens stand digits. -/
theorem Slot.mem_hexAlphabet {slot : Slot} (h : slot ≠ .hyphen) {c : Char} (admitted : slot.Admits c) :
    c ∈ Text.hexAlphabet := by
  cases slot with
  | hyphen => exact absurd rfl h
  | digit => exact admitted
  | version =>
    cases admitted
    decide
  | variant =>
    have all : ['8', '9', 'a', 'b'] ⊆ Text.hexAlphabet := by decide
    exact all admitted

/-- All identifiers have their form, whatever is drawn. -/
theorem isIdentifier_identifier (bytes : Bytes) : IsIdentifier (identifier bytes) where
  length := by
    rw [← String.length_toList, ← (fills_identifier bytes).length_eq]
    rfl
  hyphens := by
    intro i hi
    have slot : ∀ i ∈ [8, 13, 18, 23], slots[i]? = some .hyphen := by decide
    obtain ⟨c, there, rfl⟩ := exists_of_slot bytes (slot i hi)
    exact there
  digits := by
    intro i c hi there
    have slot : ∀ i < slots.length, slots[i]? = some .hyphen → i ∈ [8, 13, 18, 23] := by decide
    have inside : i < slots.length := by
      rw [(fills_identifier bytes).length_eq]
      exact (List.getElem?_eq_some_iff.mp there).1
    have found : slots[i]? = some slots[i] := List.getElem?_eq_getElem inside
    obtain ⟨c', there', admitted⟩ := exists_of_slot bytes found
    obtain rfl : c' = c := Option.some.inj (there'.symm.trans there)
    refine Slot.mem_hexAlphabet (fun same => hi (slot i inside ?_)) admitted
    rw [found, same]
  version := by
    have slot : slots[14]? = some .version := by decide
    obtain ⟨c, there, rfl⟩ := exists_of_slot bytes slot
    exact there
  variant := by
    have slot : slots[19]? = some .variant := by decide
    obtain ⟨c, there, admitted⟩ := exists_of_slot bytes slot
    exact ⟨c, admitted, there⟩

/-- The identifier of the bytes from zero to fifteen. -/
example : identifier #v[0, 1, 2, 3, 4, 5, 6, 7, 8, 9, 10, 11, 12, 13, 14, 15] =
    "00010203-0405-4607-8809-0a0b0c0d0e0f" := by decide +kernel

/-! ## The bits that identifiers show -/

/-- The bits that say the version, the upper four of a byte, and those that say the variant, the upper two of another;
each as the number of its byte and its own, from the lowest. -/
def markBits : Finset (Fin 16 × Fin 8) :=
  {p | (p.1 : Nat) = 6 ∧ 4 ≤ (p.2 : Nat) ∨ (p.1 : Nat) = 8 ∧ 6 ≤ (p.2 : Nat)}

/-- All other bits. -/
def freeBits : Finset (Fin 16 × Fin 8) := markBitsᶜ

/-- A bit of sixteen bytes. -/
def bit (bytes : Bytes) (p : Fin 16 × Fin 8) : Bool := bytes[p.1].toNat.testBit p.2

theorem card_freeBits : freeBits.card = 122 := by decide

/-- The free bits of a byte are those that its place keeps. -/
theorem mem_freeBits (p : Fin 16 × Fin 8) : p ∈ freeBits ↔ (p.2 : Nat) < kept p.1 := by
  obtain ⟨i, j⟩ := p
  simp only [freeBits, markBits, Finset.mem_compl, Finset.mem_filter, Finset.mem_univ, true_and, kept]
  split
  · omega
  split <;> omega

theorem kept_le (i : Nat) : kept i ≤ 8 := by
  unfold kept
  split
  · decide
  split <;> decide

/-- Two identifiers are the same exactly if they show the same of each byte. -/
theorem identifier_inj (a b : Bytes) :
    identifier a = identifier b ↔ ∀ (i : Nat) (_ : i < 16), shown i a[i] = shown i b[i] := by
  -- The texts of bytes for one place are equally long, so it is seen where each of them ends.
  have lengths : (a.toList.mapIdx shown).map List.length = (b.toList.mapIdx shown).map List.length := by
    apply List.ext_getElem
    · simp
    · intro i _ _
      simpa using length_shown i _ _
  have pieces : identifier a = identifier b ↔ a.toList.mapIdx shown = b.toList.mapIdx shown := by
    rw [← String.toList_inj, toList_identifier, toList_identifier, List.eq_iff_flatten_eq]
    exact (and_iff_left lengths).symm
  rw [pieces, List.ext_getElem_iff]
  constructor
  · rintro ⟨-, each⟩ i inside
    have filled (bytes : Bytes) : i < (bytes.toList.mapIdx shown).length := by simpa using inside
    have same := each i (filled a) (filled b)
    simpa only [List.getElem_mapIdx, Vector.getElem_toList] using same
  · refine fun each => ⟨by simp, fun i hi _ => ?_⟩
    have inside : i < 16 := by simpa using hi
    simpa using each i inside

/-- Two identifiers are the same exactly if the free bits of their bytes are. -/
theorem identifier_eq_iff (a b : Bytes) : identifier a = identifier b ↔ ∀ p ∈ freeBits, bit a p = bit b p := by
  rw [identifier_inj]
  constructor
  · intro same p hp
    exact (shown_eq_iff _ _ _).mp (same p.1 p.1.isLt) p.2 ((mem_freeBits p).mp hp)
  · intro same i inside
    rw [shown_eq_iff]
    intro j hj
    have low : j < 8 := Nat.lt_of_lt_of_le hj (kept_le i)
    exact same (⟨i, inside⟩, ⟨j, low⟩) ((mem_freeBits _).mpr hj)

/-- What an identifier shows. -/
def freeOf (bytes : Bytes) (p : freeBits) : Bool := bit bytes p

/-- A byte may have any bits. -/
theorem exists_byte (f : Fin 8 → Bool) : ∃ b : UInt8, ∀ j : Fin 8, b.toNat.testBit j = f j := by
  have eight : (List.ofFn f).length = 8 := List.length_ofFn
  refine ⟨UInt8.ofBitVec ((BitVec.ofBoolListLE (List.ofFn f)).cast eight), fun j => ?_⟩
  rw [UInt8.toNat_ofBitVec, BitVec.toNat_cast, BitVec.testBit_toNat, BitVec.getLsbD_ofBoolListLE,
    List.getD_eq_getElem?_getD, List.getElem?_ofFn, dif_pos j.isLt]
  rfl

/-- The free bits may be any. -/
theorem freeOf_surjective : Function.Surjective freeOf := by
  intro f
  let bits (i : Fin 16) (j : Fin 8) : Bool := if h : (i, j) ∈ freeBits then f ⟨(i, j), h⟩ else false
  choose byte hbyte using fun i => exists_byte (bits i)
  refine ⟨Vector.ofFn byte, funext fun p => ?_⟩
  have shows : bits p.1.1 p.1.2 = f p := dif_pos p.2
  simp [freeOf, bit, hbyte, shows]

/-- There are as many identifiers as the free bits can tell apart. -/
theorem ncard_identifiers : (Set.range identifier).ncard = 2 ^ 122 := by
  obtain ⟨bytesOf, free⟩ := freeOf_surjective.hasRightInverse
  have same (bytes : Bytes) : identifier (bytesOf (freeOf bytes)) = identifier bytes :=
    (identifier_eq_iff _ _).mpr fun p hp => congrFun (free (freeOf bytes)) ⟨p, hp⟩
  have injective : Function.Injective (identifier ∘ bytesOf) := by
    intro f f' equal
    rw [← free f, ← free f']
    funext p
    exact (identifier_eq_iff _ _).mp equal p p.2
  have range : Set.range identifier = Set.range (identifier ∘ bytesOf) := by
    apply Set.Subset.antisymm
    · rintro _ ⟨bytes, rfl⟩
      exact ⟨freeOf bytes, same bytes⟩
    · exact Set.range_comp_subset_range bytesOf identifier
  calc (Set.range identifier).ncard = Nat.card (freeBits → Bool) := by
        rw [range, Set.ncard_range_of_injective injective]
    _ = 2 ^ freeBits.card := by rw [Nat.card_eq_fintype_card, Fintype.card_fun, Fintype.card_bool, Fintype.card_coe]
    _ = 2 ^ 122 := by rw [card_freeBits]

end Code

end Fixtures.Fake

namespace Fixtures.Script

open Fixtures.Random (word32)
open Fixtures.Fake
open Fixtures.Fake.Code (identifier drawnBytes IsIdentifier freeBits bit)

/-! ## Calls -/

/-- A script that asks for an identifier gets the text of the sixteen bytes that are drawn next, and nothing but the
generator changes. -/
theorem uuidCall_apply (m : Machine) (place : Place) :
    Call.plain "uuid" [.topic .string] place m =
      (.ok { value := .string (identifier (drawnBytes m.generator)) },
        m.withGenerator (times 16 word32 m.generator).2) := by
  have called : Binding.call? m.now .string "uuid" [] = some (Binding.drawn Code.uuid) := rfl
  have drawn : Binding.drawn Code.uuid m.generator =
      (.ok (.string (identifier (drawnBytes m.generator))), (times 16 word32 m.generator).2) := by
    rw [Binding.drawn, map_apply (fun text => Except.ok (Value.string text)) Code.uuid, Code.uuid_apply]
  rw [plain_topic (by decide) called, drawn]
  rfl

/-- On every machine, and so from every place in the random stream, a script that asks for an identifier gets the
text of the sixteen bytes that are drawn next, and nothing but the generator changes. Whatever the bytes are, the text
has the form of an identifier. Two draws give the same text exactly if they agree on the 122 bits that say neither
the version nor the variant, so that there are as many identifiers as these bits can tell apart. -/
theorem uuidCall_identifier (m : Machine) (place : Place) :
    Call.plain "uuid" [.topic .string] place m =
        (.ok { value := .string (identifier (drawnBytes m.generator)) },
          m.withGenerator (times 16 word32 m.generator).2) ∧
      (∀ bytes, IsIdentifier (identifier bytes)) ∧
      (∀ a b, identifier a = identifier b ↔ ∀ p ∈ freeBits, bit a p = bit b p) ∧
      freeBits.card = 122 ∧ (Set.range identifier).ncard = 2 ^ 122 :=
  ⟨uuidCall_apply m place, Code.isIdentifier_identifier, Code.identifier_eq_iff, Code.card_freeBits,
    Code.ncard_identifiers⟩

end Fixtures.Script
