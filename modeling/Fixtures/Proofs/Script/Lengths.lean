import Fixtures.Proofs.Random.Ranges
import Fixtures.Proofs.Script.Topics

/-!
# Texts of a length a script asks for

A script may ask for so many characters of an alphabet or for so many filler words. Up to the greatest length it
gets exactly as many, and any other length is refused before anything is drawn (`lengthCalls`).

## Shape of the proof

A repeated draw gathers its values in front of those it has, so the induction is over the number of draws with the
gathered values generalised (`timesFrom_spec`). What holds of each value that may be drawn then holds of all of
them: a character is one of its alphabet (`pickChar_mem`), a word is one of the filler words (`word_mem`). Words
are drawn after a draw of their number from a range of one number, which cannot but give that number.
-/

namespace Fixtures.Fake

open Fixtures.Random (Draw Generator)

/-! ## Repeated draws -/

section Times

variable {α : Type} {draw : Draw α} {P : α → Prop}

/-- As many values are drawn as are asked for, behind those drawn so far. -/
theorem timesFrom_spec (each : ∀ g, P (draw g).1) (count : Nat) (drawn : List α) (g : Generator) :
    ∃ more, (timesFrom draw count drawn g).1 = drawn.reverse ++ more ∧ more.length = count ∧ ∀ a ∈ more, P a := by
  induction count generalizing drawn g with
  | zero => exact ⟨[], (List.append_nil _).symm, rfl, List.forall_mem_nil P⟩
  | succ count ih =>
    obtain ⟨more, gathered, counted, all⟩ := ih ((draw g).1 :: drawn) (draw g).2
    refine ⟨(draw g).1 :: more, ?_, congrArg Nat.succ counted, List.forall_mem_cons.mpr ⟨each g, all⟩⟩
    exact gathered.trans (by rw [List.reverse_cons, List.append_assoc, List.singleton_append])

/-- A draw repeated so many times gives as many values, and all of them are of the kind that the draw gives. -/
theorem times_spec (each : ∀ g, P (draw g).1) (count : Nat) (g : Generator) :
    (times count draw g).1.length = count ∧ ∀ a ∈ (times count draw g).1, P a := by
  obtain ⟨more, gathered, counted, all⟩ := timesFrom_spec each count [] g
  rw [List.reverse_nil, List.nil_append] at gathered
  rw [times, gathered]
  exact ⟨counted, all⟩

end Times

/-! ## Characters and words -/

theorem pickChar_mem {table : Array Char} (filled : 0 < table.size) (g : Generator) :
    (Internet.pickChar table g).1 ∈ table := Random.getD_below32_mem filled ' ' g

theorem Lorem.word_mem (g : Generator) : (Lorem.word g).1 ∈ Words.lorem := by
  have filled : 0 < Words.lorem.size := by decide +kernel
  exact Random.pick_mem filled g

/-- A word of the table is not empty and has no space in it, so that words joined by spaces can be told apart. -/
theorem Words.lorem_solid {w : String} (h : w ∈ Words.lorem) : w ≠ "" ∧ ' ' ∉ w.toList := by
  have all : ∀ w ∈ Words.lorem.toList, w ≠ "" ∧ ' ' ∉ w.toList := by decide +kernel
  exact all w h.val

namespace Code

/-- The name of the function that draws from an alphabet. -/
def Alphabet.function : Alphabet → String
  | alpha => "alpha"
  | numeric => "numeric"
  | alphanumeric => "alphanumeric"

/-- What the characters of an alphabet are. -/
def Alphabet.Has : Alphabet → Char → Prop
  | alpha, c => c.isAlpha
  | numeric, c => c.isDigit
  | alphanumeric, c => c.isAlphanum

theorem Alphabet.has_of_mem {alphabet : Alphabet} {c : Char} (h : c ∈ alphabet.characters) : alphabet.Has c := by
  have letters : Alphabet.alpha.characters.toList.all Char.isAlpha := by decide +kernel
  have digits : Alphabet.numeric.characters.toList.all Char.isDigit := by decide +kernel
  have both : Alphabet.alphanumeric.characters.toList.all Char.isAlphanum := by decide +kernel
  cases alphabet with
  | alpha => exact List.all_eq_true.mp letters c h.val
  | numeric => exact List.all_eq_true.mp digits c h.val
  | alphanumeric => exact List.all_eq_true.mp both c h.val

theorem Alphabet.characters_pos (alphabet : Alphabet) : 0 < alphabet.characters.size := by
  cases alphabet <;> decide

/-- A text has the length that is asked for and characters of its alphabet only. -/
theorem text_spec (alphabet : Alphabet) (length : Nat) (g : Generator) :
    (text alphabet length g).1.length = length ∧
      ∀ c ∈ (text alphabet length g).1.toList, c ∈ alphabet.characters := by
  have made : (text alphabet length g).1 =
      String.ofList (times length (Internet.pickChar alphabet.characters) g).1 := rfl
  rw [made, String.length_ofList, String.toList_ofList]
  exact times_spec (pickChar_mem alphabet.characters_pos) length g

end Code

/-- As many words of the table as are asked for, joined by spaces. -/
theorem Lorem.words_spec (count : Nat) (g : Generator) :
    ∃ words : List String, (Lorem.words count g).1 = String.intercalate " " words ∧ words.length = count ∧
      ∀ w ∈ words, w ∈ Words.lorem := by
  refine ⟨(times (Random.between count (count + 1) g).1 word (Random.between count (count + 1) g).2).1, rfl, ?_⟩
  rw [Random.between_succ]
  exact times_spec word_mem count _

end Fixtures.Fake

namespace Fixtures.Script

open Fixtures.Random (Draw Generator)
open Fixtures.Fake
open Fixtures.Fake.Code (Alphabet)

/-! ## Calls -/

/-- What the call of a function of a topic with a length comes to: a text of which `P` holds, with nothing but the
generator changed, or for a length that is negative or too great a fault that names the function, with nothing
changed at all. -/
def TextOfLength (topic : Topic) (function : String) (n : Int64) (place : Place) (m : Machine)
    (P : String → Prop) : Prop :=
  if 0 ≤ n.toInt ∧ n.toInt ≤ 1048576 then
    ∃ text generator, Call.plain function [.topic topic, .int n] place m =
      (.ok { value := .string text }, m.withGenerator generator) ∧ P text
  else
    ∃ why, Call.plain function [.topic topic, .int n] place m =
      (.error (.fault (Fault.of
        (Binding.complain ("faker." ++ topic.property ++ "." ++ function ++ ": length " ++ why)) place)), m)

/-- A text of a permitted length is drawn. -/
theorem ofLength_drawn {n : Int} (permitted : 0 ≤ n ∧ n ≤ 1048576) (what : String) (draw : Nat → Draw String) :
    Binding.ofLength n what draw = Binding.drawn (draw n.toNat) := by
  have greatest : (Binding.greatestLength : Int) = 1048576 := rfl
  rw [Binding.ofLength, if_neg (by omega), if_neg (by omega)]

/-- Any other length is refused, whatever would be drawn. -/
theorem ofLength_refused {n : Int} (forbidden : ¬ (0 ≤ n ∧ n ≤ 1048576)) (what : String)
    (draw : Nat → Draw String) :
    ∃ why, Binding.ofLength n what draw = Binding.refused (what ++ ": length " ++ why) := by
  have greatest : (Binding.greatestLength : Int) = 1048576 := rfl
  by_cases negative : n < 0
  · refine ⟨"must not be negative", ?_⟩
    rw [Binding.ofLength, if_pos negative, String.append_assoc]
    rfl
  · refine ⟨Text.intText n ++ " exceeds the limit of " ++ Text.natText Binding.greatestLength, ?_⟩
    rw [Binding.ofLength, if_neg negative, if_pos (by omega)]
    simp only [String.append_assoc]

/-- A function that draws a text of a length gives what is drawn, or refuses the length. -/
theorem textOfLength {topic : Topic} {function : String} {n : Int64} {m : Machine} {draw : Nat → Draw String}
    (plain : function ∉ ["print", "debug", "exit"])
    (called : Binding.call? m.now topic function [.int n] =
      some (Binding.ofLength n.toInt ("faker." ++ topic.property ++ "." ++ function) draw))
    (place : Place) {P : String → Prop}
    (each : ∀ count : Nat, (count : Int) = n.toInt → ∀ g, P (draw count g).1) :
    TextOfLength topic function n place m P := by
  rw [TextOfLength, plain_topic plain called]
  split
  · next permitted =>
    have counted : (n.toInt.toNat : Int) = n.toInt := Int.toNat_of_nonneg permitted.1
    rw [ofLength_drawn permitted]
    exact ⟨(draw n.toInt.toNat m.generator).1, (draw n.toInt.toNat m.generator).2, rfl,
      each n.toInt.toNat counted m.generator⟩
  · next forbidden =>
    obtain ⟨why, refused⟩ := ofLength_refused forbidden ("faker." ++ topic.property ++ "." ++ function) draw
    rw [refused]
    exact ⟨why, drawnReply_refused _ place m⟩

/-- On every machine, and so from every place in the random stream, a script that asks for a text of a length gets
exactly as many characters of the alphabet, or exactly as many words joined by spaces, none of them empty or with
a space in it. A length that is negative or above the limit is a fault of the script, and then nothing is drawn. -/
theorem lengthCalls (m : Machine) (place : Place) (n : Int64) :
    (∀ alphabet : Alphabet, TextOfLength .string alphabet.function n place m fun text =>
      (text.length : Int) = n.toInt ∧ ∀ c ∈ text.toList, c ∈ alphabet.characters ∧ alphabet.Has c) ∧
    TextOfLength .lorem "words" n place m fun text =>
      (∃ words : List String, text = String.intercalate " " words ∧ (words.length : Int) = n.toInt ∧
        ∀ w ∈ words, w ∈ Words.lorem ∧ w ≠ "" ∧ ' ' ∉ w.toList) ∧
      (n.toInt = 0 → text = "") := by
  refine ⟨fun alphabet => ?_, ?_⟩
  · have plain : alphabet.function ∉ ["print", "debug", "exit"] := by cases alphabet <;> decide
    have called : Binding.call? m.now .string alphabet.function [.int n] =
        some (Binding.ofLength n.toInt ("faker." ++ Topic.string.property ++ "." ++ alphabet.function)
          (Code.text alphabet)) := by
      cases alphabet <;> rfl
    refine textOfLength plain called place fun count counted g => ?_
    obtain ⟨sized, all⟩ := Code.text_spec alphabet count g
    exact ⟨by rw [sized, counted], fun c hc => ⟨all c hc, Alphabet.has_of_mem (all c hc)⟩⟩
  · refine textOfLength (by decide) rfl place fun count counted g => ?_
    obtain ⟨words, joined, sized, all⟩ := Lorem.words_spec count g
    refine ⟨⟨words, joined, by rw [sized, counted], fun w hw => ⟨all w hw, Words.lorem_solid (all w hw)⟩⟩, ?_⟩
    -- There is one list of no words, and joined it is empty.
    intro none
    obtain rfl : words = [] := List.length_eq_zero_iff.mp (by omega)
    exact joined

end Fixtures.Script
