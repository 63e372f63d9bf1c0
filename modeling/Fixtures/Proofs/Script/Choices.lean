import Fixtures.Proofs.Random.Shuffling
import Fixtures.Proofs.Script.Topics

/-!
# Items of an array a script asks for

A shuffle gives the items of an array in another order, and an element of an array is one of its items
(`helpersCall_choices`). Both are made from the items that the call was given. What they were taken from is not
touched: behind the call only the generator of the machine is another one, so every variable reads as before
(`read_withGenerator`).
-/

namespace Fixtures.Script

open Fixtures.Random (Draw Generator positions swapEach)
open Runs (bind_apply)

/-- The call of a function of `faker.helpers` with an array. -/
abbrev helpersCall (name : String) (items : List Value) (place : Place) : Run Reply :=
  Call.plain name [.topic .helpers, .array items] place

/-- What a variable holds does not depend on the generator. -/
theorem read_withGenerator (name : String) (place : Place) (m : Machine) (generator : Generator) :
    (Run.read name place (m.withGenerator generator)).1 = (Run.read name place m).1 := by
  have slot (m : Machine) : Run.slot? name m = (.ok (m.scope.find? (·.name = name)), m) := rfl
  rw [Run.read, bind_apply, bind_apply, slot, slot]
  dsimp only
  cases m.scope.find? (·.name = name) with
  | none => rfl
  | some found =>
    obtain ⟨_, value, _⟩ := found
    cases value <;> rfl

/-- A shuffle swaps at positions of the array that depend on its size only. -/
theorem helpersCall_shuffle (m : Machine) (place : Place) (items : List Value) :
    helpersCall "shuffle" items place m =
      (.ok { value := .array (swapEach 0 (positions items.length m.generator).1 items.toArray).toList },
        m.withGenerator (positions items.length m.generator).2) := by
  have called : Binding.call? m.now .helpers "shuffle" [.array items] = some (Binding.shuffle items) := rfl
  have shuffled : Binding.shuffle items m.generator =
      (.ok (.array (Random.shuffle items.toArray m.generator).1.toList),
        (Random.shuffle items.toArray m.generator).2) := rfl
  rw [helpersCall, plain_topic (by decide) called, shuffled, Random.shuffle_apply, List.size_toArray]
  rfl

/-- From an array with items one of them is taken. -/
theorem arrayElement_mem {items : List Value} (filled : items.isEmpty = false) (g : Generator) :
    ∃ v ∈ items, ∃ generator, Binding.arrayElement items g = (.ok v, generator) := by
  have below := Random.index_lt (List.length_pos_iff.mpr (by simpa using filled)) g
  -- The item that is read depends on the position, so this is named first.
  rcases drawn : Random.index items.length g with ⟨i, generator⟩
  have inside : i < items.length := by simpa [drawn] using below
  refine ⟨items[i], List.getElem_mem inside, generator, ?_⟩
  rw [Binding.arrayElement, if_neg (by simp [filled])]
  simp only [bind, StateT.bind, drawn, List.getElem?_eq_getElem inside]
  rfl

/-- An array may be shuffled and an element of it taken, on every machine and so from every place in the random
stream. A shuffle swaps items at positions inside the array, each with one up to it, and so gives the same items
in another order. An element is one of the items; if there is none, that is a fault of the script and nothing
changes. In both cases nothing but the generator changes, and every variable reads as before. -/
theorem helpersCall_choices (m : Machine) (place : Place) (items : List Value) :
    (∃ order generator shuffled, positions items.length m.generator = (order, generator) ∧
      (∀ i j, order[i]? = some j → i < items.length ∧ j ≤ i) ∧
      helpersCall "shuffle" items place m = (.ok { value := .array shuffled }, m.withGenerator generator) ∧
      shuffled = (swapEach 0 order items.toArray).toList ∧ shuffled.Perm items) ∧
    (if items.isEmpty then
      ∃ text, helpersCall "arrayElement" items place m =
        (.error (.fault (Fault.of (Binding.complain text) place)), m)
    else
      ∃ v ∈ items, ∃ generator,
        helpersCall "arrayElement" items place m = (.ok { value := v }, m.withGenerator generator)) ∧
    ∀ generator name, (Run.read name place (m.withGenerator generator)).1 = (Run.read name place m).1 := by
  refine ⟨⟨_, _, _, rfl, ?_, helpersCall_shuffle m place items, rfl, ?_⟩, ?_, ?_⟩
  · intro i j found
    exact Random.positions_le found
  · simpa using (Random.swapEach_perm 0 (positions items.length m.generator).1 items.toArray).toList
  · have called : Binding.call? m.now .helpers "arrayElement" [.array items] = some (Binding.arrayElement items) := rfl
    rw [helpersCall, plain_topic (by decide) called]
    split
    · next empty =>
      rw [Binding.arrayElement, if_pos empty]
      exact ⟨_, drawnReply_refused _ place m⟩
    · next filled =>
      obtain ⟨v, hv, generator, drawn⟩ := arrayElement_mem (by simpa using filled) m.generator
      exact ⟨v, hv, generator, by rw [drawn]; rfl⟩
  · intro generator name
    exact read_withGenerator name place m generator

end Fixtures.Script
