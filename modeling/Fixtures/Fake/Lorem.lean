import Fixtures.Fake.Words.Lorem
import Fixtures.Random.Range

/-!
# Filler text

Words, sentences and paragraphs of no meaning.
-/

namespace Fixtures.Fake

open Fixtures.Random (Draw)

/-- Draws a value `count` times after the values drawn so far, the last of which comes first. -/
def timesFrom {α : Type} (draw : Draw α) : (count : Nat) → (drawn : List α) → Draw (List α)
  | 0, drawn => pure drawn.reverse
  | count + 1, drawn => do timesFrom draw count ((← draw) :: drawn)

/-- Draws a value `count` times, one after the other. -/
def times {α : Type} (count : Nat) (draw : Draw α) : Draw (List α) := timesFrom draw count []

namespace Lorem

/-- A word. -/
def word : Draw String := Random.pick Words.lorem

/-- Words, at least `least` and fewer than `limit`. -/
def wordsBetween (least limit : Nat) : Draw (List String) := do
  times (← Random.between least limit) word

/-- The given number of words. A draw is spent on the number all the same. -/
def words (count : Nat) : Draw String := do
  pure (String.intercalate " " (← wordsBetween count (count + 1)))

/-- A sentence of at least `least` words. -/
def sentenceFrom (least : Nat) : Draw String := do
  pure (String.intercalate " " (← wordsBetween least 10) ++ ".")

/-- A sentence. -/
def sentence : Draw String := sentenceFrom 3

/-- A few sentences, one a line. -/
def paragraph : Draw String := do
  pure (String.intercalate "\n" (← times (← Random.between 3 6) (sentenceFrom 4)))

end Lorem

end Fixtures.Fake
