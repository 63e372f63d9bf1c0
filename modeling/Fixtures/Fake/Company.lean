import Fixtures.Fake.Person
import Fixtures.Fake.Words.Company

/-!
# Companies

Names of companies and what they say about themselves.
-/

namespace Fixtures.Fake.Company

open Fixtures.Random (Draw pick)

/-- The name of a company after one or two people. Both are drawn in either case. -/
def name : Draw String := do
  let pair ← Random.below32 2
  let first ← Person.lastName
  let second ← Person.lastName
  let last ← pick Words.companySuffixes
  pure (if pair = 0 then first ++ " " ++ last else first ++ " and " ++ second ++ " " ++ last)

/-- Three words separated by spaces. -/
def phrase (first second third : Array String) : Draw String := do
  let a ← pick first
  let b ← pick second
  let c ← pick third
  pure (a ++ " " ++ b ++ " " ++ c)

/-- A catch phrase. -/
def catchPhrase : Draw String :=
  phrase Words.buzzwordHeads Words.buzzwordMiddles Words.buzzwordTails

/-- What a company does. -/
def buzzPhrase : Draw String := phrase Words.buzzVerbs Words.buzzAdjectives Words.buzzNouns

/-- An industry. -/
def industry : Draw String := pick Words.industries

end Fixtures.Fake.Company
