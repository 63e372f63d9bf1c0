import Fixtures.Fake.Words.Person
import Fixtures.Random.Range

/-!
# People

Names, and the titles of jobs.
-/

namespace Fixtures.Fake.Person

open Fixtures.Random (Draw pick)

/-- A first name. -/
def firstName : Draw String := pick Words.firstNames

/-- A last name. -/
def lastName : Draw String := pick Words.lastNames

/-- A first and a last name. -/
def fullName : Draw String := do
  let first ← firstName
  let last ← lastName
  pure (first ++ " " ++ last)

/-- A title before a name. -/
def title : Draw String := pick Words.titles

/-- An addition after a name. -/
def suffix : Draw String := pick Words.nameSuffixes

/-- A job: its rank, its field and its position. -/
def jobTitle : Draw String := do
  let seniority ← pick Words.jobSeniorities
  let area ← pick Words.jobFields
  let position ← pick Words.jobPositions
  pure (seniority ++ " " ++ area ++ " " ++ position)

end Fixtures.Fake.Person
