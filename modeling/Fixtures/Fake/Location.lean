import Fixtures.Fake.Person
import Fixtures.Fake.Words.Address

/-!
# Places

Addresses, regions and coordinates, and other numbers made by a pattern.
-/

namespace Fixtures.Fake

open Fixtures.Random (Draw pick)

/-- A character of a pattern: `#` is any digit and `^` any digit but zero. -/
def fillSlot (c : Char) : Draw Char := do
  if c = '#' then pure (Nat.digitChar (← Random.below32 10))
  else if c = '^' then pure (Nat.digitChar (1 + (← Random.below32 9)))
  else pure c

/-- A text by one of some patterns. -/
def byPattern (patterns : Array String) : Draw String := do
  let pattern ← pick patterns
  pure (String.ofList (← pattern.toList.mapM fillSlot))

/-- A telephone number. -/
def phoneNumber : Draw String := byPattern Words.phoneNumbers

namespace Location

/-- A city, named after a person in one of three forms. -/
def city : Draw String := do
  match ← Random.below32 5 with
  | 0 =>
    let lead ← pick Words.cityPrefixes
    let person ← Person.fullName
    let last ← pick Words.citySuffixes
    pure (lead ++ " " ++ person ++ " " ++ last)
  | 1 =>
    let person ← Person.firstName
    let last ← pick Words.citySuffixes
    pure (person ++ " " ++ last)
  | _ =>
    let person ← Person.lastName
    let last ← pick Words.citySuffixes
    pure (person ++ " " ++ last)

/-- A country. -/
def country : Draw String := pick Words.countries

/-- The code of a country. -/
def countryCode : Draw String := pick Words.countryCodes

/-- A state. -/
def state : Draw String := pick Words.states

/-- A street, named after a person. -/
def street : Draw String := do
  let first := 0x80000000 ≤ (← Random.word32)
  let person ← if first then Person.firstName else Person.lastName
  let last ← pick Words.streetSuffixes
  pure (person ++ " " ++ last)

/-- A house number and a street. -/
def streetAddress : Draw String := do
  let number ← byPattern Words.buildingNumbers
  let name ← street
  pure (number ++ " " ++ name)

/-- A postal code. -/
def zipCode : Draw String := byPattern Words.zipCodes

/-- A time zone. -/
def timeZone : Draw String := pick Words.timeZones

/-- A coordinate with four decimal places. -/
def roundPlaces (x : Float) : Float := (x * 10000.0).round / 10000.0

/-- A latitude in degrees. -/
def latitude : Draw Float := do pure (roundPlaces (← Random.floatBetween (-90.0) 180.0))

/-- A longitude in degrees. -/
def longitude : Draw Float := do pure (roundPlaces (← Random.floatBetween (-180.0) 360.0))

end Location

end Fixtures.Fake
