import Fixtures.Random.Range
import Fixtures.Text.Numeral

/-!
# Dates

Points in time at a random distance from the present, in whole seconds.
-/

namespace Fixtures.Fake.Date

open Fixtures.Random (Draw)
open Text (paddedDigits)

/-- The year, month and day of a day counted from the first of January 1970. Years are counted from
March, so that the day that is sometimes missing comes last, in eras of four hundred years. -/
def civil (days : Int) : Int × Nat × Nat :=
  let shifted := days + 719468
  let era := shifted.fdiv 146097
  let dayOfEra := (shifted.fmod 146097).toNat
  let yearOfEra :=
    (dayOfEra - dayOfEra / 1460 + dayOfEra / 36524 - dayOfEra / 146096) / 365
  let dayOfYear := dayOfEra - (365 * yearOfEra + yearOfEra / 4 - yearOfEra / 100)
  let monthFromMarch := (5 * dayOfYear + 2) / 153
  let day := dayOfYear - (153 * monthFromMarch + 2) / 5 + 1
  let month := if monthFromMarch < 10 then monthFromMarch + 3 else monthFromMarch - 9
  let year : Int := yearOfEra + era * 400 + if month ≤ 2 then 1 else 0
  (year, month, day)

/-- A point in time, in milliseconds since 1970, as `YYYY-MM-DDTHH:MM:SS.mmmZ`. -/
def write (milliseconds : Int) : String :=
  let seconds := milliseconds.fdiv 1000
  let (year, month, day) := civil (seconds.fdiv 86400)
  let ofDay := (seconds.fmod 86400).toNat
  String.ofList
    (paddedDigits 4 year.toNat ++ '-' :: paddedDigits 2 month ++ '-' :: paddedDigits 2 day ++
      'T' :: paddedDigits 2 (ofDay / 3600) ++ ':' :: paddedDigits 2 (ofDay / 60 % 60) ++
      ':' :: paddedDigits 2 (ofDay % 60) ++ '.' ::
      paddedDigits 3 (milliseconds.fmod 1000).toNat ++ ['Z'])

/-- Seconds of a day. -/
def day : Int := 86400

/-- Seconds of a year of 365 days. -/
def year : Int := 365 * day

/-- A span of time around the present, in seconds. -/
inductive Span where
  | past
  | future
  | recent
  | birthdate
  deriving DecidableEq, Repr

/-- The first and the last second of a span, counted from the present. -/
def Span.bounds : Span → Int × Int
  | past => (-year, -1)
  | future => (1, year)
  | recent => (-day, -1)
  | birthdate => (-80 * year, -18 * year)

/-- A point in time within a span around the present. -/
def within (now : Int) (span : Span) : Draw String := do
  let (first, last) := span.bounds
  pure (write (now + 1000 * (← Random.intBetween first last)))

end Fixtures.Fake.Date
