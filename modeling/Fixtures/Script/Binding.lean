import Fixtures.Fake.Code
import Fixtures.Fake.Company
import Fixtures.Fake.Date
import Fixtures.Fake.Location
import Fixtures.Random.Shuffle
import Fixtures.Script.Fault

/-!
# The fake values a script can ask for

The binding has a property for each topic, and each topic has functions that draw from the random
stream. Arguments are checked before anything is drawn, so a refused call leaves the stream where it
was.
-/

namespace Fixtures.Script

open Fixtures.Random (Draw)

namespace Binding

/-- The name under which a script finds the binding. -/
def name : String := "faker"

/-- The topic of a property. -/
def topic? (property : String) : Option Topic := Topic.all.find? (·.property = property)

/-- The cause of a fault with a text. -/
def complain (text : String) : Cause := .thrown (.string text)

/-- A text that is drawn. -/
def drawn (draw : Draw String) : Draw (Except Cause Value) := do pure (.ok (.string (← draw)))

/-- A call refused before anything is drawn. -/
def refused (text : String) : Draw (Except Cause Value) := pure (.error (complain text))

/-! ## Numbers -/

/-- The greatest integer that every reader of JSON keeps exact. -/
def greatestSafe : Int := 9007199254740991

/-- An integer between two bounds. -/
def int (min max : Int) : Draw (Except Cause Value) :=
  if max < min then
    refused ("faker.number.int: min " ++ Text.intText min ++ " is greater than max " ++
      Text.intText max)
  else do pure (.ok (.int (Int64.ofInt (← Random.intBetween min max))))

/-- The text of a range of doubles. -/
def rangeText (min max : Float) : String :=
  Decimal.Layout.plain.text min ++ ".." ++ Decimal.Layout.plain.text max

/-- A double between two bounds. -/
def float (min max : Float) : Draw (Except Cause Value) :=
  if !(Decimal.isFinite min && Decimal.isFinite max && Decimal.isFinite (max - min)) then
    refused ("faker.number.float: range " ++ rangeText min max ++ " is not finite")
  else if max < min then
    refused ("faker.number.float: min " ++ Decimal.Layout.plain.text min ++
      " is greater than max " ++ Decimal.Layout.plain.text max)
  else
    match Random.rangeScale? min max with
    | none =>
      refused ("faker.number.float: range " ++ rangeText min max ++
        ": Non-finite range in uniform distribution")
    | some scale => do pure (.ok (.float (← Random.floatBetween min scale)))

/-- The integer that an option holds, or a default if it is not given. -/
def intOption (options : List (String × Value)) (key : String) (default : Int) : Except Cause Int :=
  match member? options key with
  | none => .ok default
  | some (.int n) => .ok n.toInt
  | some v =>
    .error (complain
      ("option " ++ singleQuoted key ++ " must be an integer, got " ++ v.fullTypeName))

/-- The number that an option holds, or a default if it is not given. -/
def floatOption (options : List (String × Value)) (key : String) (default : Float) :
    Except Cause Float :=
  match member? options key with
  | none => .ok default
  | some (.int n) => .ok (Float.ofInt n.toInt)
  | some (.float x) => .ok x
  | some v =>
    .error (complain
      ("option " ++ singleQuoted key ++ " must be a number, got " ++ v.fullTypeName))

/-- Draws what two checked options ask for. -/
def withOptions {α : Type} (min max : Except Cause α) (draw : α → α → Draw (Except Cause Value)) :
    Draw (Except Cause Value) :=
  match min, max with
  | .ok min, .ok max => draw min max
  | .error c, _ => pure (.error c)
  | _, .error c => pure (.error c)

/-- The functions of numbers. -/
def number? (function : String) (args : List Value) : Option (Draw (Except Cause Value)) :=
  match function, args with
  | "int", [] => some (int 0 greatestSafe)
  | "int", [.int max] => some (int 0 max.toInt)
  | "int", [.int min, .int max] => some (int min.toInt max.toInt)
  | "int", [.map options] =>
    some (withOptions (intOption options "min" 0) (intOption options "max" greatestSafe) int)
  | "float", [] => some do pure (.ok (.float (← Random.unitFloat)))
  | "float", [.float min, .float max] => some (float min max)
  | "float", [.int min, .int max] => some (float (Float.ofInt min.toInt) (Float.ofInt max.toInt))
  | "float", [.int min, .float max] => some (float (Float.ofInt min.toInt) max)
  | "float", [.float min, .int max] => some (float min (Float.ofInt max.toInt))
  | "float", [.map options] =>
    some (withOptions (floatOption options "min" 0.0) (floatOption options "max" 1.0) float)
  | _, _ => none

/-! ## Texts of a given length -/

/-- The greatest length of a generated text, in characters or words. -/
def greatestLength : Nat := 1048576

/-- Draws something of a length, which must be neither negative nor too great. -/
def ofLength (length : Int) (what : String) (draw : Nat → Draw String) : Draw (Except Cause Value) :=
  if length < 0 then refused (what ++ ": length must not be negative")
  else if (greatestLength : Int) < length then
    refused (what ++ ": length " ++ Text.intText length ++ " exceeds the limit of " ++
      Text.natText greatestLength)
  else drawn (draw length.toNat)

/-- The functions of strings. -/
def string? (function : String) (args : List Value) : Option (Draw (Except Cause Value)) :=
  match function, args with
  | "uuid", [] => some (drawn Fake.Code.uuid)
  | "alpha", [.int n] => some (ofLength n.toInt "faker.string.alpha" (Fake.Code.text .alpha))
  | "numeric", [.int n] => some (ofLength n.toInt "faker.string.numeric" (Fake.Code.text .numeric))
  | "alphanumeric", [.int n] =>
    some (ofLength n.toInt "faker.string.alphanumeric" (Fake.Code.text .alphanumeric))
  | _, _ => none

/-- The functions of filler text. -/
def lorem? (function : String) (args : List Value) : Option (Draw (Except Cause Value)) :=
  match function, args with
  | "word", [] => some (drawn Fake.Lorem.word)
  | "words", [] => some (drawn (Fake.Lorem.words 3))
  | "words", [.int n] => some (ofLength n.toInt "faker.lorem.words" Fake.Lorem.words)
  | "sentence", [] => some (drawn Fake.Lorem.sentence)
  | "paragraph", [] => some (drawn Fake.Lorem.paragraph)
  | _, _ => none

/-! ## Plain texts -/

/-- The functions of people. -/
def person? : String → Option (Draw String)
  | "fullName" => some Fake.Person.fullName
  | "firstName" => some Fake.Person.firstName
  | "lastName" => some Fake.Person.lastName
  | "prefix" => some Fake.Person.title
  | "suffix" => some Fake.Person.suffix
  | "jobTitle" => some Fake.Person.jobTitle
  | _ => none

/-- The functions of the net. -/
def internet? : String → Option (Draw String)
  | "email" => some Fake.Internet.email
  | "userName" => some Fake.Internet.userName
  | "password" => some Fake.Internet.password
  | "domainName" => some Fake.Internet.domainName
  | "url" => some Fake.Internet.url
  | "ipv4" => some Fake.Internet.ipv4
  | "ipv6" => some Fake.Internet.ipv6
  | "userAgent" => some Fake.Internet.userAgent
  | _ => none

/-- The functions of companies. -/
def company? : String → Option (Draw String)
  | "name" => some Fake.Company.name
  | "catchPhrase" => some Fake.Company.catchPhrase
  | "buzzPhrase" => some Fake.Company.buzzPhrase
  | "industry" => some Fake.Company.industry
  | _ => none

/-- The functions of places that give a text. -/
def place? : String → Option (Draw String)
  | "city" => some Fake.Location.city
  | "country" => some Fake.Location.country
  | "countryCode" => some Fake.Location.countryCode
  | "state" => some Fake.Location.state
  | "street" => some Fake.Location.street
  | "streetAddress" => some Fake.Location.streetAddress
  | "zipCode" => some Fake.Location.zipCode
  | "timeZone" => some Fake.Location.timeZone
  | _ => none

/-- The functions of places. -/
def location? (function : String) : Option (Draw (Except Cause Value)) :=
  match function with
  | "latitude" => some do pure (.ok (.float (← Fake.Location.latitude)))
  | "longitude" => some do pure (.ok (.float (← Fake.Location.longitude)))
  | _ => (place? function).map drawn

/-- The span of time that a function of dates is about. -/
def span? : String → Option Fake.Date.Span
  | "past" => some .past
  | "future" => some .future
  | "recent" => some .recent
  | "birthdate" => some .birthdate
  | _ => none

/-! ## Choices -/

/-- An item of an array. -/
def arrayElement (items : List Value) : Draw (Except Cause Value) :=
  if items.isEmpty then refused "faker.helpers.arrayElement: cannot pick from an empty array"
  else do
    match items[← Random.index items.length]? with
    | some v => pure (.ok v)
    | none => pure (.ok .unit)

/-- The items of an array in random order. -/
def shuffle (items : List Value) : Draw (Except Cause Value) := do
  pure (.ok (.array (← Random.shuffle items.toArray).toList))

/-- The functions of arrays. -/
def helpers? (function : String) (args : List Value) : Option (Draw (Except Cause Value)) :=
  match function, args with
  | "arrayElement", [.array items] => some (arrayElement items)
  | "shuffle", [.array items] => some (shuffle items)
  | _, _ => none

/-- The call of a topic's function, if there is one for the arguments. `now` is the present, in
milliseconds since 1970. -/
def call? (now : Int) (topic : Topic) (function : String) (args : List Value) :
    Option (Draw (Except Cause Value)) :=
  let plain (draw? : Option (Draw String)) : Option (Draw (Except Cause Value)) :=
    if args.isEmpty then draw?.map drawn else none
  match topic with
  | .person => plain (person? function)
  | .internet => plain (internet? function)
  | .company => plain (company? function)
  | .phone => plain (if function = "number" then some Fake.phoneNumber else none)
  | .date => plain ((span? function).map (Fake.Date.within now))
  | .location => if args.isEmpty then location? function else none
  | .datatype =>
    if function = "boolean" && args.isEmpty then some do pure (.ok (.bool (← Random.boolean)))
    else none
  | .number => number? function args
  | .string => string? function args
  | .lorem => lorem? function args
  | .helpers => helpers? function args

end Binding

end Fixtures.Script
