import Fixtures.Decimal.Layout
import Fixtures.Json.Value
import Fixtures.Text.Quoted

/-!
# Values of a script

Integers have 64 bits, the members of a map are sorted by name. A variable shared with a function made
in place is kept outside the variables, and `cell` is its address there.

## Shape of the texts

`Value.display` is the text of a value as it is joined to other text; `Value.shown` is its text inside
arrays and maps, where text is quoted. `Value.toJson` is what a document holds.
-/

namespace Fixtures.Script

/-- The groups of fake values. -/
inductive Topic where
  | person
  | internet
  | location
  | lorem
  | company
  | phone
  | number
  | datatype
  | string
  | date
  | helpers
  deriving DecidableEq, Repr

/-- The topics. -/
def Topic.all : List Topic :=
  [person, internet, location, lorem, company, phone, number, datatype, string, date, helpers]

/-- The property of the binding that is a topic. -/
def Topic.property : Topic → String
  | person => "person"
  | internet => "internet"
  | location => "location"
  | lorem => "lorem"
  | company => "company"
  | phone => "phone"
  | number => "number"
  | datatype => "datatype"
  | string => "string"
  | date => "date"
  | helpers => "helpers"

/-- A topic's name with a capital. -/
def Topic.title : Topic → String
  | person => "Person"
  | internet => "Internet"
  | location => "Location"
  | lorem => "Lorem"
  | company => "Company"
  | phone => "Phone"
  | number => "Number"
  | datatype => "Datatype"
  | string => "String"
  | date => "Date"
  | helpers => "Helpers"

/-- A value. -/
inductive Value where
  | unit
  | bool (b : Bool)
  | int (n : Int64)
  | float (x : Float)
  | char (c : Char)
  | string (s : String)
  | array (items : List Value)
  | map (members : List (String × Value))
  /-- The integers from `first` to `last`, which belongs to it if it is closed. -/
  | range (first last : Int64) (closed : Bool)
  /-- A function and its first arguments. -/
  | function (name : String) (given : List Value)
  | faker
  | topic (t : Topic)
  | cell (address : Nat)
  deriving BEq, Inhabited

namespace Value

/-- The name of a value's type. -/
def typeName : Value → String
  | unit => "()"
  | bool _ => "bool"
  | int _ => "i64"
  | float _ => "f64"
  | char _ => "char"
  | string _ => "string"
  | array _ => "array"
  | map _ => "map"
  | range _ _ false => "range"
  | range _ _ true => "range="
  | function .. => "Fn"
  | faker => "Faker"
  | topic t => t.title ++ "Module"
  | cell _ => "()"

/-- The full name of a value's type, which says where the type is from. -/
def fullTypeName : Value → String
  | range _ _ false => "core::ops::range::Range<i64>"
  | range _ _ true => "core::ops::range::RangeInclusive<i64>"
  | faker => "datagen_generate::faker::Faker"
  | topic t => "datagen_generate::faker::namespaces::" ++ t.title ++ "Ns"
  | v => v.typeName

/-- The name of a value's type in the signature of a call. -/
def signatureName : Value → String
  | string _ => "&str | ImmutableString | String"
  | v => v.typeName

/-- The text of a range. -/
def rangeText (first last : Int64) (closed : Bool) : String :=
  Text.intText first.toInt ++ (if closed then "..=" else "..") ++ Text.intText last.toInt

mutual

/-- The text of a value inside another. `typeText` names the types that have no text. -/
def shown (typeText : Value → String) : Value → String
  | unit => "()"
  | bool b => if b then "true" else "false"
  | int n => Text.intText n.toInt
  | float x => Decimal.Layout.shown.text x
  | char c => String.ofList (Text.showCharQuoted c)
  | string s => Text.quotedText s
  | array items => "[" ++ String.intercalate ", " (shownItems typeText items) ++ "]"
  | map members => "#\x7b" ++ String.intercalate ", " (shownMembers typeText members) ++ "\x7d"
  | range first last closed => rangeText first last closed
  | function name given =>
    "Fn(" ++ String.intercalate ", " (name :: shownItems typeText given) ++ ")"
  | v => typeText v

/-- The texts of some values. -/
def shownItems (typeText : Value → String) : List Value → List String
  | [] => []
  | item :: rest => shown typeText item :: shownItems typeText rest

/-- The texts of some members. -/
def shownMembers (typeText : Value → String) : List (String × Value) → List String
  | [] => []
  | (name, value) :: rest =>
    (Text.quotedText name ++ ": " ++ shown typeText value) :: shownMembers typeText rest

end

/-- The text of a value by itself. -/
def displayWith (typeText : Value → String) : Value → String
  | unit => ""
  | float x => Decimal.Layout.natural.text x
  | char c => String.singleton c
  | string s => s
  | function name _ => "Fn(" ++ name ++ ")"
  | v => shown typeText v

/-- The text of a value joined to other text. -/
def display (v : Value) : String := displayWith typeName v

mutual

/-- What a document holds of a value: values that JSON does not know become the name of their type,
and functions their own name. -/
def toJson : Value → Json
  | unit => .null
  | bool b => .bool b
  | int n => .int n.toInt
  | float x => if Decimal.isFinite x then .float x else .null
  | char c => .string (String.singleton c)
  | string s => .string s
  | array items => .array (itemsToJson items)
  | map members => .object (membersToJson [] members)
  | function name _ => .string name
  | v => .string v.fullTypeName

/-- What a document holds of some values. -/
def itemsToJson : List Value → List Json
  | [] => []
  | item :: rest => item.toJson :: itemsToJson rest

/-- The members of an object and, set one after another, what a document holds of further ones. -/
def membersToJson (read : Document) : List (String × Value) → Document
  | [] => read
  | (name, value) :: rest => membersToJson (Json.setMember read name value.toJson) rest

end

/-- Whether a call of the value could draw from the random stream. -/
def isFake : Value → Bool
  | faker | topic _ => true
  | _ => false

end Value

/-- Sets a member of a map whose members are sorted by name. -/
def insertMember (members : List (String × Value)) (name : String) (value : Value) :
    List (String × Value) :=
  match members with
  | [] => [(name, value)]
  | (n, v) :: rest =>
    if n = name then (name, value) :: rest
    else if name < n then (name, value) :: (n, v) :: rest
    else (n, v) :: insertMember rest name value

/-- The member of a name. -/
def member? (members : List (String × Value)) (name : String) : Option Value := members.lookup name

/-- A member just set is found again. -/
theorem member?_insertMember (members : List (String × Value)) (name : String) (value : Value) :
    member? (insertMember members name value) name = some value := by
  induction members with
  | nil => simp [insertMember, member?]
  | cons kv rest ih =>
    obtain ⟨n, v⟩ := kv
    by_cases h : n = name
    · simp [insertMember, member?, h]
    · by_cases hl : name < n
      · simp [insertMember, member?, h, hl]
      · have hb : (name == n) = false := by simp [Ne.symm h]
        simpa [insertMember, member?, h, hl, List.lookup_cons, hb] using ih

end Fixtures.Script
