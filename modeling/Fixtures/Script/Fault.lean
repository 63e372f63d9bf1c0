import Fixtures.Script.Refusal
import Fixtures.Script.Value

/-!
# Faults of a running script

A fault has a cause, the place where it arose, and the calls it passed on its way out. A script may
catch a fault unless its cause says that the script has to end.
-/

namespace Fixtures.Script

/-- Why a running script cannot go on. -/
inductive Cause where
  | unknownVariable (name : String)
  | unknownFunction (name : String) (types : List String)
  | unknownModule (path : String)
  | unreadable (property type : String)
  | unwritable (property type valueType : String)
  /-- The last type is that of the value to be set, if one was. -/
  | unindexable (type indexType : String) (valueType : Option String)
  | arrayBounds (size : Nat) (index : Int)
  | stringBounds (size : Nat) (index : Int)
  | bitBounds (index : Int)
  | wrongType (found wanted : String)
  | noItems
  | constant (name : String)
  | unboundThis
  | arithmetic (text : String)
  | thrown (v : Value)
  | locked (argument : Nat) (function : String)
  | refused (r : Refusal)
  | tooManyOperations
  | tooManyCalls
  deriving Inhabited

/-- How many there are of something, in words. -/
def boundsText (kind item items container : String) (size : Nat) (index : Int) : String :=
  kind ++ " index " ++ Text.intText index ++ " out of bounds: " ++
    match size with
    | 0 => container ++ " is empty"
    | 1 => "only 1 " ++ item ++ " in " ++ container
    | size => "only " ++ Text.natText size ++ " " ++ items ++ " in " ++ container

/-- The types of an object, an index and a value to be set. -/
def indexedText (type indexType : String) (valueType : Option String) : String :=
  type ++ " [" ++ indexType ++ "]" ++
    match valueType with
    | some valueType => " = " ++ valueType
    | none => ""

/-- The text of a cause. -/
def Cause.message : Cause → String
  | unknownVariable name => "Variable not found: " ++ name
  | unknownFunction name types =>
    "Function not found: " ++ name ++ " (" ++ String.intercalate ", " types ++ ")"
  | unknownModule path => "Module not found: " ++ path
  | unreadable property type =>
    "Unknown property " ++ singleQuoted property ++ " - a getter is not registered for type " ++
      singleQuoted type
  | unwritable property type valueType =>
    "No writable property " ++ singleQuoted property ++ " - a setter is not registered for type " ++
      singleQuoted type ++ " to handle " ++ singleQuoted valueType
  | unindexable type indexType valueType =>
    "Indexer unavailable: " ++ indexedText type indexType valueType
  | arrayBounds size index => boundsText "Array" "element" "elements" "array" size index
  | stringBounds size index => boundsText "String" "character" "characters" "string" size index
  | bitBounds index => boundsText "Bit-field" "bit" "bits" "bit-field" 64 index
  | wrongType found wanted => "Data type incorrect: " ++ found ++ " (expecting " ++ wanted ++ ")"
  | noItems => "For loop expects iterable type"
  | constant name => "Cannot modify constant: " ++ name
  | unboundThis => "'this' not bound"
  | arithmetic text => text
  | thrown v =>
    let text := v.displayWith Value.fullTypeName
    if text.isEmpty then "Runtime error" else "Runtime error: " ++ text
  | locked argument function =>
    "Data race detected on argument #" ++ Text.natText argument ++ " of function " ++
      singleQuoted function
  | refused r => "Syntax error: " ++ r.complaint.message
  | tooManyOperations => "Too many operations"
  | tooManyCalls => "Stack overflow"

/-- Whether the script has to end, so that the fault cannot be caught. -/
def Cause.isFinal : Cause → Bool
  | refused _ | tooManyOperations | tooManyCalls => true
  | _ => false

/-- The members by which a script can tell a cause from others. -/
def Cause.details : Cause → List (String × Value)
  | unknownVariable name =>
    [("error", .string "ErrorVariableNotFound"), ("variable", .string name)]
  | unknownFunction name types =>
    [("error", .string "ErrorFunctionNotFound"),
      ("function", .string (name ++ " (" ++ String.intercalate ", " types ++ ")"))]
  | unknownModule path => [("error", .string "ErrorModuleNotFound"), ("module", .string path)]
  | c@(unreadable ..) | c@(unwritable ..) =>
    [("error", .string "ErrorDotExpr"), ("property", .string c.message)]
  | unindexable type indexType valueType =>
    [("error", .string "ErrorIndexingType"),
      ("type", .string (indexedText type indexType valueType))]
  | arrayBounds size index =>
    [("error", .string "ErrorArrayBounds"), ("length", .int (Int64.ofNat size)), ("index", .int (Int64.ofInt index))]
  | stringBounds size index =>
    [("error", .string "ErrorStringBounds"), ("length", .int (Int64.ofNat size)), ("index", .int (Int64.ofInt index))]
  | bitBounds index =>
    [("error", .string "ErrorBitFieldBounds"), ("length", .int 64), ("index", .int (Int64.ofInt index))]
  | wrongType found wanted =>
    [("error", .string "ErrorMismatchDataType"), ("requested", .string wanted),
      ("actual", .string found)]
  | noItems => [("error", .string "ErrorFor")]
  | constant name =>
    [("error", .string "ErrorAssignmentToConstant"), ("variable", .string name)]
  | unboundThis => [("error", .string "ErrorUnboundThis")]
  | arithmetic _ => [("error", .string "ErrorArithmetic")]
  | locked argument function =>
    [("error", .string "ErrorDataRace"),
      ("variable", .string ("argument #" ++ Text.natText argument ++ " of function " ++
        singleQuoted function))]
  | thrown _ | refused _ | tooManyOperations | tooManyCalls => []

/-- A fault: its cause, its place, and the calls it passed with their places, the innermost first. -/
structure Fault where
  cause : Cause
  place : Place
  calls : List (String × Place)
  deriving Inhabited

namespace Fault

/-- A fault that passed no call. -/
def of (cause : Cause) (place : Place) : Fault := ⟨cause, place, []⟩

/-- The name of a function as a fault shows it. -/
def calleeText (name : String) : String :=
  if "anon$".toList.isPrefixOf name.toList then "closure" else "function " ++ singleQuoted name

/-- The text of a fault. -/
def message (f : Fault) : String :=
  f.calls.foldl (fun text (name, place) => text ++ "\nin call to " ++ calleeText name ++ place.tail)
    (f.cause.message ++ f.place.tail)

/-- The fault as it leaves a call of a function: one that ends the script takes the place of the call. -/
def leaving (f : Fault) (function : String) (place : Place) : Fault :=
  if f.cause.isFinal then { f with place := place }
  else { f with calls := f.calls ++ [(function, place)] }

/-- The fault with a place, if it has none. -/
def placed (f : Fault) (place : Place) : Fault :=
  if f.place = Place.nowhere then { f with place := place } else f

/-- The fault without the place it shows last, and that place. -/
def split (f : Fault) : Fault × Place :=
  match f.calls.reverse with
  | [] => ({ f with place := Place.nowhere }, f.place)
  | (name, place) :: inner =>
    ({ f with calls := (inner.reverse) ++ [(name, Place.nowhere)] }, place)

/-- The fault with another place than the one it shows last. -/
def movedTo (f : Fault) (place : Place) : Fault :=
  match f.calls.reverse with
  | [] => { f with place := place }
  | (name, _) :: inner => { f with calls := inner.reverse ++ [(name, place)] }

/-- The members by which a script can tell a fault from others. -/
def details (f : Fault) : List (String × Value) :=
  match f.calls.getLast? with
  | some (function, _) =>
    [("error", .string "ErrorInFunctionCall"), ("function", .string function), ("source", .string "")]
  | none => f.cause.details

/-- What a script sees of a fault that it catches: the value thrown, or a map that describes it. -/
def caught (f : Fault) : Value :=
  match f.cause with
  | .thrown v => v
  | _ =>
    let (rest, place) := f.split
    let placed : List (String × Value) :=
      if place = Place.nowhere then []
      else [("line", .int (Int64.ofNat place.line)), ("position", .int (Int64.ofNat place.column))]
    let members := ("message", .string rest.message) :: placed ++ f.details
    .map (members.foldl (fun map (name, value) => insertMember map name value) [])

end Fault

end Fixtures.Script
