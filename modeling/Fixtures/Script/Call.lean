import Fixtures.Script.Binding
import Fixtures.Script.Library
import Fixtures.Script.Machine

/-!
# Calls

A call goes to a function of the script if there is one with that name and number of parameters, else
to the library or to the fake values. Called as a method, a function of the script sees the object as
`this` and may change it; called with a variable as first argument, a function of the library may
change the variable.

## Shape of a call

`Body` runs the statements of a function; everything here takes it as an argument, so that calls can be
understood before the evaluation of statements is.
-/

namespace Fixtures.Script

/-- How the statements of a function are run. -/
abbrev Body := List Stmt → Run Value

namespace Call

/-- The name under which a function finds the object that it is called on. -/
def thisName : String := "this"

/-- The function of the script with a name and a number of parameters. -/
def function? (name : String) (arity : Nat) : Run (Option Function) := do
  pure ((← get).functions.find? fun f => f.name = name && f.parameters.length = arity)

/-- The variables of a function that is called, the last parameter first. -/
def slots (f : Function) (this : Option Value) (args : List Value) : List Slot :=
  ((f.parameters.zip args).map fun (name, value) => ⟨name, value, false⟩).reverse ++
    match this with
    | some v => [⟨thisName, v, false⟩]
    | none => []

/-- What a function gives: the value it returns, or that of its last statement. -/
def returned (f : Function) (place : Place) (body : Run Value) : Run Value :=
  tryCatch body fun
    | .give v => pure v
    | .fault fault => throw (.fault (fault.leaving f.name place))
    | signal => throw signal

/-- Calls a function of the script. The object it was called on may have changed. -/
def enter (run : Body) (f : Function) (this : Option Value) (args : List Value) (place : Place) :
    Run Reply := do
  if f.body.isEmpty then pure { value := .unit }
  else
    Run.charge place
    if Run.callLimit < (← get).calls + 1 then Run.fail .tooManyCalls place
    Run.frame (slots f this args) do
      let value ← returned f place (run f.body)
      let value ← Run.follow value
      match this with
      | none => pure { value := value }
      | some _ => pure { value := value, first := (← Run.slot? thisName).map (·.value) }

/-- Whether a value is a function that holds a value being worked on. -/
def holdsLocked (locked : List Nat) : Value → Bool
  | .function _ given =>
    given.any fun
      | .cell address => locked.contains address
      | _ => false
  | _ => false

/-- Refuses arguments that hold a value being worked on. -/
def ensureFree (name : String) (args : List Value) (byReference : Bool) : Run Unit := do
  let locked := (← get).locked
  let first := if byReference then 1 else 0
  match (args.drop first).findIdx? (holdsLocked locked) with
  | some n => Run.fail (.locked (n + first + 1) name) Place.nowhere
  | none => pure ()

/-- Calls a function of the library that calls no function of the script. -/
def plain (name : String) (args : List Value) (place : Place) : Run Reply := do
  match name, args with
  | "print", [] =>
    Run.print ""
    pure { value := .unit }
  | "print", [v] =>
    Run.print v.display
    pure { value := .unit }
  | "debug", [v] =>
    Run.print (Text.natText place.line ++ ":" ++ Text.natText place.column ++ " | " ++
      v.shown Value.typeName)
    pure { value := .unit }
  | "exit", [] => throw (.exit .unit)
  | "exit", [v] => throw (.exit v)
  | _, _ =>
    let draw? : Option (Random.Draw (Except Cause Value)) ←
      match args with
      | .topic topic :: rest => do pure (Binding.call? (← get).now topic name rest)
      | _ => pure none
    match draw? with
    | some d =>
      let value ← Run.ofOutcome place (← Run.draw d)
      pure { value := value }
    | none =>
      match Library.call? name args with
      | some outcome => Run.ofOutcome place outcome
      | none => Run.fail (.unknownFunction name (args.map Value.signatureName)) place

/-- Calls a function value for an item: with the item as argument, with the item as `this`, or with the
item and its position. -/
def forItem (run : Body) (name : String) (given : List Value) (item : Value) (index : Nat)
    (place : Place) : Run Value := do
  let reply ←
    match ← function? name (given.length + 1) with
    | some f => enter run f none (given ++ [item]) place
    | none =>
      match ← function? name given.length with
      | some f => enter run f (some item) given place
      | none =>
        match ← function? name (given.length + 2) with
        | some f => enter run f none (given ++ [item, .int (Int64.ofNat index)]) place
        | none =>
          Run.charge place
          plain name (given ++ [item]) place
  pure reply.value

/-- The values of a function for the items of an array; `index` is the position of the first. -/
def mapItems (run : Body) (name : String) (given : List Value) (place : Place) :
    (index : Nat) → List Value → Run (List Value)
  | _, [] => pure []
  | index, item :: rest => do
    let v ← forItem run name given item index place
    pure (v :: (← mapItems run name given place (index + 1) rest))

/-- The items of an array for which a function gives true; `index` is the position of the first. -/
def filterItems (run : Body) (name : String) (given : List Value) (place : Place) :
    (index : Nat) → List Value → Run (List Value)
  | _, [] => pure []
  | index, item :: rest => do
    let v ← forItem run name given item index place
    let kept ← filterItems run name given place (index + 1) rest
    pure (if v == .bool true then item :: kept else kept)

/-- Calls a function of the library. -/
def native (run : Body) (name : String) (args : List Value) (place : Place) : Run Reply := do
  Run.charge place
  match name, args with
  | "map", [.array items, .function f given] =>
    pure { value := .array (← mapItems run f given place 0 items) }
  | "filter", [.array items, .function f given] =>
    pure { value := .array (← filterItems run f given place 0 items) }
  | _, _ => plain name args place

/-- Calls a function. A method has its object as first argument. By reference, the first argument is a
variable, which a function of the library may change. -/
def call (run : Body) (method : Bool) (name : String) (args : List Value) (byReference : Bool)
    (place : Place) : Run Reply := do
  ensureFree name args (byReference || method)
  match name, args with
  | "type_of", [v] => pure { value := .string v.typeName }
  | _, _ =>
    match method, args with
    | true, this :: rest =>
      match ← function? name rest.length with
      | some f => enter run f (some this) rest place
      | none => native run name args place
    | _, _ =>
      match ← function? name args.length with
      | some f => enter run f none args place
      | none => native run name args place

/-- Calls a method of an object. -/
def method (run : Body) (name : String) (object : Value) (args : List Value) (argument place : Place) :
    Run Reply := do
  match name, object, args with
  | "call", .function f given, args =>
    let reply ← call run false f (given ++ args) false place
    pure { value := reply.value }
  | "call", _, [] => Run.fail (.wrongType object.typeName "Fn") place
  | "call", _, .function f given :: rest => call run true f (object :: given ++ rest) true place
  | "call", _, v :: _ => Run.fail (.wrongType v.typeName "Fn") argument
  | "curry", .function f given, args => pure { value := .function f (given ++ args) }
  | "curry", _, _ => Run.fail (.wrongType object.typeName "Fn") place
  | _, .map members, args =>
    match member? members name with
    | some (.function f given) => call run true f (object :: given ++ args) true place
    | _ => call run true name (object :: args) true place
  | _, _, args => call run true name (object :: args) true place

end Call

end Fixtures.Script
