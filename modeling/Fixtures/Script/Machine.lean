import Fixtures.Random.Stream
import Fixtures.Script.Fault
import Fixtures.Script.Tree

/-!
# The state of a running script

A running script has variables, the innermost first; values that variables share with functions made in
place; a place in the random stream; and a count of operations, which are limited so that every script
ends. What it prints is kept in order.

## Shape of a run

`Run` is a computation on a `Machine` that may end early with a `Signal`: a fault, the end of a loop, of
a function or of the whole script.
-/

namespace Fixtures.Script

/-- A variable. -/
structure Slot where
  name : String
  value : Value
  constant : Bool

/-- The state of a running script. -/
structure Machine where
  scope : List Slot
  /-- The values that variables share. -/
  cells : Array Value
  /-- The addresses of shared values that a chain is working on. -/
  locked : List Nat
  functions : List Function
  generator : Random.Generator
  operations : Nat
  /-- How many calls of functions are going on. -/
  calls : Nat
  /-- What was printed, the last first. -/
  output : List String
  /-- The present, in milliseconds since 1970. -/
  now : Int

/-- Why a run ends early. -/
inductive Signal where
  | fault (f : Fault)
  /-- The next round of a loop. -/
  | next
  /-- The end of a loop. -/
  | leave (v : Value)
  /-- The end of a function. -/
  | give (v : Value)
  /-- The end of the script. -/
  | exit (v : Value)

/-- A computation on the state of a script. -/
abbrev Run (α : Type) := ExceptT Signal (StateM Machine) α

namespace Run

/-- Ends with a fault. -/
def fail {α : Type} (cause : Cause) (place : Place) : Run α := throw (.fault (Fault.of cause place))

/-- The number of operations a script may take. -/
def operationLimit : Nat := 100000

/-- The number of calls that may go on at once. -/
def callLimit : Nat := 64

/-- Counts an operation. -/
def charge (place : Place) : Run Unit := do
  let m ← get
  if operationLimit < m.operations + 1 then fail .tooManyOperations place
  else set { m with operations := m.operations + 1 }

/-- Counts some operations. -/
def chargeEach (places : List Place) : Run Unit :=
  match places with
  | [] => pure ()
  | place :: rest => do
    charge place
    chargeEach rest

/-- The value of an outcome. -/
def ofOutcome {α : Type} (place : Place) : Except Cause α → Run α
  | .ok a => pure a
  | .error c => fail c place

/-- Prints a line. -/
def print (line : String) : Run Unit :=
  modify fun m => { m with output := (line ++ "\n") :: m.output }

/-- Draws from the random stream. -/
def draw {α : Type} (d : Random.Draw α) : Run α := do
  let m ← get
  let (a, generator) := d m.generator
  set { m with generator := generator }
  pure a

/-! ## Variables -/

/-- The slot of a variable. -/
def slot? (name : String) : Run (Option Slot) := do pure ((← get).scope.find? (·.name = name))

/-- The value behind a value that may be shared. -/
def follow (v : Value) : Run Value := do
  match v with
  | .cell address => pure (((← get).cells[address]?).getD .unit)
  | v => pure v

/-- The value of a variable. -/
def read (name : String) (place : Place) : Run Value := do
  match ← slot? name with
  | some slot => follow slot.value
  | none => fail (.unknownVariable name) place

/-- Sets what the first slot of a name holds. -/
def writeSlots (name : String) (value : Value) : List Slot → List Slot
  | [] => []
  | slot :: rest =>
    if slot.name = name then { slot with value := value } :: rest
    else slot :: writeSlots name value rest

/-- Sets the value of a variable that exists; if it is shared, for all that share it. -/
def write (name : String) (value : Value) : Run Unit := do
  match ← slot? name with
  | some ⟨_, .cell address, _⟩ =>
    modify fun m => { m with cells := m.cells.setIfInBounds address value }
  | _ => modify fun m => { m with scope := writeSlots name value m.scope }

/-- Adds a variable. -/
def define (name : String) (value : Value) (constant : Bool) : Run Unit :=
  modify fun m => { m with scope := ⟨name, value, constant⟩ :: m.scope }

/-- The address of the value of a variable, which is shared from now on. -/
def share (name : String) (place : Place) : Run Value := do
  match ← slot? name with
  | none => fail (.unknownVariable name) place
  | some ⟨_, .cell address, _⟩ => pure (.cell address)
  | some slot =>
    let address := (← get).cells.size
    modify fun m =>
      { m with
        cells := m.cells.push slot.value
        scope := writeSlots name (.cell address) m.scope }
    pure (.cell address)

/-! ## Parts of a run -/

/-- Runs a part and then, whatever came of it, changes the state. -/
def ensuring {α : Type} (part : Run α) (after : Machine → Machine) : Run α := fun m =>
  let (r, m) := part m
  (r, after m)

/-- Runs a part whose variables end with it. -/
def block {α : Type} (part : Run α) : Run α := fun m =>
  let size := m.scope.length
  ensuring part (fun m => { m with scope := m.scope.drop (m.scope.length - size) }) m

/-- Runs a part while the value at an address is locked. -/
def locking {α : Type} (v : Value) (part : Run α) : Run α :=
  match v with
  | .cell address => fun m =>
    ensuring part (fun after => { after with locked := m.locked })
      { m with locked := address :: m.locked }
  | _ => part

/-- Runs the body of a function, whose variables are its own. -/
def frame {α : Type} (slots : List Slot) (part : Run α) : Run α := fun m =>
  ensuring part (fun after => { after with scope := m.scope, calls := m.calls })
    { m with scope := slots, calls := m.calls + 1 }

/-- Repeats a step until it gives a result, at most `fuel` times; then the last resort is run. -/
def repeating {α : Type} (step : Run (Option α)) (resort : Run α) : (fuel : Nat) → Run α
  | 0 => resort
  | fuel + 1 => fun m =>
    match step m with
    | (.ok none, m) => repeating step resort fuel m
    | (.ok (some a), m) => (.ok a, m)
    | (.error signal, m) => (.error signal, m)

/-- A round of a loop: it goes on, unless the round gives the result of the loop. -/
def round (body : Run Value) : Run (Option Value) := fun m =>
  match body m with
  | (.ok _, m) | (.error .next, m) => (.ok none, m)
  | (.error (.leave v), m) => (.ok (some v), m)
  | (.error signal, m) => (.error signal, m)

end Run

end Fixtures.Script
