import Fixtures.Generation.Assembly
import Fixtures.Script.Eval
import Fixtures.Script.Simplify

/-!
# Sessions

A session evaluates one script after another. Each begins with nothing but the binding of the fake
values; the random stream goes on from script to script, and so does what they print.

## Shape of a session

`Session.evaluate` evaluates a script. A script that cannot be read is not run, so it leaves the session
as it was.
-/

namespace Fixtures.Script

/-- The random stream of a session, the lines printed so far and the types begun, each the last first. -/
structure Session where
  generator : Random.Generator
  output : List String
  begun : List ObjectType

namespace Session

/-- A session at the start of the random stream of a seed. -/
def ofSeed (seed : UInt64) : Session := ⟨Random.Generator.ofSeed seed, [], []⟩

/-- What was printed. -/
def printed (s : Session) : String := String.join s.output.reverse

/-- The state of a script that begins: of the session it has the random stream only. -/
def machine (s : Session) (now : Int) (functions : List Function) : Machine where
  scope := [⟨Binding.name, .faker, false⟩]
  cells := #[]
  locked := []
  functions := functions
  generator := s.generator
  operations := 0
  calls := 0
  output := []
  now := now

/-- The value of a script, or the text of the fault that ended it. -/
def finished (r : Except Signal Value) : Except String Value :=
  match r with
  | .ok v | .error (.give v) | .error (.exit v) | .error (.leave v) => .ok v
  | .error .next => .ok .unit
  | .error (.fault f) => .error f.message

/-- Runs a script that was read. -/
def run (s : Session) (now : Int) (p : Program) : Except String Value × Session :=
  let whole : Run Value := do Run.follow (← Eval.body Eval.depths p.body)
  let (r, m) := whole (s.machine now p.functions)
  (finished r, { s with generator := m.generator, output := m.output ++ s.output })

/-- Evaluates a script. -/
def evaluate (s : Session) (now : Int) (text : String) : Except String Value × Session :=
  match parse text with
  | .error refusal => (.error refusal.message, s)
  | .ok p => s.run now (Simplify.program p)

/-- The evaluator of a session; `start` gives the seed of the random stream of a type. -/
def evaluator (now : Int) (start : ObjectType → UInt64) : Generation.Evaluator Session where
  begin type := modify fun s =>
    { s with generator := Random.Generator.ofSeed (start type), begun := type :: s.begun }
  evaluate text := fun s =>
    let (r, s) := s.evaluate now text
    match r with
    | .ok v => (.ok v.toJson, s)
    | .error text => (.error (.script text), s)

end Session

end Fixtures.Script
