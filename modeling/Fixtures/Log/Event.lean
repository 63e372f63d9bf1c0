import Fixtures.Json.Printer

/-!
# Log events

An event says what happened, where in the library, and how much it matters. In a log file it is one line: a
JSON object with the time, the level, the fields and the target.
-/

namespace Fixtures.Log

/-- How much an event matters, the most important first. -/
inductive Level where
  | error
  | warn
  | info
  | debug
  | trace
  deriving DecidableEq, Repr

namespace Level

/-- How many levels matter at least as much. -/
def rank : Level → Nat
  | error => 1
  | warn => 2
  | info => 3
  | debug => 4
  | trace => 5

/-- The name of a level. -/
def name : Level → String
  | error => "ERROR"
  | warn => "WARN"
  | info => "INFO"
  | debug => "DEBUG"
  | trace => "TRACE"

/-- The levels. -/
def all : List Level := [error, warn, info, debug, trace]

end Level

/-- Something that happened. -/
structure Event where
  level : Level
  /-- The part of the library where it happened. -/
  target : String
  /-- What happened, with its text under `message` if it has one. -/
  fields : Document

namespace Event

/-- An event as JSON. -/
def toJson (e : Event) (time : String) : Json :=
  .object [("timestamp", .string time), ("level", .string e.level.name),
    ("fields", .object e.fields), ("target", .string e.target)]

/-- The line of an event in a log file. -/
def line (e : Event) (time : String) : String := (e.toJson time).compact ++ "\n"

end Event

end Fixtures.Log
