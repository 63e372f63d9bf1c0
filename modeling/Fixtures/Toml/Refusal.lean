import Fixtures.Data.Mismatch
import Fixtures.Toml.Item

/-!
# Refusals of settings texts

A reader takes the rest of the text and gives what it read and what is left, or a `Refusal`. A refusal
knows where the reader stands and is put into words by the readers around it: the innermost label names
what is invalid, and each of them may add what was expected.

A refusal that is not firm leaves room for another reading at the same place; `firmly` ends that.
-/

namespace Fixtures.Toml

/-- Why a text was not read. -/
structure Refusal where
  rest : List Char
  firm : Bool
  label : Option String
  expected : List String
  cause : Option String
  deriving DecidableEq, Repr

/-- The result of a reader. -/
abbrev Outcome (α : Type) := Except Refusal (α × List Char)

namespace Refusal

/-- A refusal that gives way to another reading. -/
def soft (rest : List Char) : Refusal := ⟨rest, false, none, [], none⟩

/-- A refusal with a cause. -/
def because (cause : String) (rest : List Char) : Refusal := ⟨rest, false, none, [], some cause⟩

/-- The refusal without another reading. -/
def settled (r : Refusal) : Refusal := { r with firm := true }

/-- The text of a refusal. -/
def message (r : Refusal) : String :=
  String.intercalate "\n"
    ((r.label.map ("invalid " ++ ·)).toList ++
      (if r.expected.isEmpty then [] else ["expected " ++ String.intercalate ", " r.expected]) ++
      r.cause.toList)

/-- The character at which a refusal is shown. -/
def span (r : Refusal) : Span := ⟨r.rest.length, r.rest.length - 1⟩

/-- The text of a number or a part of a date that is outside its bounds. -/
def outOfRange : String := "value is out of range"

/-- The text of too deep a nesting. -/
def tooDeep : String := "recursion limit exceeded"

end Refusal

/-! ## Words around a reader -/

/-- Admits no other reading. -/
def firmly {α : Type} (r : Outcome α) : Outcome α := r.mapError Refusal.settled

/-- Names what is read. -/
def labelled {α : Type} (label : String) (r : Outcome α) : Outcome α :=
  r.mapError fun e => { e with label := e.label.or (some label) }

/-- Adds what is expected. -/
def expecting {α : Type} (what : String) (r : Outcome α) : Outcome α :=
  r.mapError fun e => { e with expected := e.expected ++ [what] }

/-- Adds a mark that is expected. -/
def expectingMark {α : Type} (mark : String) (r : Outcome α) : Outcome α :=
  expecting (Data.backQuoted mark) r

/-- Goes on with what was read and what is left. -/
def andThen {α β : Type} (r : Outcome α) (next : α → List Char → Outcome β) : Outcome β :=
  match r with
  | .ok (a, rest) => next a rest
  | .error e => .error e

/-- Changes what was read. -/
def mapOutcome {α β : Type} (f : α → β) (r : Outcome α) : Outcome β :=
  andThen r fun a rest => .ok (f a, rest)

/-- Another reading, if the first one is not refused firmly. -/
def orElse {α : Type} (r : Outcome α) (other : Unit → Outcome α) : Outcome α :=
  match r with
  | .ok a => .ok a
  | .error e => if e.firm then .error e else other ()

/-- Reads something that may be missing; then nothing is read. -/
def optionally {α : Type} (read : List Char → Outcome α) (rest : List Char) :
    Outcome (Option α) :=
  match read rest with
  | .ok (a, left) => .ok (some a, left)
  | .error e => if e.firm then .error e else .ok (none, rest)

/-- Reads one character of a kind. -/
def one (wanted : Char → Bool) (rest : List Char) : Outcome Char :=
  match rest with
  | c :: left => if wanted c then .ok (c, left) else .error (.soft rest)
  | [] => .error (.soft [])

/-- Reads a given text. -/
def exactly (word : List Char) (rest : List Char) : Outcome Unit :=
  match word.isPrefixOf rest with
  | true => .ok ((), rest.drop word.length)
  | false => .error (.soft rest)

/-- Reads the characters of a kind. -/
def run (wanted : Char → Bool) (rest : List Char) : List Char × List Char :=
  (rest.takeWhile wanted, rest.dropWhile wanted)

/-- Reads items with a mark between each two of them; at least one. A mark without an item behind it is
left. The fuel is the length of the text. -/
def separated {α : Type} (item : List Char → Outcome α) (mark : Char) :
    (fuel : Nat) → List Char → Outcome (List α)
  | 0, rest => .error (.soft rest)
  | fuel + 1, rest =>
    andThen (item rest) fun a rest =>
      match rest with
      | c :: more =>
        if c = mark then
          match separated item mark fuel more with
          | .ok (others, left) => .ok (a :: others, left)
          | .error e => if e.firm then .error e else .ok ([a], rest)
        else .ok ([a], rest)
      | [] => .ok ([a], [])

end Fixtures.Toml
