import Fixtures.Text.Numeral

/-!
# Places in a script

Lines and columns are counted from one, in characters. What a script error reports is the place of the
token that caused it.
-/

namespace Fixtures.Script

/-- A place in a script. -/
structure Place where
  line : Nat
  column : Nat
  deriving DecidableEq, Repr, Inhabited

namespace Place

/-- No place: what was made without a text of its own has none. -/
def nowhere : Place := ⟨0, 0⟩

/-- The place before the first character. -/
def start : Place := ⟨1, 0⟩

/-- The place of the next character of a line. -/
def next (p : Place) : Place := ⟨p.line, p.column + 1⟩

/-- The place before the first character of the next line. -/
def newLine (p : Place) : Place := ⟨p.line + 1, 0⟩

/-- What is written after a message to say where it arose. -/
def tail (p : Place) : String :=
  if p = nowhere then ""
  else " (line " ++ Text.natText p.line ++ ", position " ++ Text.natText p.column ++ ")"

end Place

end Fixtures.Script
