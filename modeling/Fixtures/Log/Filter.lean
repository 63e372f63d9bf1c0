import Fixtures.Log.Event
import Fixtures.Text.CodeRanges
import Fixtures.Text.Split
import Fixtures.Text.Word
import Fixtures.Text.WordCharacter

/-!
# Log filters

A filter is a list of rules, written with commas between them. A rule names a level, a target with a level
or a target alone, which admits every level. Of the rules that an event falls under, the one with the
longest target decides, and the later of two alike.

A rule may ask for fields, in brackets and braces behind its target. One that asks for the name of a span
admits nothing, since no event of the library lies in a span.
-/

namespace Fixtures.Log

/-- A rule of a filter. -/
structure Rule where
  target : Option String
  fields : List String
  /-- Whether the rule asks for a span, or for the value of a field of one. -/
  inSpan : Bool
  /-- How many levels are admitted. -/
  rank : Nat
  deriving DecidableEq, Repr

namespace Rule

/-- The rule for all events that admits so many levels. -/
def ofRank (rank : Nat) : Rule := ⟨none, [], false, rank⟩

/-- The number of levels that a text says are admitted: a number, or the name of the last of them. -/
def rankOf? (text : List Char) : Option Nat :=
  match Text.readWord text with
  | .ok n => if n ≤ Level.trace.rank then some n else named
  | .error _ => named
where
  /-- The number of levels up to the one that the text names. -/
  named : Option Nat :=
    let upper := text.map Char.toUpper
    if upper = ['O', 'F', 'F'] then some 0
    else (Level.all.find? (·.name.toList = upper)).map Level.rank

/-- The rank behind an equals sign, where nothing means every level. -/
def rankBehind? (text : List Char) : Option Nat :=
  if text.isEmpty then some Level.trace.rank else rankOf? text

/-- A rule without a level. -/
def whole (target : Option String) (fields : List String) (inSpan : Bool) : Rule :=
  ⟨target, fields, inSpan, Level.trace.rank⟩

/-- Reads what follows the closing bracket of a rule. -/
def afterBracket (rule : Rule) (rest : List Char) : Option Rule :=
  match rest with
  | [] => some rule
  | '=' :: level => (rankBehind? level).map fun rank => { rule with rank }
  | _ => none

/-- Reads the fields that a rule asks for, behind the opening brace. -/
def readFields (target : Option String) (inSpan : Bool) (rest : List Char) : Option Rule :=
  match Text.cutFirst '\x7d' rest with
  | none =>
    let complete := (Text.pieces ',' rest).dropLast
    if complete.any List.isEmpty then none
    else some (whole target (complete.map String.ofList) inSpan)
  | some (fields, rest) =>
    let fields := Text.pieces ',' fields
    let rule := whole target (fields.map String.ofList) (inSpan || fields.any (·.contains '='))
    if fields.any List.isEmpty then none
    else
      match rest with
      | [] => some rule
      | ']' :: rest => rule.afterBracket rest
      | _ => none

/-- Reads what a rule asks for behind the opening bracket. -/
def readBracket (target : Option String) (rest : List Char) : Option Rule :=
  let name := rest.takeWhile fun c => c ≠ ']' && c ≠ '\x7b'
  match rest.drop name.length with
  | ']' :: rest => (whole target [] true).afterBracket rest
  | '\x7b' :: rest => readFields target (!name.isEmpty) rest
  | _ => some (whole target [] false)

/-- Whether a rule may begin with the character. -/
def isStart (c : Char) : Bool :=
  c = '-' || c = ':' || c = '_' || c.isAlphanum || (127 < c.toNat && Text.wordRanges.contains c)

/-- Reads a rule. Blanks around it count where they are, once the rule is recognised. -/
def parse? (text : List Char) : Option Rule :=
  match Text.trim text with
  | [] => some (ofRank Level.trace.rank)
  | '[' :: rest => readBracket none rest
  | first :: rest =>
    if !isStart first then none
    else
      let body := first :: rest
      let count := (body.takeWhile fun c => c ≠ '=' && c ≠ '[').length
      let target := some (String.ofList (text.take count))
      match body.drop count with
      | '[' :: rest => readBracket target rest
      | '=' :: _ =>
        (rankBehind? (text.drop (count + 1))).map fun rank => ⟨target, [], false, rank⟩
      | _ =>
        match rankOf? text with
        | some rank => some (ofRank rank)
        | none => some (whole (some (String.ofList text)) [] false)

/-- Whether an event falls under a rule. -/
def covers (r : Rule) (e : Event) : Bool :=
  !r.inSpan && (r.target.all fun target => target.toList.isPrefixOf e.target.toList) &&
    r.fields.all fun field => e.fields.any (·.1 = field)

/-- How closely a rule describes events: the length of its target and the number of its fields. -/
def closeness (r : Rule) : Nat × Nat :=
  ((r.target.map fun target => target.utf8ByteSize + 1).getD 0, r.fields.length)

/-- Whether a rule is preferred to an earlier one. -/
def beats (later earlier : Rule) : Bool :=
  let (length, fields) := later.closeness
  let (otherLength, otherFields) := earlier.closeness
  otherLength < length || (otherLength = length && otherFields ≤ fields)

end Rule

/-- Rules, of which one decides for an event. -/
abbrev Filter := List Rule

namespace Filter

/-- The filter that a text says; texts between commas that are empty say nothing. -/
def parse? (text : String) : Option Filter :=
  ((Text.pieces ',' text.toList).filter (!·.isEmpty)).mapM Rule.parse?

/-- The rule that decides for an event. -/
def ruleFor? (f : Filter) (e : Event) : Option Rule :=
  (f.filter (·.covers e)).foldl (fun best r =>
    match best with
    | some b => if r.beats b then some r else some b
    | none => some r) none

/-- Whether an event is logged. -/
def admits (f : Filter) (e : Event) : Bool := (f.ruleFor? e).any (e.level.rank ≤ ·.rank)

/-- The filter of a run: the one asked for, if it can be read, and else all events up to a level. -/
def ofRequest (text : Option String) (isVerbose : Bool) : Filter :=
  (text.bind parse?).getD [.ofRank (if isVerbose then Level.debug else Level.info).rank]

end Filter

end Fixtures.Log
