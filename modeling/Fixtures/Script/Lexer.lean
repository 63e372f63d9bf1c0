import Fixtures.Decimal.Reading
import Fixtures.Script.Token
import Fixtures.Text.CodeRanges

/-!
# Reading tokens

A script is read from left to right, the longest mark first. Text between back quotes may hold
expressions; the braces open in each of them are counted, so that the text goes on behind the right
one.

## Shape of the reading

`Scan` is where reading stands, `step` reads a token or skips a character, and `lexemes` repeats it.
Reading ends at the first token that cannot be read, which is the last of the list.
-/

namespace Fixtures.Script

namespace Lexer

/-! ## Comments -/

/-- Skips a comment up to the end of its line. -/
def skipLine : Place → List Char → Place × List Char
  | p, [] => (p, [])
  | p, '\r' :: '\n' :: rest => (p.newLine, rest)
  | p, '\r' :: rest => (p.newLine, rest)
  | p, '\n' :: rest => (p.newLine, rest)
  | p, _ :: rest => skipLine p.next rest

/-- Skips a comment with as many ends to come as `level` says. -/
def skipBlock : (level : Nat) → Place → List Char → Place × List Char
  | _, p, [] => (p, [])
  | level, p, '/' :: '*' :: rest => skipBlock (level + 1) p.next.next rest
  | level, p, '*' :: '/' :: rest =>
    if level ≤ 1 then (p.next.next, rest) else skipBlock (level - 1) p.next.next rest
  | level, p, '\n' :: rest => skipBlock level p.newLine rest
  | level, p, _ :: rest => skipBlock level p.next rest

/-! ## Numbers -/

/-- The rest of a decimal numeral after `text`, read backwards: its characters, how many were read
and what follows. A point belongs to it unless a name, a second point or an underscore follows. -/
def numeralTail : (point exponent : Bool) → (text : List Char) → (count : Nat) → List Char →
    List Char × Nat × List Char
  | point, exponent, text, count, '_' :: rest => numeralTail point exponent text (count + 1) rest
  | false, exponent, text, count, '.' :: c :: rest =>
    if Text.isDigit c then numeralTail true exponent ('.' :: text) (count + 1) (c :: rest)
    else if c = '_' || c = '.' || c.isAlpha then (text, count, '.' :: c :: rest)
    else numeralTail true exponent ('0' :: '.' :: text) (count + 1) (c :: rest)
  | false, _, text, count, ['.'] => ('0' :: '.' :: text, count + 1, [])
  | _, false, text, count, 'e' :: c :: rest =>
    if Text.isDigit c then numeralTail true true ('e' :: text) (count + 1) (c :: rest)
    else if c = '+' || c = '-' then numeralTail true true (c :: 'e' :: text) (count + 2) rest
    else (text, count, 'e' :: c :: rest)
  | point, exponent, text, count, c :: rest =>
    if Text.isDigit c then numeralTail point exponent (c :: text) (count + 1) rest
    else (text, count, c :: rest)
  | _, _, text, count, [] => (text, count, [])

/-- The number of an exponent, with its sign. -/
def exponent? (text : List Char) : Option Int :=
  match text with
  | '-' :: digits => (Text.readNat? digits).map fun n => -(n : Int)
  | '+' :: digits => (Text.readNat? digits).map fun n => (n : Int)
  | digits => (Text.readNat? digits).map fun n => (n : Int)

/-- The double that an unsigned decimal numeral stands for. -/
def double? (text : List Char) : Option Float :=
  let whole := text.takeWhile Text.isDigit
  let rest := text.dropWhile Text.isDigit
  let (fraction, rest) :=
    match rest with
    | '.' :: rest => (rest.takeWhile Text.isDigit, rest.dropWhile Text.isDigit)
    | rest => ([], rest)
  match rest with
  | [] => some (Decimal.ofNumeral whole fraction 0)
  | 'e' :: rest => (exponent? rest).map (Decimal.ofNumeral whole fraction)
  | _ => none

/-- The token of a decimal numeral: an integer if it fits, else a double. -/
def decimalToken (negative : Bool) (text : List Char) : Token :=
  let int? := ((Text.readNat? text).map fun n => if negative then -(n : Int) else (n : Int)).filter Text.isInt64
  match int? with
  | some n => .int (Int64.ofInt n)
  | none =>
    match double? text with
    | some x => .float (if negative then -x else x)
    | none => .bad (.numeral (String.ofList (if negative then '-' :: text else text)))

/-- The base that a letter after a zero announces. -/
def base? (c : Char) : Option Nat :=
  if c = 'x' || c = 'X' then some 16
  else if c = 'o' || c = 'O' then some 8
  else if c = 'b' || c = 'B' then some 2
  else none

/-- The token of a numeral in a base: 64 bits, the highest of which is the sign. -/
def basedToken (negative : Bool) (letter : Char) (base : Nat) (digits : List Char) : Token :=
  if negative then .bad (.numeral (String.ofList (letter :: digits)))
  else
    match (Text.readBase? base digits).filter (· < UInt64.size) with
    | some n => .int (Int64.ofNat n)
    | none => .bad (.numeral (String.ofList digits))

/-- The token of a numeral that begins with digit `c`, how many characters were read after it, and
what follows. -/
def number (negative : Bool) (c : Char) (rest : List Char) : Token × Nat × List Char :=
  let based : Option (Char × Nat × List Char) :=
    if c = '0' then
      match rest.dropWhile (· = '_') with
      | letter :: after => (base? letter).map (letter, ·, after)
      | [] => none
    else none
  match based with
  | some (letter, base, after) =>
    let belongs (d : Char) : Bool := d = '_' || (Text.digitIn? base d).isSome
    let body := after.takeWhile belongs
    let left := after.dropWhile belongs
    (basedToken negative letter base (body.filter (· ≠ '_')), rest.length - left.length, left)
  | none =>
    let (text, count, left) := numeralTail false false [c] 0 rest
    (decimalToken negative text.reverse, count, left)

/-! ## Quoted text -/

/-- How a text is quoted: its mark, whether it is taken as it stands, and whether a backslash at the
end of a line continues it on the next. -/
structure Quote where
  mark : Char
  raw : Bool
  continued : Bool

/-- What was read of an escape. -/
inductive Escape where
  | none
  | begun
  | code (left value : Nat) (seen : List Char)

/-- Where quoted text ends. -/
inductive TextEnd where
  | closed (text : List Char) (place : Place) (rest : List Char)
  | opened (text : List Char) (place : Place) (rest : List Char)
  | refused (complaint : Complaint) (place : Place)

/-- The character of a letter after a backslash. -/
def escapeLetter? : Char → Option Char
  | 'r' => '\r'
  | 'n' => '\n'
  | 't' => '\t'
  | '\\' => '\\'
  | _ => none

/-- How many digits follow a letter after a backslash. -/
def escapeLength? : Char → Option Nat
  | 'x' => some 2
  | 'u' => some 4
  | 'U' => some 8
  | _ => none

/-- The character of a code. -/
def charOfCode? (n : Nat) : Option Char := if n.isValidChar then some (Char.ofNat n) else none

/-- Reads text up to its closing mark or to an expression. `skip` is the column up to which blanks at
the start of a continued line are left out; `text` is read backwards. -/
def quoted (q : Quote) (start : Place) : Escape → (skip : Nat) → (text : List Char) → Place →
    List Char → TextEnd
  | .code _ _ seen, _, _, p, [] => .refused (.escape (String.ofList seen.reverse)) p
  | _, _, _, _, [] => .refused .openString start
  | .code left value seen, skip, text, p, c :: rest =>
    let seen := c :: seen
    let refused := TextEnd.refused (.escape (String.ofList seen.reverse)) p.next
    match Text.digitIn? 16 c with
    | none => refused
    | some d =>
      let value := value * 16 + d
      if 1 < left then quoted q start (.code (left - 1) value seen) skip text p.next rest
      else
        match charOfCode? value with
        | some d => quoted q start .none skip (d :: text) p.next rest
        | none => refused
  | .begun, skip, text, p, c :: rest =>
    match escapeLetter? c, escapeLength? c with
    | some d, _ => quoted q start .none skip (d :: text) p.next rest
    | none, some left => quoted q start (.code left 0 [c, '\\']) skip text p.next rest
    | none, none =>
      if c = q.mark then quoted q start .none skip (c :: text) p.next rest
      else if c = '\r' && rest.head? = some '\n' then quoted q start .begun skip text p.next rest
      else if c = '\n' then
        if q.continued then quoted q start .none (start.column + 1) text p.newLine rest
        else .refused .openString start
      else .refused (.escape (String.ofList ['\\', c])) p.next
  | .none, skip, text, p, c :: rest =>
    if q.raw && c = '$' && rest.head? = some '\x7b' then .opened text.reverse p.next rest
    else if c = q.mark then
      match rest with
      | d :: rest =>
        if d = q.mark then quoted q start .none 0 (c :: text) p.next.next rest
        else .closed text.reverse p.next (d :: rest)
      | [] => .closed text.reverse p.next []
    else if c = '\r' && rest.head? = some '\n' then quoted q start .none skip text p.next rest
    else if c = '\\' && !q.raw then quoted q start .begun skip text p.next rest
    else if c = '\n' then
      if q.raw then quoted q start .none 0 (c :: text) p.newLine rest else .refused .openString start
    else if Text.isBlank c && p.next.column < skip then quoted q start .none skip text p.next rest
    else quoted q start .none 0 (c :: text) p.next rest

/-- Text between double quotation marks. -/
def doubleQuote : Quote := ⟨'"', false, true⟩

/-- A character between single quotation marks. -/
def singleQuote : Quote := ⟨'\'', false, false⟩

/-- Text between back quotes. -/
def backQuote : Quote := ⟨'\x60', true, false⟩

/-- A line break right behind a back quote is left out. -/
def dropBreak (p : Place) : List Char → Place × List Char
  | '\r' :: '\n' :: rest => (p.newLine, rest)
  | '\r' :: rest => (p.newLine, rest)
  | '\n' :: rest => (p.newLine, rest)
  | rest => (p, rest)

/-! ## The reading -/

/-- Where reading stands: what follows, the place of the last character read, whether an operand is
expected, and the braces open in each expression inside text, the innermost first. -/
structure Scan where
  rest : List Char
  place : Place
  operand : Bool
  nesting : List Nat

/-- What one step of reading gives. -/
inductive Step where
  | skipped (scan : Scan)
  | read (lexemes : List Lexeme) (scan : Scan)
  | ended (lexeme : Lexeme)

/-- One more brace is open. -/
def deepen : List Nat → List Nat
  | n :: outer => (n + 1) :: outer
  | [] => []

/-- The token of text and the reading after it. -/
def textStep (before : List Lexeme) (start : Place) (scan : Scan) : TextEnd → Step
  | .closed text place rest =>
    .read (before ++ [⟨.string (String.ofList text), start⟩])
      { scan with rest := rest, place := place, operand := false }
  | .opened text place rest =>
    .read (before ++ [⟨.openText (String.ofList text), start⟩])
      { rest := rest, place := place, operand := false, nesting := 0 :: scan.nesting }
  | .refused complaint place => .read (before ++ [⟨.bad complaint, place⟩]) { scan with rest := [] }

/-- The step that reads a mark. A brace may end an expression inside text, which then goes on. -/
def markStep (scan : Scan) (start : Place) (s : String) (rest : List Char) : Step :=
  let token := Token.ofMark s
  let scan := { scan with
    rest := rest, place := ⟨start.line, start.column + (s.length - 1)⟩, operand := token.leadsOperand }
  match s with
  | "\x7b" | "#\x7b" => .read [⟨token, start⟩] { scan with nesting := deepen scan.nesting }
  | "\x7d" =>
    match scan.nesting with
    | 1 :: outer =>
      let first := match rest with
        | [] => Place.nowhere
        | _ => start.next
      textStep [⟨token, start⟩] first { scan with nesting := outer }
        (quoted backQuote first .none 0 [] start rest)
    | n :: outer => .read [⟨token, start⟩] { scan with nesting := (n - 1) :: outer }
    | [] => .read [⟨token, start⟩] scan
  | _ => .read [⟨token, start⟩] scan

/-- Whether a character may stand inside a name. -/
def inName (c : Char) : Bool := c.isAlphanum || c = '_'

/-- Whether the text goes on with the mark for "not in", whose first character was read. -/
def startsNotIn : List Char → Bool
  | 'i' :: 'n' :: c :: _ => !inName c
  | ['i', 'n'] => true
  | _ => false

/-- The rest of the text after a mark it begins with, if it does. -/
def dropMark? : (mark text : List Char) → Option (List Char)
  | [], text => some text
  | m :: mark, c :: text => if m = c then dropMark? mark text else none
  | _ :: _, [] => none

/-- The step that reads a number whose first digit is `c`, at the given place. -/
def numberStep (scan : Scan) (start digit : Place) (negative : Bool) (c : Char) (rest : List Char) :
    Step :=
  let (token, count, rest) := number negative c rest
  .read [⟨token, start⟩]
    { scan with rest := rest, place := ⟨digit.line, digit.column + count⟩, operand := false }

/-- One step of reading. -/
def step (scan : Scan) : Step :=
  match scan.rest with
  | [] => .ended ⟨.finish, scan.place.next⟩
  | '\n' :: rest => .skipped { scan with rest := rest, place := scan.place.newLine }
  | '/' :: '/' :: rest =>
    let (place, rest) := skipLine scan.place.next.next rest
    .skipped { scan with rest := rest, place := place }
  | '/' :: '*' :: rest =>
    let (place, rest) := skipBlock 1 scan.place.next.next rest
    .skipped { scan with rest := rest, place := place }
  | c :: rest =>
    let start := scan.place.next
    if Text.isDigit c then numberStep scan start start false c rest
    else if c.isAlpha || c = '_' then
      let word := c :: rest.takeWhile inName
      let token := Token.ofWord (String.ofList word)
      .read [⟨token, start⟩]
        { scan with
          rest := rest.dropWhile inName
          place := ⟨start.line, start.column + (word.length - 1)⟩
          operand := token.leadsOperand }
    else if c = '"' then textStep [] start scan (quoted doubleQuote start .none 0 [] start rest)
    else if c = '\x60' then
      let (place, rest) := dropBreak start rest
      textStep [] start scan (quoted backQuote start .none 0 [] place rest)
    else if c = '\'' then
      match rest with
      | '\'' :: _ => .ended ⟨.bad (.character ""), start⟩
      | _ =>
        match quoted singleQuote start .none 0 [] start rest with
        | .closed [d] place rest =>
          .read [⟨.char d, start⟩]
            { scan with rest := rest, place := place, operand := false }
        | .closed text _ _ => .ended ⟨.bad (.character (String.ofList text)), start⟩
        | .opened .. => .ended ⟨.bad .openString, start⟩
        | .refused complaint place => .ended ⟨.bad complaint, place⟩
    else if c = '!' && startsNotIn rest then
      .read [⟨.mark "!in", start⟩]
        { scan with rest := rest.drop 2, place := start.next.next, operand := true }
    else if Text.isBlank c then .skipped { scan with rest := rest, place := start }
    else
      let signed : Option (Char × List Char) :=
        match rest with
        | d :: rest => if c = '-' && scan.operand && Text.isDigit d then some (d, rest) else none
        | [] => none
      match signed with
      | some (d, rest) => numberStep scan start start.next true d rest
      | none =>
        let found := marks.findSome? fun s => (dropMark? s.toList (c :: rest)).map (s, ·)
        match found with
        | some (s, rest) => markStep scan start s rest
        | none => .ended ⟨.bad (.unexpected (String.singleton c)), start⟩

/-- Reads on, at most `fuel` steps; `seen` are the tokens so far, the last first. -/
def lexemesFrom : (fuel : Nat) → Scan → (seen : List Lexeme) → List Lexeme
  | 0, scan, seen => (⟨.finish, scan.place⟩ :: seen).reverse
  | fuel + 1, scan, seen =>
    match step scan with
    | .skipped scan => lexemesFrom fuel scan seen
    | .read lexemes scan => lexemesFrom fuel scan (lexemes.reverse ++ seen)
    | .ended lexeme => (lexeme :: seen).reverse

end Lexer

/-- The tokens of a script. -/
def lexemes (text : String) : List Lexeme :=
  let chars := text.toList
  Lexer.lexemesFrom (chars.length + 1) ⟨chars, Place.start, true, []⟩ []

end Fixtures.Script
