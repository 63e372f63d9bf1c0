import Fixtures.Decimal.Reading
import Fixtures.Text.CodeRanges
import Fixtures.Text.Split

/-!
# Tokens of the schema language

A schema text is a list of tokens, each with the place where it starts. Blanks, commas and comments
separate tokens and mean nothing. What cannot be a token is the token `bad`, which ends the list: no
rule of the grammar takes it, so it is reported where it starts if the grammar gets that far.

## Places

Lines and columns start at one. A character of a string, a byte of a number and a letter of a name
take one column, a tab takes eight, a carriage return and a byte order mark none. A comment takes no
column, and the character that ends it starts a line.

## Brackets

At most `bracketBudget` brackets may be open. A closing bracket gives one back whatever it closes, so
superfluous ones add to the budget.
-/

namespace Fixtures.Sdl

/-- A place in a text. -/
structure Place where
  line : Nat
  column : Nat
  deriving DecidableEq, Repr

/-- A token with its meaning. -/
inductive Token where
  | punctuator (c : Char)
  | ellipsis
  | name (s : String)
  | int (n : Int)
  | float (x : Float)
  | string (s : String)
  | bad
  deriving DecidableEq

/-- A token and the place where it starts. -/
structure Placed where
  token : Token
  place : Place

/-- The number of brackets that may be open at once. -/
def bracketBudget : Nat := 50

/-- The place `n` columns further on. -/
def Place.right (p : Place) (n : Nat) : Place := ⟨p.line, p.column + n⟩

/-- The start of the next line. -/
def Place.nextLine (p : Place) : Place := ⟨p.line + 1, 1⟩

/-! ## Between tokens -/

/-- Skips what separates tokens; `comment` is set inside a comment. -/
def skipBlank (comment : Bool) (p : Place) : List Char → Place × List Char
  | [] => (p, [])
  | c :: rest =>
    if comment then
      if c = '\n' || c = '\r' then skipBlank false p.nextLine rest else skipBlank true p rest
    else if c = '\ufeff' || c = '\r' then skipBlank false p rest
    else if c = '\t' then skipBlank false (p.right 8) rest
    else if c = '\n' then skipBlank false p.nextLine rest
    else if c = ' ' || c = ',' then skipBlank false (p.right 1) rest
    else if c = '#' then skipBlank true p rest
    else (p, c :: rest)

/-! ## Names and numbers -/

/-- The first character of a name. -/
def isNameStart (c : Char) : Bool := c = '_' || c.isAlpha

/-- A further character of a name. -/
def isNameRest (c : Char) : Bool := isNameStart c || Text.isDigit c

/-- The characters that end a number. -/
def endsNumber (c : Char) : Bool := " \n\r\t,#!$:=@|&()[]\x7b\x7d".toList.contains c

/-- Whether the text is an integer: digits without a leading zero, and a minus sign in front of it. -/
def isInteger (text : List Char) : Bool :=
  match text with
  | ['0'] => true
  | ['-', '0'] => true
  | '0' :: _ => false
  | '-' :: [] => false
  | '-' :: '0' :: _ => false
  | _ :: digits => digits.all Text.isDigit
  | [] => false

/-- The integer that such a text stands for. -/
def integerValue (text : List Char) : Int :=
  let value (digits : List Char) : Nat := digits.foldl (fun n c => n * 10 + Text.digitValue c) 0
  match text with
  | '-' :: digits => -(value digits)
  | digits => value digits

/-- Whether the text is an exponent: a sign or a digit from one to eight, then digits. -/
def isExponent : List Char → Bool
  | [] => false
  | c :: digits => (c = '-' || c = '+' || ('0' < c && c < '9')) && digits.all Text.isDigit

/-- The number that an exponent stands for; a sign alone stands for none. -/
def exponentValue? : List Char → Option Int
  | '-' :: digits => (Text.readNat? digits).map fun n => -n
  | '+' :: digits => (Text.readNat? digits).map fun n => n
  | digits => (Text.readNat? digits).map fun n => n

/-- The double of an integer part, a fraction and an exponent. -/
def floatOf (whole fraction : List Char) (exponent : Int) : Token :=
  match whole with
  | '-' :: digits => .float (-(Decimal.ofNumeral digits fraction exponent))
  | digits => .float (Decimal.ofNumeral digits fraction exponent)

/-- A number cut at the last exponent mark of either case. -/
def cutExponent (text : List Char) : Option (List Char × List Char) :=
  match Text.cutLast 'e' (text.map fun c => if c = 'E' then 'e' else c) with
  | some (before, _) => some (text.take before.length, text.drop (before.length + 1))
  | none => none

/-- A number without an exponent mark. -/
def simpleNumber (text : List Char) : Token :=
  match Text.cutLast '.' text with
  | some (whole, fraction) =>
    if isInteger whole && !fraction.isEmpty && fraction.all Text.isDigit then
      floatOf whole fraction 0
    else .bad
  | none =>
    let n := integerValue text
    if isInteger text && Text.isInt64 n then .int n else .bad

/-- The token of a number. -/
def numberToken (text : List Char) : Token :=
  match cutExponent text with
  | none => simpleNumber text
  | some (significand, exponent) =>
    let parts? : Option (List Char × List Char) :=
      match Text.cutLast '.' significand with
      | some (whole, fraction) =>
        if !fraction.isEmpty && fraction.all Text.isDigit then some (whole, fraction) else none
      | none => some (significand, [])
    match parts?, exponentValue? exponent with
    | some (whole, fraction), some e =>
      if isInteger whole && isExponent exponent then floatOf whole fraction e else .bad
    | _, _ => .bad

/-! ## Strings -/

/-- The characters of a string up to its closing quotation mark, which an escape may hold. -/
def stringSpan : (escaped : Bool) → List Char → Option (List Char × List Char)
  | _, [] => none
  | escaped, c :: rest =>
    if c = '\n' then none
    else if c = '"' && !escaped then some ([], rest)
    else (stringSpan (c = '\\' && !escaped) rest).map fun (body, after) => (c :: body, after)

/-- The code point of four hexadecimal digits, or of three after a plus sign. -/
def codeOf? : List Char → Option Nat
  | '+' :: digits => Text.readHex? digits
  | digits => Text.readHex? digits

/-- The text that a string stands for, unless it holds a wrong escape. -/
def unescape : List Char → Option (List Char)
  | [] => some []
  | '\\' :: 'u' :: a :: b :: c :: d :: rest => do
    let code ← codeOf? [a, b, c, d]
    if 0xD800 ≤ code ∧ code ≤ 0xDFFF then none
    else (unescape rest).map (Char.ofNat code :: ·)
  | '\\' :: e :: rest =>
    match e with
    | '"' => (unescape rest).map ('"' :: ·)
    | '\\' => (unescape rest).map ('\\' :: ·)
    | '/' => (unescape rest).map ('/' :: ·)
    | 'b' => (unescape rest).map ('\x10' :: ·)
    | 'f' => (unescape rest).map ('\x0c' :: ·)
    | 'n' => (unescape rest).map ('\n' :: ·)
    | 'r' => (unescape rest).map ('\r' :: ·)
    | 't' => (unescape rest).map ('\t' :: ·)
    | _ => none
  | ['\\'] => none
  | c :: rest => (unescape rest).map (c :: ·)

/-- Three quotation marks. -/
def tripleQuote : List Char := ['"', '"', '"']

/-- The characters of a block string up to three quotation marks not preceded by a backslash. The
fuel is the length of the text. -/
def blockSpan : (fuel : Nat) → (previous : Char) → List Char → Option (List Char × List Char)
  | 0, _, _ => none
  | fuel + 1, previous, text =>
    match text with
    | [] => none
    | '"' :: '"' :: '"' :: rest =>
      if previous = '\\' then
        (blockSpan fuel '"' rest).map fun (body, after) => (tripleQuote ++ body, after)
      else some ([], rest)
    | c :: rest => (blockSpan fuel c rest).map fun (body, after) => (c :: body, after)

/-- The number of bytes of white space that a line starts with. -/
def indentOf (line : List Char) : Nat :=
  (line.takeWhile Text.isBlank).foldl (fun n c => n + c.utf8Size) 0

/-- A line without its first `n` bytes. -/
def dropBytes : (n : Nat) → List Char → List Char
  | 0, line => line
  | _ + 1, [] => []
  | n + 1, c :: rest => dropBytes (n + 1 - c.utf8Size) rest
termination_by _ line => line.length

/-- The line with escaped triple quotation marks resolved. -/
def unescapeBlock : List Char → List Char
  | '\\' :: '"' :: '"' :: '"' :: rest => tripleQuote ++ unescapeBlock rest
  | c :: rest => c :: unescapeBlock rest
  | [] => []

/-- Whether a line holds nothing but white space. -/
def isBlankLine (line : List Char) : Bool := line.all Text.isBlank

/-- The text that a block string stands for: without blank lines at both ends and without the
indentation that all lines after the first have in common. -/
def blockText (body : List Char) : List Char :=
  let lines := Text.lines body
  let indents := ((lines.drop 1).filter (!isBlankLine ·)).map indentOf
  let common := indents.foldl min (indents.headD 0)
  let short (line : List Char) : Bool := line.foldl (fun n c => n + c.utf8Size) 0 < common
  let dedent (line : List Char) : List Char := if short line then [] else dropBytes common line
  let dedented := (lines.take 1).map (·, true) ++ (lines.drop 1).map (·, false)
  let trimmed := ((dedented.dropWhile (isBlankLine ·.1)).reverse.dropWhile (isBlankLine ·.1)).reverse
  let shown := trimmed.map fun (line, first) => unescapeBlock (if first then line else dedent line)
  Text.join ['\n'] shown

/-- The place after some text with line feeds in it. -/
def Place.after (p : Place) : List Char → Place
  | [] => p
  | c :: rest => if c = '\n' then p.nextLine.after rest else (p.right 1).after rest

/-! ## All tokens -/

/-- A token read from the start of a text: what it means, where it ends, and what is left. -/
structure Scan where
  token : Token
  finish : Place
  rest : List Char

/-- The bracket budget after a token, or none if it does not suffice. -/
def spend (budget : Nat) (c : Char) : Option Nat :=
  if c = '(' || c = '[' || c = '\x7b' then
    if budget = 0 then none else some (budget - 1)
  else if c = ')' || c = ']' || c = '\x7d' then some (budget + 1)
  else some budget

/-- The characters that are tokens by themselves. -/
def isPunctuator (c : Char) : Bool := "()[]\x7b\x7d!$:=@|&".toList.contains c

/-- Reads the token that a text starts with. -/
def scanToken (p : Place) (text : List Char) : Scan :=
  match text with
  | [] => ⟨.bad, p, []⟩
  | '.' :: '.' :: '.' :: rest => ⟨.ellipsis, p.right 3, rest⟩
  | '"' :: '"' :: '"' :: rest =>
    match blockSpan (rest.length + 1) ' ' rest with
    | none => ⟨.bad, p, []⟩
    | some (body, after) =>
      ⟨.string (String.ofList (blockText body)), (p.after (tripleQuote ++ body)).right 3, after⟩
  | '"' :: rest =>
    match stringSpan false rest with
    | none => ⟨.bad, p, []⟩
    | some (body, after) =>
      match unescape body with
      | none => ⟨.bad, p, []⟩
      | some s => ⟨.string (String.ofList s), p.right (body.length + 2), after⟩
  | c :: rest =>
    if isPunctuator c then ⟨.punctuator c, p.right 1, rest⟩
    else if isNameStart c then
      let name := c :: rest.takeWhile isNameRest
      ⟨.name (String.ofList name), p.right name.length, rest.dropWhile isNameRest⟩
    else if c = '-' || Text.isDigit c then
      let number := c :: rest.takeWhile (!endsNumber ·)
      ⟨numberToken number, p.right number.length, rest.dropWhile (!endsNumber ·)⟩
    else ⟨.bad, p, []⟩

/-- The tokens of a text and the place where it ends. A bad token ends the list. The fuel is the
length of the text. -/
def scanFrom : (fuel budget : Nat) → Place → List Char → List Placed × Place
  | 0, _, p, _ => ([], p)
  | fuel + 1, budget, p, text =>
    match skipBlank false p text with
    | (p, []) => ([], p)
    | (p, c :: rest) =>
      let scan := scanToken p (c :: rest)
      match spend budget c with
      | none => ([⟨.bad, p⟩], p)
      | some budget =>
        if scan.token = .bad then ([⟨.bad, p⟩], p)
        else
          let (tokens, finish) := scanFrom fuel budget scan.finish scan.rest
          (⟨scan.token, p⟩ :: tokens, finish)

/-- The tokens of a text and the place where it ends. -/
def scan (text : String) : List Placed × Place :=
  let chars := text.toList
  scanFrom (chars.length + 1) bracketBudget ⟨1, 1⟩ chars

end Fixtures.Sdl
