import Fixtures.Decimal.Reading
import Fixtures.Text.Numeral
import Fixtures.Toml.Refusal

/-!
# Scalars of settings texts

Strings, numbers, truth values and dates. A number is tried as a date, as a decimal fraction and as an
integer, in this order; what only one of them can be is refused for good when it breaks off.
-/

namespace Fixtures.Toml

open Text (isDigit)

/-! ## Characters -/

/-- The blanks within a line. -/
def isBlank (c : Char) : Bool := c = ' ' || c = '\t'

/-- The characters of a line: all but control characters, tabs apart. -/
def isPrintable (c : Char) : Bool := c = '\t' || (0x20 ≤ c.toNat && c.toNat ≠ 0x7f)

/-- The text after blanks. -/
def skipBlanks (rest : List Char) : List Char := rest.dropWhile isBlank

/-- Reads the end of a line. -/
def newline (rest : List Char) : Outcome Unit :=
  match rest with
  | '\n' :: left => .ok ((), left)
  | '\r' :: '\n' :: left => .ok ((), left)
  | '\r' :: left => .error (.soft left)
  | _ => .error (.soft rest)

/-! ## Escapes -/

/-- Reads the code point of an escape, written with `width` digits. -/
def codePoint (width : Nat) (rest : List Char) : Outcome Char :=
  let digits := (rest.take width).takeWhile fun c => (Text.digitIn? 16 c).isSome
  if digits.length ≠ width then .error (.soft rest)
  else
    match Text.readHex? digits with
    | none => .error (.soft rest)
    | some n =>
      if n.isValidChar then .ok (Char.ofNat n, rest.drop width)
      else .error (.because Refusal.outOfRange rest)

/-- The characters that follow a backslash, in the order in which they are listed. -/
def escapeMarks : List String := ["b", "f", "n", "r", "t", "u", "U", "\\", "\""]

/-- Reads an escape after its backslash. -/
def escape (rest : List Char) : Outcome Char :=
  match rest with
  | [] => .error (.soft [])
  | c :: left =>
    match c with
    | 'b' => .ok ('\x08', left)
    | 'f' => .ok ('\x0c', left)
    | 'n' => .ok ('\n', left)
    | 'r' => .ok ('\r', left)
    | 't' => .ok ('\t', left)
    | '\\' => .ok ('\\', left)
    | '"' => .ok ('"', left)
    | 'u' => labelled "unicode 4-digit hex code" (firmly (codePoint 4 left))
    | 'U' => labelled "unicode 8-digit hex code" (firmly (codePoint 8 left))
    | _ =>
      escapeMarks.foldl (fun r mark => expectingMark mark r)
        (labelled "escape sequence" (.error (Refusal.soft left).settled))

/-! ## Strings on one line -/

/-- The characters that stand for themselves between double quotation marks. -/
def isPlain (c : Char) : Bool := isPrintable c && c ≠ '"' && c ≠ '\\'

/-- The characters that may stand between single quotation marks. -/
def isLiteral (c : Char) : Bool := isPrintable c && c ≠ '\''

/-- Reads a string after its opening quotation mark, with the characters read so far in reverse. The
fuel is the length of the text. -/
def basicBody : (fuel : Nat) → (read : List Char) → List Char → Outcome (List Char)
  | 0, _, rest => .error (.soft rest)
  | fuel + 1, read, rest =>
    let close (_ : Unit) : Outcome (List Char) :=
      labelled "basic string"
        (firmly (mapOutcome (fun _ => read.reverse) (one (· = '"') rest)))
    match rest with
    | '\\' :: more =>
      match escape more with
      | .ok (c, rest) => basicBody fuel (c :: read) rest
      | .error e => if e.firm then .error e else close ()
    | c :: more => if isPlain c then basicBody fuel (c :: read) more else close ()
    | [] => close ()

/-- A character that begins no escape is one of the string, or ends it. -/
theorem basicBody_cons {c : Char} (h : c ≠ '\\') (fuel : Nat) (read more : List Char) :
    basicBody (fuel + 1) read (c :: more) =
      if isPlain c then basicBody fuel (c :: read) more
      else
        labelled "basic string" (firmly (mapOutcome (fun _ => read.reverse) (one (· = '"') (c :: more)))) := by
  rw [basicBody]
  exact h

/-- Reads a string between double quotation marks. -/
def basicString (rest : List Char) : Outcome (List Char) :=
  andThen (one (· = '"') rest) fun _ rest => basicBody (rest.length + 1) [] rest

/-- Reads a string between single quotation marks. -/
def literalString (rest : List Char) : Outcome (List Char) :=
  labelled "literal string"
    (andThen (one (· = '\'') rest) fun _ rest =>
      let (text, rest) := run isLiteral rest
      mapOutcome (fun _ => text) (one (· = '\'') rest))

/-! ## Strings on several lines -/

/-- Reads line ends and blanks, at least one line end first. -/
def blankLines (rest : List Char) : Outcome Unit :=
  andThen (newline rest) fun _ rest => skip rest.length rest
where
  /-- Passes over line ends and blanks. The fuel is the length of the text. -/
  skip : (fuel : Nat) → List Char → Outcome Unit
    | 0, rest => .ok ((), rest)
    | fuel + 1, rest =>
      match newline (skipBlanks rest) with
      | .ok ((), left) => skip fuel left
      | .error _ => .ok ((), skipBlanks rest)

/-- Reads one piece of a string on several lines; an escaped line end stands for nothing. -/
def content (quote : Char) (rest : List Char) : Outcome (List Char) :=
  match rest with
  | [] => .error (.soft [])
  | c :: more =>
    if c = '\\' && quote = '"' then
      match blankLines (skipBlanks more) with
      | .ok ((), rest) => .ok ([], rest)
      | .error _ => mapOutcome (fun c => [c]) (escape more)
    else if isPrintable c && c ≠ quote then .ok ([c], more)
    else mapOutcome (fun _ => ['\n']) (newline rest)

/-- What the quotation marks at the start of the text mean inside a string on several lines: up to two
of them are text if more text follows, and up to two before the closing three. -/
def quotesAsText (quote : Char) (rest : List Char) : Nat :=
  let (quotes, after) := run (· = quote) rest
  if 3 ≤ quotes.length then min (quotes.length - 3) 2
  else
    match content quote after with
    | .ok _ => quotes.length
    | .error e => if e.firm then quotes.length else 0

/-- Reads a string on several lines up to its closing quotation marks, with what was read so far in
reverse. The fuel is the length of the text. -/
def linesBody (quote : Char) : (fuel : Nat) → (read : List Char) → List Char → Outcome (List Char)
  | 0, _, rest => .error (.soft rest)
  | fuel + 1, read, rest =>
    match content quote rest with
    | .ok (text, rest) => linesBody quote fuel (text.reverse ++ read) rest
    | .error e =>
      if e.firm then .error e
      else
        let count := quotesAsText quote rest
        let read := List.replicate count quote ++ read
        let rest := rest.drop count
        match exactly [quote, quote, quote] rest with
        | .ok ((), rest) => .ok (read.reverse, rest)
        | .error e => if count = 0 then .error e.settled else linesBody quote fuel read rest

/-- Reads a string on several lines. A line end behind the opening quotation marks is not text. -/
def linesString (quote : Char) (rest : List Char) : Outcome (List Char) :=
  labelled (if quote = '"' then "multiline basic string" else "multiline literal string")
    (andThen (exactly [quote, quote, quote] rest) fun _ rest =>
      let rest :=
        match newline rest with
        | .ok ((), left) => left
        | .error _ => rest
      firmly (linesBody quote (rest.length + 1) [] rest))

/-- Reads a string. -/
def string (rest : List Char) : Outcome (List Char) :=
  orElse (linesString '"' rest) fun _ =>
    orElse (basicString rest) fun _ =>
      orElse (linesString '\'' rest) fun _ => literalString rest

/-! ## Digits -/

/-- Reads further digits, which single underscores may separate. The fuel is the length of the text. -/
def moreDigits (wanted : Char → Bool) : (fuel : Nat) → List Char → Outcome (List Char)
  | 0, rest => .ok ([], rest)
  | fuel + 1, rest =>
    match rest with
    | '_' :: more =>
      andThen (expecting "digit" (firmly (one wanted more))) fun c rest =>
        mapOutcome (c :: ·) (moreDigits wanted fuel rest)
    | c :: more =>
      if wanted c then mapOutcome (c :: ·) (moreDigits wanted fuel more) else .ok ([], rest)
    | [] => .ok ([], [])

/-- Reads digits, at least one. -/
def digits (wanted : Char → Bool) (rest : List Char) : Outcome (List Char) :=
  andThen (one wanted rest) fun c rest => mapOutcome (c :: ·) (moreDigits wanted rest.length rest)

/-- Reads a sign; true for a minus sign. -/
def sign (rest : List Char) : Bool × List Char :=
  match rest with
  | '-' :: left => (true, left)
  | '+' :: left => (false, left)
  | rest => (false, rest)

/-- Reads a decimal integer: its sign and its digits, of which a first zero is the only one. -/
def decimalInteger (rest : List Char) : Outcome (Bool × List Char) :=
  labelled "integer"
    (let (negative, rest) := sign rest
    match rest with
    | '0' :: left => .ok ((negative, ['0']), left)
    | rest => mapOutcome (fun ds => (negative, ds)) (digits isDigit rest))

/-! ## Integers -/

/-- The integer of 64 bits with a sign and digits. -/
def toInteger (base : Nat) (negative : Bool) (ds : List Char) : Except String Int :=
  let n : Int := ((Text.readBase? base ds).getD 0 : Nat)
  if negative then
    if Text.leastInt ≤ -n then .ok (-n) else .error "number too small to fit in target type"
  else if n ≤ Text.greatestInt then .ok n
  else .error "number too large to fit in target type"

/-- Reads an integer in a base, after the two characters that announce the base. -/
def basedInteger (base : Nat) (label : String) (rest : List Char) : Outcome Int :=
  andThen
    (labelled label (firmly (digits (fun c => (Text.digitIn? base c).isSome) (rest.drop 2))))
    fun ds left =>
      match toInteger base false ds with
      | .ok n => .ok (n, left)
      | .error cause => .error (Refusal.because cause rest).settled

/-- Reads an integer. -/
def integer (rest : List Char) : Outcome Int :=
  match rest.take 2 with
  | ['0', 'x'] => basedInteger 16 "hexadecimal integer" rest
  | ['0', 'o'] => basedInteger 8 "octal integer" rest
  | ['0', 'b'] => basedInteger 2 "binary integer" rest
  | _ =>
    andThen (decimalInteger rest) fun (negative, ds) left =>
      match toInteger 10 negative ds with
      | .ok n => .ok (n, left)
      | .error cause => .error (Refusal.because cause rest).settled

/-- An integer that announces no other base is decimal. -/
theorem integer_decimal {rest : List Char} (noHex : rest.take 2 ≠ ['0', 'x']) (noOctal : rest.take 2 ≠ ['0', 'o'])
    (noBinary : rest.take 2 ≠ ['0', 'b']) :
    integer rest = andThen (decimalInteger rest) fun (negative, ds) left =>
      match toInteger 10 negative ds with
      | .ok n => .ok (n, left)
      | .error cause => .error (Refusal.because cause rest).settled := by
  unfold integer
  split
  · next announced => exact absurd announced noHex
  · next announced => exact absurd announced noOctal
  · next announced => exact absurd announced noBinary
  · rfl

/-! ## Fractions -/

/-- Reads an exponent. -/
def exponent (rest : List Char) : Outcome Int :=
  andThen (one (fun c => c = 'e' || c = 'E') rest) fun _ rest =>
    let (negative, rest) := sign rest
    mapOutcome
      (fun ds =>
        let n : Int := ((Text.readNat? ds).getD 0 : Nat)
        if negative then -n else n)
      (firmly (digits isDigit rest))

/-- Reads the digits after a decimal point, with the point. -/
def fraction (rest : List Char) : Outcome (List Char) :=
  andThen (one (· = '.') rest) fun _ rest => expecting "digit" (firmly (digits isDigit rest))

/-- Reads what makes a number a fraction: an exponent, or digits after a point and perhaps an
exponent. -/
def fractionPart (rest : List Char) : Outcome (List Char × Int) :=
  orElse (mapOutcome (fun e => ([], e)) (exponent rest)) fun _ =>
    andThen (fraction rest) fun ds rest =>
      mapOutcome (fun e => (ds, e.getD 0)) (optionally exponent rest)

/-- Reads a number with a fraction or an exponent. It must not be too large for a double. -/
def decimalFraction (rest : List Char) : Outcome Float :=
  andThen (decimalInteger rest) fun (negative, whole) left =>
    andThen (fractionPart left) fun (ds, e) left =>
      let x := Decimal.ofNumeral whole ds e
      if x.isInf && !negative then .error (Refusal.soft rest).settled
      else .ok (if negative then -x else x, left)

/-- Reads infinity or the number that is none. -/
def specialFraction (rest : List Char) : Outcome Float :=
  let (negative, left) := sign rest
  let special : Outcome Float :=
    orElse (mapOutcome (fun _ => 1.0 / 0.0) (exactly ['i', 'n', 'f'] left)) fun _ =>
      mapOutcome (fun _ => 0.0 / 0.0) (exactly ['n', 'a', 'n'] left)
  mapOutcome (fun x => if negative then -x else x) special

/-- Reads a floating-point number. -/
def float (rest : List Char) : Outcome Float :=
  labelled "floating-point number"
    (orElse (decimalFraction rest) fun _ => specialFraction rest)

/-! ## Dates and times -/

/-- Reads a number of exactly so many digits. -/
def fixedDigits (width : Nat) (rest : List Char) : Outcome Nat :=
  let ds := (rest.take width).takeWhile isDigit
  if ds.length = width then .ok ((Text.readNat? ds).getD 0, rest.drop width)
  else .error (.soft rest)

/-- Reads a number of two digits within bounds. -/
def part (least greatest : Nat) (rest : List Char) : Outcome Nat :=
  andThen (fixedDigits 2 rest) fun n left =>
    if least ≤ n && n ≤ greatest then .ok (n, left)
    else .error (.because Refusal.outOfRange rest)

/-- Reads one given character. -/
def mark (c : Char) (rest : List Char) : Outcome Char := one (· = c) rest

/-- The number of days of a month. -/
def daysOf (year month : Nat) : Nat :=
  if month = 2 then
    if year % 4 = 0 && (year % 100 ≠ 0 || year % 400 = 0) then 29 else 28
  else if month = 4 || month = 6 || month = 9 || month = 11 then 30
  else 31

/-- Reads a date. -/
def date (rest : List Char) : Outcome Unit :=
  andThen (fixedDigits 4 rest) fun year rest =>
    andThen (mark '-' rest) fun _ rest =>
      firmly
        (andThen (part 1 12 rest) fun month rest =>
          andThen (mark '-' rest) fun _ rest =>
            andThen (part 1 31 rest) fun day left =>
              if day ≤ daysOf year month then .ok ((), left)
              else .error (.because Refusal.outOfRange rest))

/-- Reads a fraction of a second. -/
def secondFraction (rest : List Char) : Outcome Unit :=
  andThen (mark '.' rest) fun _ rest =>
    andThen (one isDigit rest) fun _ rest => .ok ((), rest.dropWhile isDigit)

/-- Reads a time of day. -/
def time (rest : List Char) : Outcome Unit :=
  andThen (part 0 23 rest) fun _ rest =>
    andThen (mark ':' rest) fun _ rest =>
      firmly
        (andThen (part 0 59 rest) fun _ rest =>
          andThen (mark ':' rest) fun _ rest =>
            andThen (part 0 60 rest) fun _ rest =>
              mapOutcome (fun _ => ()) (optionally secondFraction rest))

/-- Reads the distance of a time from that of Greenwich. -/
def timeOffset (rest : List Char) : Outcome Unit :=
  labelled "time offset"
    (orElse (mapOutcome (fun _ => ()) (one (fun c => c = 'Z' || c = 'z') rest)) fun _ =>
      andThen (one (fun c => c = '+' || c = '-') rest) fun _ rest =>
        firmly
          (andThen (part 0 23 rest) fun _ rest =>
            andThen (mark ':' rest) fun _ rest =>
              mapOutcome (fun _ => ()) (part 0 59 rest)))

/-- Reads the time that may follow a date. -/
def timeAfterDate (rest : List Char) : Outcome Unit :=
  andThen (one (fun c => c = 'T' || c = 't' || c = ' ') rest) fun _ rest =>
    andThen (time rest) fun _ rest =>
      mapOutcome (fun _ => ()) (optionally timeOffset rest)

/-- Reads a date, a time or both. -/
def dateTime (rest : List Char) : Outcome Unit :=
  orElse
    (labelled "date-time"
      (andThen (date rest) fun _ rest =>
        mapOutcome (fun _ => ()) (optionally timeAfterDate rest)))
    fun _ => labelled "time" (time rest)

/-! ## Truth values -/

/-- Reads a word that was recognised by its first letter. -/
def word (text : String) (rest : List Char) : Outcome Unit := exactly text.toList rest

/-- What is expected where an item begins with no other character. -/
def expectingString {α : Type} (r : Outcome α) : Outcome α :=
  expectingMark "'" (expectingMark "\"" (labelled "string" r))

end Fixtures.Toml
