import Fixtures.Decimal.Shortest
import Fixtures.Text.Numeral

/-!
# Writing doubles

A `Layout` says how the digits of a number are set: which exponents are written positionally, and
what a whole number or an exponent looks like: `Layout.json` for document files, `Layout.plain` and
`Layout.pointed` for numbers inside sentences, `Layout.natural` for numbers turned into text by an
expression and `Layout.shown` for numbers inside such a text.
-/

namespace Fixtures.Decimal

open Text (natDigits)

/-- How a number is written once its digits are known. -/
structure Layout where
  /-- Whether a number is written without an exponent, given its size and that of its first digit. -/
  positional : Float → Int → Bool
  /-- Whether a whole number written without an exponent ends in `.0`. -/
  pointZero : Bool
  /-- Whether a positive exponent has a plus sign. -/
  plusSign : Bool
  /-- Whether a negative zero keeps its sign. -/
  signedZero : Bool

/-- Document files: exponents from `-5` to `15` are written positionally. -/
def Layout.json : Layout := ⟨fun _ e => -5 ≤ e && e ≤ 15, true, true, true⟩

/-- Sentences: never an exponent, and a whole number looks like an integer. -/
def Layout.plain : Layout := ⟨fun _ _ => true, false, false, true⟩

/-- Sentences that tell a whole double from an integer. -/
def Layout.pointed : Layout := ⟨fun _ _ => true, true, false, true⟩

/-- Texts made by an expression: positional from `1e-13` to `1e13`, bounds rounded to single
precision. -/
def Layout.natural : Layout :=
  ⟨fun x _ => Float.ofBits 0x3D3C25C260000000 ≤ x && x ≤ Float.ofBits 0x42A2309CE0000000, true, false, false⟩

/-- Texts that show a value's kind: positional from `1e-4` to below `1e16`. -/
def Layout.shown : Layout := ⟨fun _ e => -4 ≤ e && e ≤ 15, true, false, true⟩

/-- The digits with the decimal point at its place. -/
def positionalDigits (pointZero : Bool) (d : Digits) : List Char :=
  let digits := natDigits d.digits
  let whole (digits : List Char) : List Char := if pointZero then digits ++ ['.', '0'] else digits
  if d.exponent < 0 then
    '0' :: '.' :: (List.replicate ((-d.exponent).toNat - 1) '0' ++ digits)
  else
    let places := d.exponent.toNat + 1
    if digits.length ≤ places then whole (digits ++ List.replicate (places - digits.length) '0')
    else digits.take places ++ '.' :: digits.drop places

/-- The digits with a point after the first one and an exponent. -/
def scientificDigits (plusSign : Bool) (d : Digits) : List Char :=
  let fraction := (natDigits d.digits).drop 1
  (natDigits d.digits).take 1 ++ (if fraction.isEmpty then [] else '.' :: fraction) ++ 'e' ::
    (if plusSign && 0 ≤ d.exponent then '+' :: Text.intDigits d.exponent
     else Text.intDigits d.exponent)

/-- The text of a double in a layout. -/
def Layout.write (layout : Layout) (x : Float) : List Char :=
  match Binary64.ofFloat x with
  | .nan => ['N', 'a', 'N']
  | .infinite negative => if negative then ['-', 'i', 'n', 'f'] else ['i', 'n', 'f']
  | .finite negative m q =>
    let sign := if negative && (m ≠ 0 || layout.signedZero) then ['-'] else []
    if m = 0 then sign ++ positionalDigits layout.pointZero ⟨0, 0⟩
    else
      let d := shortest m q
      if layout.positional x.abs d.exponent then sign ++ positionalDigits layout.pointZero d
      else sign ++ scientificDigits layout.plusSign d

/-- The text of a double in a layout, as a string. -/
def Layout.text (layout : Layout) (x : Float) : String := String.ofList (layout.write x)

end Fixtures.Decimal
