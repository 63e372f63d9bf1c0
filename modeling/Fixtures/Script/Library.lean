import Fixtures.Script.Operation
import Fixtures.Text.Case
import Fixtures.Text.CodeRanges
import Fixtures.Text.Split

/-!
# Functions that scripts can call

A function is chosen by its name and by the types of its arguments. A few functions change their first
argument; `Reply.first` is then its new value. Positions count characters, and a negative position
counts from the end.
-/

namespace Fixtures.Script

/-- What a call gives: its value and, if the first argument changed, its new value. -/
structure Reply where
  value : Value
  first : Option Value := none

namespace Library

/-- A call that gives a value. -/
def gives (v : Value) : Option (Except Cause Reply) := some (.ok { value := v })

/-- A call that changes its first argument. -/
def changes (first : Value) (v : Value := .unit) : Option (Except Cause Reply) :=
  some (.ok { value := v, first := some first })

/-- A text made of characters. -/
def text (chars : List Char) : Value := .string (String.ofList chars)

/-- A number of things, cut to 64 bits. -/
def count (n : Nat) : Value := .int (Int64.ofNat n)

/-! ## Positions -/

/-- The position that an index means in a sequence, counted from the end if it is negative; what lies
before the first item means the first. -/
def offset (size : Nat) (index : Int) : Nat :=
  if index < 0 then size - index.natAbs else index.toNat

/-- The position that an index means in a sequence, if there is an item. -/
def position? (size : Nat) (index : Int) : Option Nat :=
  if index < 0 then if index.natAbs ≤ size then some (size - index.natAbs) else none
  else if index.toNat < size then some index.toNat
  else none

/-- Some characters of a text from a position on. -/
def slice (chars : List Char) (start length : Int) : List Char :=
  if length ≤ 0 then [] else (chars.drop (offset chars.length start)).take length.toNat

/-- The characters of a text that lie in a range. -/
def sliceRange (chars : List Char) (first last : Int) (closed : Bool) : List Char :=
  let first := max first 0
  let last := max last first
  slice chars first (last - first + if closed then 1 else 0)

/-! ## Texts -/

/-- How many characters stand before the first occurrence of a part. -/
def find? (part chars : List Char) : Option Nat :=
  (Text.cutWord part chars).map fun (before, _) => before.length

/-- The position of a part from a position on, or minus one. -/
def indexOf (part chars : List Char) (start : Int) : Value :=
  let first := offset chars.length start
  if chars.isEmpty || (0 < start && chars.length ≤ start.toNat) then .int (-1)
  else
    match find? part (chars.drop first) with
    | some n => count (first + n)
    | none => .int (-1)

/-- A text with each occurrence of a part replaced. At most `fuel` parts are looked for. -/
def replaceIn (part new : List Char) : (fuel : Nat) → List Char → List Char
  | 0, chars => chars
  | fuel + 1, chars =>
    match Text.cutWord part chars with
    | some (before, after) => before ++ new ++ replaceIn part new fuel after
    | none => chars

/-- A text with each occurrence of a part replaced. An empty part occurs between all characters. -/
def replace (part new chars : List Char) : List Char :=
  if part.isEmpty then new ++ chars.flatMap fun c => c :: new
  else replaceIn part new (chars.length + 1) chars

/-- The pieces between the occurrences of a part, at most so many. -/
def splitIn (part : List Char) : (most : Nat) → List Char → List (List Char)
  | 0, _ => []
  | 1, chars => [chars]
  | most + 2, chars =>
    match Text.cutWord part chars with
    | some (before, after) => before :: splitIn part (most + 1) after
    | none => [chars]

/-- The pieces between the characters of a text, with an empty piece at both ends. -/
def splitAll (most : Nat) (chars : List Char) : List (List Char) :=
  let pieces := [] :: chars.map (fun c => [c]) ++ [[]]
  if pieces.length ≤ most then pieces
  else pieces.take (most - 1) ++ [(pieces.drop (most - 1)).flatten]

/-- The pieces of a text between the occurrences of a part, at most so many. -/
def split (part : List Char) (most : Nat) (chars : List Char) : Value :=
  .array ((if part.isEmpty then splitAll most chars else splitIn part most chars).map text)

/-- More pieces than a text can have. -/
def allPieces (chars : List Char) : Nat := chars.length + 3

/-- The words of a text between white space. -/
def words : (fuel : Nat) → List Char → List (List Char)
  | 0, _ => []
  | fuel + 1, chars =>
    match chars.dropWhile Text.isBlank with
    | [] => []
    | chars =>
      chars.takeWhile (!Text.isBlank ·) :: words fuel (chars.dropWhile (!Text.isBlank ·))

/-- The two parts of a text around a position. -/
def splitAt (chars : List Char) (index : Int) : Value :=
  let n := if index < 0 then (if chars.length < index.natAbs then 0 else chars.length - index.natAbs)
    else index.toNat
  .array [text (chars.take n), text (chars.drop n)]

/-- What an integer read from text may lack. -/
def unreadable (s why : String) : Except Cause Value :=
  .error (.arithmetic ("Error parsing integer number " ++ singleQuoted s ++ ": " ++ why))

/-- The integer that a text stands for in a base. -/
def parseInt (s : String) (base : Nat) : Except Cause Value :=
  let chars := Text.trim s.toList
  let (negative, digits) :=
    match chars with
    | '-' :: rest => (true, rest)
    | '+' :: rest => (false, rest)
    | chars => (false, chars)
  let value (c : Char) : Option Nat :=
    (if Text.isDigit c then some (Text.digitValue c)
    else if c.isAlpha then some (c.toLower.toNat - 'a'.toNat + 10)
    else none).filter (· < base)
  if chars.isEmpty then unreadable s "cannot parse integer from empty string"
  else if digits.isEmpty then unreadable s "invalid digit found in string"
  else
    match digits.foldlM (fun n c => (value c).map (n * base + ·)) 0 with
    | none => unreadable s "invalid digit found in string"
    | some n =>
      let n : Int := if negative then -(n : Int) else n
      if Text.isInt64 n then .ok (.int (Int64.ofInt n))
      else if negative then unreadable s "number too small to fit in target type"
      else unreadable s "number too large to fit in target type"

/-- The functions of texts; `chars` are the characters of the first argument. -/
def onText? (function : String) (s : String) (args : List Value) : Option (Except Cause Reply) :=
  let chars := s.toList
  match function, args with
  | "len", [] => gives (count chars.length)
  | "bytes", [] => gives (count s.utf8ByteSize)
  | "is_empty", [] => gives (.bool chars.isEmpty)
  | "to_upper", [] => gives (text (Text.toUpper chars))
  | "to_lower", [] => gives (text (Text.toLower chars))
  | "make_upper", [] => changes (text (Text.toUpper chars))
  | "make_lower", [] => changes (text (Text.toLower chars))
  | "trim", [] => changes (text (Text.trim chars))
  | "clear", [] => changes (.string "")
  | "split", [] => gives (.array ((words (chars.length + 1) chars).map text))
  | "pop", [] =>
    match chars.getLast? with
    | some c => changes (text chars.dropLast) (.char c)
    | none => gives .unit
  | "parse_int", [] =>
    some ((parseInt s 10).map fun v => { value := v })
  | "contains", [.string part] => gives (.bool (find? part.toList chars).isSome)
  | "contains", [.char c] => gives (.bool (chars.contains c))
  | "starts_with", [.string part] => gives (.bool (part.toList.isPrefixOf chars))
  | "ends_with", [.string part] => gives (.bool (part.toList.isSuffixOf chars))
  | "index_of", [.string part] => gives (indexOf part.toList chars 0)
  | "index_of", [.char c] => gives (indexOf [c] chars 0)
  | "index_of", [.string part, .int start] => gives (indexOf part.toList chars start.toInt)
  | "index_of", [.char c, .int start] => gives (indexOf [c] chars start.toInt)
  | "sub_string", [.int start] => gives (text (chars.drop (offset chars.length start.toInt)))
  | "sub_string", [.int start, .int length] => gives (text (slice chars start.toInt length.toInt))
  | "sub_string", [.range first last closed] =>
    gives (text (sliceRange chars first.toInt last.toInt closed))
  | "split", [.int index] => gives (splitAt chars index.toInt)
  | "split", [.string part] => gives (split part.toList (allPieces chars) chars)
  | "split", [.char c] => gives (split [c] (allPieces chars) chars)
  | "split", [.string part, .int most] => gives (split part.toList (max 1 most.toInt).toNat chars)
  | "split", [.char c, .int most] => gives (split [c] (max 1 most.toInt).toNat chars)
  | "replace", [.string part, .string new] => changes (text (replace part.toList new.toList chars))
  | "replace", [.string part, .char new] => changes (text (replace part.toList [new] chars))
  | "replace", [.char part, .string new] => changes (text (replace [part] new.toList chars))
  | "replace", [.char part, .char new] => changes (text (replace [part] [new] chars))
  | "remove", [.string part] => changes (text (replace part.toList [] chars))
  | "remove", [.char part] => changes (text (replace [part] [] chars))
  | "pop", [.int n] =>
    let kept := if n.toInt ≤ 0 then chars.length else chars.length - n.toInt.toNat
    changes (text (chars.take kept)) (text (chars.drop kept))
  | "max", [.string t] => gives (.string (if s < t then t else s))
  | "min", [.string t] => gives (.string (if t < s then t else s))
  | "parse_int", [.int base] =>
    if 2 ≤ base.toInt && base.toInt ≤ 36 then
      some ((parseInt s base.toInt.toNat).map fun v => { value := v })
    else some (.error (.arithmetic ("Invalid radix: " ++ singleQuoted (Text.intText base.toInt))))
  | _, _ => none

/-! ## Arrays and maps -/

/-- The functions of arrays. -/
def onArray? (function : String) (items args : List Value) : Option (Except Cause Reply) :=
  match function, args with
  | "len", [] => gives (count items.length)
  | "is_empty", [] => gives (.bool items.isEmpty)
  | "push", [v] => changes (.array (items ++ [v]))
  | "append", [.array more] => changes (.array (items ++ more))
  | "pop", [] =>
    match items.getLast? with
    | some v => changes (.array items.dropLast) v
    | none => gives .unit
  | "shift", [] =>
    match items with
    | v :: rest => changes (.array rest) v
    | [] => gives .unit
  | "reverse", [] => changes (.array items.reverse)
  | "clear", [] => changes (.array [])
  | "insert", [.int index, v] =>
    let n := offset items.length index.toInt
    changes (.array (items.take n ++ v :: items.drop n))
  | "remove", [.int index] =>
    match position? items.length index.toInt with
    | some n => changes (.array (items.eraseIdx n)) ((items[n]?).getD .unit)
    | none => gives .unit
  | "contains", [v] => gives (.bool (items.any (Operation.equal · v)))
  | "index_of", [v] =>
    match items.findIdx? (Operation.equal · v) with
    | some n => gives (count n)
    | none => gives (.int (-1))
  | _, _ => none

/-- The functions of maps. -/
def onMap? (function : String) (members : List (String × Value)) (args : List Value) :
    Option (Except Cause Reply) :=
  match function, args with
  | "len", [] => gives (count members.length)
  | "is_empty", [] => gives (.bool members.isEmpty)
  | "keys", [] => gives (.array (members.map fun (name, _) => .string name))
  | "values", [] => gives (.array (members.map (·.2)))
  | "contains", [.string name] => gives (.bool (member? members name).isSome)
  | "remove", [.string name] =>
    changes (.map (members.filter (·.1 ≠ name))) ((member? members name).getD .unit)
  | "clear", [] => changes (.map [])
  | _, _ => none

/-! ## Numbers -/

/-- A double as an integer. -/
def toInt (x : Float) : Except Cause Value :=
  if Float.ofInt Text.greatestInt < x || x < Float.ofInt Text.leastInt then
    .error (.arithmetic ("Integer overflow: to_int(" ++ Decimal.Layout.plain.text x ++ ")"))
  else
    match Decimal.Binary64.ofFloat x with
    | .finite negative m q =>
      let n : Nat := if 0 ≤ q then m <<< q.toNat else m >>> (-q).toNat
      let n : Int := if negative then -(n : Int) else n
      .ok (.int (Int64.ofInt (min n Text.greatestInt)))
    | _ => .ok (.int 0)

/-- The functions of integers. -/
def onInt? (function : String) (n : Int64) (args : List Value) : Option (Except Cause Reply) :=
  match function, args with
  | "abs", [] =>
    some ((Operation.checked n.toInt.natAbs ("Negation overflow: -" ++ Text.intText n.toInt)).map
      fun v => { value := v })
  | "to_float", [] => gives (.float (Float.ofInt n.toInt))
  | "to_int", [] => gives (.int n)
  | "max", [.int m] => gives (.int (max n m))
  | "min", [.int m] => gives (.int (min n m))
  | "max", [.float m] =>
    let x := Float.ofInt n.toInt
    gives (.float (if m ≤ x then x else m))
  | "min", [.float m] =>
    let x := Float.ofInt n.toInt
    gives (.float (if x ≤ m then x else m))
  | _, _ => none

/-- The functions of doubles. -/
def onFloat? (function : String) (x : Float) (args : List Value) : Option (Except Cause Reply) :=
  match function, args with
  | "abs", [] => gives (.float x.abs)
  | "round", [] => gives (.float x.round)
  | "floor", [] => gives (.float x.floor)
  | "ceiling", [] => gives (.float x.ceil)
  | "sqrt", [] => gives (.float x.sqrt)
  | "to_int", [] => some ((toInt x).map fun v => { value := v })
  | "max", [.float y] => gives (.float (if y ≤ x then x else y))
  | "min", [.float y] => gives (.float (if x ≤ y then x else y))
  | "max", [.int m] =>
    let y := Float.ofInt m.toInt
    gives (.float (if y ≤ x then x else y))
  | "min", [.int m] =>
    let y := Float.ofInt m.toInt
    gives (.float (if x ≤ y then x else y))
  | _, _ => none

/-- The only character of a text, or `c` where there are several. -/
def oneOr (c : Char) : List Char → Char
  | [d] => d
  | _ => c

/-- The functions of characters. -/
def onChar? (function : String) (c : Char) (args : List Value) : Option (Except Cause Reply) :=
  match function, args with
  | "to_upper", [] => gives (.char (oneOr c (Text.toUpper [c])))
  | "to_lower", [] => gives (.char (oneOr c (Text.toLower [c])))
  | "to_int", [] => gives (count c.toNat)
  | "max", [.char d] => gives (.char (if c < d then d else c))
  | "min", [.char d] => gives (.char (if d < c then d else c))
  | _, _ => none

/-- The functions of ranges. -/
def onRange? (function : String) (first last : Int64) (closed : Bool) (args : List Value) :
    Option (Except Cause Reply) :=
  match function, args with
  | "is_empty", [] => gives (.bool (if closed then last < first else last ≤ first))
  | "contains", [.int n] => gives (.bool (first ≤ n && if closed then n ≤ last else n < last))
  | _, _ => none

/-! ## All of them -/

/-- The functions of all values. -/
def onAny? (function : String) (v : Value) (args : List Value) : Option (Except Cause Reply) :=
  match function, args with
  | "to_string", [] => gives (.string v.display)
  | "to_debug", [] => gives (.string (v.shown Value.typeName))
  | _, _ => none

/-- The call of a function, if there is one for the arguments. -/
def call? (function : String) (args : List Value) : Option (Except Cause Reply) :=
  match args with
  | [] => none
  | v :: rest =>
    let own : Option (Except Cause Reply) :=
      match v with
      | .string s => onText? function s rest
      | .array items => onArray? function items rest
      | .map members => onMap? function members rest
      | .int n => onInt? function n rest
      | .float x => onFloat? function x rest
      | .char c => onChar? function c rest
      | .range first last closed => onRange? function first last closed rest
      | _ => none
    own.or (onAny? function v rest)

/-- The property of a value that is not a map, if it has it. -/
def property? (name : String) (v : Value) : Option Value :=
  match v, name with
  | .string s, "len" => some (count s.length)
  | .string s, "bytes" => some (count s.utf8ByteSize)
  | .string s, "is_empty" => some (.bool s.isEmpty)
  | .array items, "len" => some (count items.length)
  | .array items, "is_empty" => some (.bool items.isEmpty)
  | .range first last closed, "is_empty" =>
    some (.bool (if closed then last < first else last ≤ first))
  | .range first _ _, "start" => some (.int first)
  | .range _ last _, "end" => some (.int last)
  | _, _ => none

end Library

end Fixtures.Script
