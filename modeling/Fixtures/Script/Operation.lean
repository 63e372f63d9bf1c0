import Fixtures.Decimal.Remainder
import Fixtures.Script.Fault
import Fixtures.Script.Lexer
import Fixtures.Script.Tree

/-!
# Operators on values

Integers do not wrap: a result of more than 64 bits is a fault. Values of different types are never
equal, but an integer and a double compare as doubles, and a character and a string as strings.
Anything can be added to a string. `basic` are the operators on simple values; `extended` those that
work on texts and containers and count as the call of a function.
-/

namespace Fixtures.Script

/-- The value or the cause of a fault of an operation. -/
abbrev Outcome := Except Cause Value

namespace Operation

/-- An integer, if it has 64 bits. -/
def checked (n : Int) (fault : String) : Outcome :=
  if Text.isInt64 n then .ok (.int (Int64.ofInt n)) else .error (.arithmetic fault)

/-- An operation as its fault shows it. -/
def operationText (kind : String) (op : Operator) (a b : Int) : String :=
  kind ++ ": " ++ Text.intText a ++ " " ++ op.mark ++ " " ++ Text.intText b

/-- A power of an integer, unless it has more than 64 bits. -/
def power (a b : Int) : Outcome :=
  let fault : Outcome := .error (.arithmetic (operationText "Exponential overflow" .pow a b))
  if b < 0 then
    .error (.arithmetic (operationText "Integer raised to a negative power" .pow a b))
  else if 4294967295 < b then fault
  else if a.natAbs ≤ 1 then .ok (.int (Int64.ofInt (a.pow (b.toNat % 2 + if b = 0 then 0 else 2))))
  else if 64 ≤ b then fault
  else checked (a.pow b.toNat) (operationText "Exponential overflow" .pow a b)

/-- The bits of an integer moved towards the high end. -/
def shiftUp (a : Int64) (count : Nat) : Int64 :=
  if 64 ≤ count then 0 else a <<< Int64.ofNat count

/-- The bits of an integer moved towards the low end; the sign stays. -/
def shiftDown (a : Int64) (count : Nat) : Int64 := Int64.ofInt (a.toInt >>> (min count 64))

/-- An operator on integers. -/
def onInts (op : Operator) (a b : Int64) : Outcome :=
  let x := a.toInt
  let y := b.toInt
  match op with
  | .add => checked (x + y) (operationText "Addition overflow" op x y)
  | .sub => checked (x - y) (operationText "Subtraction overflow" op x y)
  | .mul => checked (x * y) (operationText "Multiplication overflow" op x y)
  | .div =>
    if y = 0 then .error (.arithmetic (operationText "Division by zero" op x y))
    else checked (Int.tdiv x y) (operationText "Division overflow" op x y)
  | .rem =>
    if y = 0 ∨ (x = Text.leastInt ∧ y = -1) then
      .error (.arithmetic (operationText "Modulo division by zero or overflow" op x y))
    else .ok (.int (Int64.ofInt (Int.tmod x y)))
  | .pow => power x y
  | .shiftLeft =>
    .ok (.int (if y < 0 then shiftDown a y.natAbs else shiftUp a y.toNat))
  | .shiftRight =>
    .ok (.int (if y < 0 then shiftUp a y.natAbs else shiftDown a y.toNat))
  | .bitAnd => .ok (.int (a &&& b))
  | .bitOr => .ok (.int (a ||| b))
  | .bitXor => .ok (.int (a ^^^ b))
  | .eq => .ok (.bool (a = b))
  | .ne => .ok (.bool (a ≠ b))
  | .lt => .ok (.bool (a < b))
  | .le => .ok (.bool (a ≤ b))
  | .gt => .ok (.bool (a > b))
  | .ge => .ok (.bool (a ≥ b))
  | .below => .ok (.range a b false)
  | .through => .ok (.range a b true)

/-- An operator on doubles. -/
def onFloats? (op : Operator) (a b : Float) : Option Value :=
  match op with
  | .add => some (.float (a + b))
  | .sub => some (.float (a - b))
  | .mul => some (.float (a * b))
  | .div => some (.float (a / b))
  | .rem => some (.float (Decimal.remainder a b))
  | .pow => some (.float (Float.pow a b))
  | .eq => some (.bool (a == b))
  | .ne => some (.bool (a != b))
  | .lt => some (.bool (a < b))
  | .le => some (.bool (a ≤ b))
  | .gt => some (.bool (b < a))
  | .ge => some (.bool (b ≤ a))
  | _ => none

/-- An operator that compares, given whether its left operand is less and whether they are equal. -/
def compare? (op : Operator) (less equal : Bool) : Option Value :=
  match op with
  | .eq => some (.bool equal)
  | .ne => some (.bool !equal)
  | .lt => some (.bool less)
  | .le => some (.bool (less || equal))
  | .gt => some (.bool !(less || equal))
  | .ge => some (.bool !less)
  | _ => none

/-- A text without the occurrences of another. -/
def without (text part : String) : String := if part.isEmpty then text else text.replace part ""

/-- An operator on texts. -/
def onTexts? (op : Operator) (a b : String) : Option Value :=
  match op with
  | .add => some (.string (a ++ b))
  | op => compare? op (a < b) (a = b)

/-- An operator on truth values. -/
def onBools? (op : Operator) (a b : Bool) : Option Value :=
  match op with
  | .bitAnd => some (.bool (a && b))
  | .bitOr => some (.bool (a || b))
  | .bitXor => some (.bool (a != b))
  | op => compare? op (!a && b) (a == b)

/-- Whether two values have the same type. -/
def sameType (a b : Value) : Bool := a.fullTypeName = b.fullTypeName

/-- The operator on simple values, if there is one. -/
def basic? (op : Operator) (a b : Value) : Option Outcome :=
  match a, b with
  | .int a, .int b => some (onInts op a b)
  | .float a, .float b => (onFloats? op a b).map .ok
  | .float a, .int b => (onFloats? op a (Float.ofInt b.toInt)).map .ok
  | .int a, .float b => (onFloats? op (Float.ofInt a.toInt) b).map .ok
  | .bool a, .bool b => (onBools? op a b).map .ok
  | .string a, .string b =>
    if op = .sub then some (.ok (.string (without a b))) else (onTexts? op a b).map .ok
  | .string a, .char b =>
    if op = .sub then some (.ok (.string (without a (String.singleton b))))
    else (onTexts? op a (String.singleton b)).map .ok
  | .char a, .string b => (onTexts? op (String.singleton a) b).map .ok
  | .char a, .char b => (onTexts? op (String.singleton a) (String.singleton b)).map .ok
  | .unit, .unit =>
    match op with
    | .eq => some (.ok (.bool true))
    | .ne | .lt | .le | .gt | .ge => some (.ok (.bool false))
    | _ => none
  | .range a b c, .range d e f =>
    if c = f then
      match op with
      | .eq => some (.ok (.bool (a = d ∧ b = e)))
      | .ne => some (.ok (.bool !(a = d ∧ b = e)))
      | _ => none
    else
      match op with
      | .ne => some (.ok (.bool true))
      | .eq | .lt | .le | .gt | .ge => some (.ok (.bool false))
      | _ => none
  | a, b =>
    if sameType a b then none
    else
      match op with
      | .ne => some (.ok (.bool true))
      | .eq | .lt | .le | .gt | .ge => some (.ok (.bool false))
      | _ => none

mutual

/-- Whether two values are equal; values that cannot be compared are not. -/
def equal : Value → Value → Bool
  | .array a, .array b => equalItems a b
  | .map a, .map b => equalMembers a b
  | a, b =>
    match basic? .eq a b with
    | some (.ok (.bool r)) => r
    | _ => false

/-- Whether two lists of values are equal item by item. -/
def equalItems : List Value → List Value → Bool
  | [], [] => true
  | a :: as, b :: bs => equal a b && equalItems as bs
  | _, _ => false

/-- Whether two lists of members are equal member by member. -/
def equalMembers : List (String × Value) → List (String × Value) → Bool
  | [], [] => true
  | (m, a) :: as, (n, b) :: bs => m = n && equal a b && equalMembers as bs
  | _, _ => false

end

/-- The members of a map and those of another, which win. -/
def merge (a b : List (String × Value)) : List (String × Value) :=
  b.foldl (fun members (name, value) => insertMember members name value) a

/-- The operator on texts and containers, if there is one. -/
def extended? (op : Operator) (a b : Value) : Option Value :=
  match op, a, b with
  | .add, .array a, .array b => some (.array (a ++ b))
  | .add, .map a, .map b => some (.map (merge a b))
  | .add, .string a, b => some (.string (a ++ b.display))
  | .add, a, .string b => some (.string (a.display ++ b))
  | .eq, .array a, .array b => some (.bool (equalItems a b))
  | .ne, .array a, .array b => some (.bool !(equalItems a b))
  | .eq, .map a, .map b => some (.bool (equalMembers a b))
  | .ne, .map a, .map b => some (.bool !(equalMembers a b))
  | _, _, _ => none

/-- A sign before a value, if there is one for it. -/
def signed? (sign : Sign) (v : Value) : Option Outcome :=
  match sign, v with
  | .minus, .int n => some (checked (-n.toInt) ("Negation overflow: -" ++ Text.intText n.toInt))
  | .minus, .float x => some (.ok (.float (-x)))
  | .plus, .int n => some (.ok (.int n))
  | .plus, .float x => some (.ok (.float x))
  | .not, .bool b => some (.ok (.bool !b))
  | _, _ => none

end Operation

end Fixtures.Script
