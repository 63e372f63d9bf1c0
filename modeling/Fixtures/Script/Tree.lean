import Fixtures.Script.Place
import Fixtures.Script.Value

/-!
# The parts of a script

Expressions, the links of a chain such as `a.b[1].c()`, and statements, each with the place that its
errors report. Functions stand apart from the statements; a function made in place is one of them under
a name of its own, and its expression gives it the variables it shares with its surroundings.
-/

namespace Fixtures.Script

/-- An operator between two values. -/
inductive Operator where
  | add
  | sub
  | mul
  | div
  | rem
  | pow
  | shiftLeft
  | shiftRight
  | bitAnd
  | bitOr
  | bitXor
  | eq
  | ne
  | lt
  | le
  | gt
  | ge
  /-- A range without its end. -/
  | below
  /-- A range with its end. -/
  | through
  deriving DecidableEq, Repr

/-- The operators. -/
def Operator.all : List Operator :=
  [add, sub, mul, div, rem, pow, shiftLeft, shiftRight, bitAnd, bitOr, bitXor, eq, ne, lt, le, gt,
    ge, below, through]

/-- The mark of an operator. -/
def Operator.mark : Operator → String
  | add => "+"
  | sub => "-"
  | mul => "*"
  | div => "/"
  | rem => "%"
  | pow => "**"
  | shiftLeft => "<<"
  | shiftRight => ">>"
  | bitAnd => "&"
  | bitOr => "|"
  | bitXor => "^"
  | eq => "=="
  | ne => "!="
  | lt => "<"
  | le => "<="
  | gt => ">"
  | ge => ">="
  | below => ".."
  | through => "..="

/-- The operator of a mark. -/
def Operator.ofMark? (s : String) : Option Operator := Operator.all.find? (·.mark = s)

/-- An operator before a value. -/
inductive Sign where
  | minus
  | plus
  | not
  deriving DecidableEq, Repr

/-- The mark of a sign. -/
def Sign.mark : Sign → String
  | minus => "-"
  | plus => "+"
  | not => "!"

/-- How two operands are joined when the second may not be needed. -/
inductive Junction where
  | and
  | or
  | coalesce
  deriving DecidableEq, Repr

mutual

/-- An expression. -/
inductive Expr where
  | const (v : Value) (place : Place)
  /-- Text with expressions inside it. -/
  | text (parts : List Expr) (place : Place)
  | array (items : List Expr) (place : Place)
  | map (members : List (String × Expr)) (place : Place)
  | var (name : String) (place : Place)
  | this (place : Place)
  /-- A name, or a call of it, under the name of a module. -/
  | qualified (path : String) (args : List Expr) (place : Place)
  | signed (sign : Sign) (operand : Expr) (place : Place)
  | binary (op : Operator) (left right : Expr) (place : Place)
  | junction (j : Junction) (left right : Expr) (place : Place)
  | within (negated : Bool) (container item : Expr) (place : Place)
  | call (name : String) (args : List Expr) (place : Place)
  | chain (root : Expr) (links : List Link)
  | block (body : List Stmt) (place : Place)
  /-- A function made in place, with the variables it shares. -/
  | closure (name : String) (captured : List (String × Place)) (place : Place)

/-- A link of a chain. -/
inductive Link where
  | property (name : String) (place dot : Place) (optional : Bool)
  | method (name : String) (args : List Expr) (place dot : Place) (optional : Bool)
  | index (e : Expr) (bracket : Place) (optional : Bool)

/-- A statement. -/
inductive Stmt where
  | nothing (place : Place)
  | expr (e : Expr)
  | block (body : List Stmt) (place : Place)
  | choose (condition : Expr) (yes no : List Stmt) (place : Place)
  /-- The cases are labels, a condition and an expression; the default has no labels. -/
  | switch (subject : Expr) (cases : List (List Value × Expr × Expr)) (place : Place)
  /-- Repeats its body as long as the condition holds; a loop without a condition has none. -/
  | loop (condition : Option Expr) (body : List Stmt) (bodyPlace place : Place)
  /-- Repeats its body until the condition is no longer as wanted, but runs it at least once. -/
  | again (body : List Stmt) (wanted : Bool) (condition : Expr) (place : Place)
  | each (name : String) (counter : Option String) (items : Expr) (body : List Stmt)
    (bodyPlace place : Place)
  | define (name : String) (value : Expr) (constant : Bool) (place : Place)
  | assign (target : Expr) (op : Option Operator) (value : Expr) (place : Place)
  | next (place : Place)
  | leave (value : Option Expr) (place : Place)
  | give (value : Option Expr) (place : Place)
  | throw (value : Option Expr) (place : Place)
  | attempt (body : List Stmt) (caught : Option String) (handler : List Stmt) (place : Place)

end

instance : Inhabited Expr := ⟨.const .unit Place.nowhere⟩

instance : Inhabited Stmt := ⟨.nothing Place.nowhere⟩

/-- A function of a script. -/
structure Function where
  name : String
  parameters : List String
  body : List Stmt

/-- A script: its statements, and the functions that may be called from anywhere in it. -/
structure Program where
  body : List Stmt
  functions : List Function

/-- The place that an error of an expression as a whole reports. -/
def Expr.place : Expr → Place
  | const _ p | text _ p | array _ p | map _ p | var _ p | this p | qualified _ _ p => p
  | signed _ _ p | binary _ _ _ p | junction _ _ _ p | within _ _ _ p | call _ _ p => p
  | block _ p | closure _ _ p => p
  | chain root links =>
    match links with
    | .property _ _ dot _ :: _ => dot
    | .method _ _ _ dot _ :: _ => dot
    | .index _ bracket _ :: _ => bracket
    | [] => root.place

/-- The place where an expression begins. -/
def Expr.start : Expr → Place
  | binary _ left _ _ | junction _ left _ _ => left.start
  | within _ _ item _ => item.start
  | chain root _ => root.start
  | e => e.place

/-- The place of a statement. -/
def Stmt.place : Stmt → Place
  | nothing p | block _ p | choose _ _ _ p | switch _ _ p | loop _ _ _ p | again _ _ _ p => p
  | each _ _ _ _ _ p | define _ _ _ p | next p | leave _ p | give _ p | throw _ p
  | attempt _ _ _ p => p
  | expr e => e.start
  | assign target _ _ _ => target.start

/-- Whether a statement ends by itself, without a semicolon. -/
def Stmt.endsItself : Stmt → Bool
  | block .. | choose .. | switch .. | loop .. | each .. | attempt .. => true
  | _ => false

end Fixtures.Script
