import Fixtures.Script.Place

/-!
# Why a script is refused

A text that is not a script is refused before anything of it is evaluated. `Complaint` names the
reasons, `Refusal` adds the place.
-/

namespace Fixtures.Script

/-- What is wrong with a text. -/
inductive Complaint where
  | incomplete
  | unexpected (token : String)
  | missing (token why : String)
  | missingExpression (what : String)
  | wrongKind (wanted found : String)
  | propertyName
  | variableName
  | functionName
  | parameters (function : String)
  | body (function : String)
  | reserved (word : String)
  | openString
  | escape (sequence : String)
  | character (text : String)
  | numeral (digits : String)
  | properName (text : String)
  | symbol (explanation : String)
  | duplicateProperty (name : String)
  | duplicateParameter (name function : String)
  | duplicateVariable (name : String)
  | duplicateFunction (name : String) (arity : Nat)
  | assignConstant (name : String)
  | assignConstantValue
  | notAssignable
  | unknownOperator (sign : String)
  | looseBreak
  | nestedFunction
  | tooComplex
  | index (explanation : String)
  | caseAfterRange
  | defaultNotLast
  | defaultCondition
  deriving DecidableEq, Repr

/-- A text between single quotation marks. -/
def singleQuoted (s : String) : String := "'" ++ s ++ "'"

/-- Whether a word is made of letters, digits and underscores, and begins like a name. -/
def isWordLike (s : String) : Bool :=
  match s.toList.dropWhile (· = '_') with
  | [] => false
  | c :: rest => c.isAlpha && rest.all fun c => c.isAlphanum || c = '_'

/-- The text of a complaint. -/
def Complaint.message : Complaint → String
  | incomplete => "Script is incomplete"
  | unexpected token => "Unexpected " ++ singleQuoted token
  | missing token why => "Expecting " ++ singleQuoted token ++ " " ++ why
  | missingExpression what => "Expecting " ++ what ++ " expression"
  | wrongKind wanted found => "Expecting " ++ wanted ++ ", not " ++ found
  | propertyName => "Expecting name of a property"
  | variableName => "Expecting name of a variable"
  | functionName => "Expecting function name in function declaration"
  | parameters function => "Expecting parameters for function " ++ function
  | body function => "Expecting body statement block for function " ++ function
  | reserved word =>
    singleQuoted word ++
      if isWordLike word then " is a reserved keyword" else " is a reserved symbol"
  | openString => "Open string is not terminated"
  | escape sequence => "Invalid escape sequence: " ++ singleQuoted sequence
  | character text => "Invalid character: " ++ singleQuoted text
  | numeral digits => "Invalid number: " ++ singleQuoted digits
  | properName text => "Variable name is not proper: " ++ singleQuoted text
  | symbol explanation => explanation
  | duplicateProperty name => "Duplicated property for object map literal: " ++ name
  | duplicateParameter name "" => "Duplicated parameter " ++ name ++ " for anonymous function"
  | duplicateParameter name function => "Duplicated parameter " ++ name ++ " for function " ++ function
  | duplicateVariable name => "Duplicated variable name: " ++ name
  | duplicateFunction name 0 => "Function " ++ name ++ " already exists"
  | duplicateFunction name 1 => "Function " ++ name ++ " with 1 parameter already exists"
  | duplicateFunction name arity =>
    "Function " ++ name ++ " with " ++ Text.natText arity ++ " parameters already exists"
  | assignConstant name => "Cannot assign to constant " ++ name
  | assignConstantValue => "Cannot assign to a constant value"
  | notAssignable => "Expression cannot be assigned to"
  | unknownOperator sign => "Unknown operator: " ++ singleQuoted sign
  | looseBreak => "Break statement should only be used inside a loop"
  | nestedFunction =>
    "Function definitions must be at global level and cannot be inside a block or another function"
  | tooComplex => "Expression exceeds maximum complexity"
  | index explanation => explanation
  | caseAfterRange => "Numeric switch case cannot follow a range case"
  | defaultNotLast => "Default switch case must be the last"
  | defaultCondition => "This switch case cannot have a condition"

/-- A complaint and the place it is about. -/
structure Refusal where
  complaint : Complaint
  place : Place
  deriving DecidableEq, Repr

/-- The text of a refusal. -/
def Refusal.message (r : Refusal) : String :=
  "Syntax error: " ++ r.complaint.message ++ r.place.tail

end Fixtures.Script
