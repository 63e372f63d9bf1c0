import Fixtures.Schema.Basic
import Fixtures.Text.Numeral

/-!
# The generating directive

A field is generated if exactly one `@generate` directive stands next to it, and this has exactly one
argument, `faker`, whose value is the expression. Directives of other names are no concern of
generation. A second directive is reported before any fault in the arguments.
-/

namespace Fixtures.Generation

/-- The name of the directive that marks a field for generation. -/
def directiveName : String := "generate"

/-- The name of the only argument of this directive. -/
def argumentName : String := "faker"

/-- What is wrong with the generating directives of a field. -/
inductive DirectiveFault where
  | multipleDirectives
  | missingArgument
  | tooManyArguments (count : Nat)
  | wrongArgumentName (actual : String)
  deriving DecidableEq, Repr

/-- A fault in the directives of a field, with the place of the field. -/
structure DirectiveError where
  typeName : String
  field : String
  fault : DirectiveFault
  deriving DecidableEq, Repr

/-- The text of a directive error. -/
def DirectiveError.message (e : DirectiveError) : String :=
  let place := "field \"" ++ e.field ++ "\" under type \"" ++ e.typeName ++ "\""
  match e.fault with
  | .multipleDirectives =>
    "you cannot have more than 1 @generate directive next to one field; the erroneous field is \"" ++
      e.field ++ "\" under type \"" ++ e.typeName ++ "\""
  | .missingArgument =>
    "the @generate directive on " ++ place ++ " needs a \"" ++ argumentName ++ "\" argument"
  | .tooManyArguments count =>
    "too many arguments (" ++ Text.natText count ++
      ") passed to the @generate directive next to \"" ++ e.field ++ "\" under type \"" ++
      e.typeName ++ "\"; only one is allowed"
  | .wrongArgumentName actual =>
    "the @generate directive only accepts one argument called \"" ++ argumentName ++
      "\" but got \"" ++ actual ++ "\"; the erroneous " ++
      "field is \"" ++ e.field ++ "\" under type \"" ++ e.typeName ++ "\""

/-- The expression in the arguments of a generating directive. -/
def expressionOf : List Argument → Except DirectiveFault String
  | [] => .error .missingArgument
  | [argument] =>
    if argument.name = argumentName then .ok argument.value
    else .error (.wrongArgumentName argument.name)
  | arguments => .error (.tooManyArguments arguments.length)

/-- The expression that generates a field, if the field is generated at all. -/
def resolve (typeName : String) (field : Field) : Except DirectiveError (Option String) :=
  match field.directives.filter (·.name = directiveName) with
  | [] => .ok none
  | [directive] =>
    match expressionOf directive.arguments with
    | .ok expression => .ok (some expression)
    | .error fault => .error ⟨typeName, field.name, fault⟩
  | _ => .error ⟨typeName, field.name, .multipleDirectives⟩

/-- A field that is generated, with the expression that gives its values. -/
structure Resolved where
  field : String
  expression : String
  deriving DecidableEq, Repr

/-- The expression that generates a field, under the name of the field. -/
def resolveField (typeName : String) (field : Field) : Except DirectiveError (Option Resolved) := do
  pure ((← resolve typeName field).map (⟨field.name, ·⟩))

/-- Directives of other names do not matter. -/
theorem resolve_congr (typeName : String) (f g : Field) (hname : f.name = g.name)
    (h : f.directives.filter (·.name = directiveName) =
      g.directives.filter (·.name = directiveName)) :
    resolve typeName f = resolve typeName g := by
  simp only [resolve, hname, h]

end Fixtures.Generation
