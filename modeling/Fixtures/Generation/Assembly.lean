import Fixtures.Generation.Directive
import Fixtures.Json.Value

/-!
# Assembling documents

The documents of a type are built field by field: the expression of a generated field is evaluated
once for each document, in the order of the documents, before the next field is looked at. Nothing is
shared between documents or types but the state that evaluation carries along, so the answer to one
call may depend on all calls before it.

## Shape of an assembly

`Evaluator σ` evaluates an expression and is told when a type begins; both act on a state `σ`.
Assembly stops at the first fault and keeps the state reached there.
-/

namespace Fixtures.Generation

/-- Why an expression has no value. -/
inductive EvaluationError where
  | script (message : String)
  | conversion (message : String)
  deriving DecidableEq, Repr

/-- The text of an evaluation error. -/
def EvaluationError.message : EvaluationError → String
  | script text => "script error: " ++ text
  | conversion text => "result cannot be represented as JSON: " ++ text

/-- Why assembly stopped. -/
inductive AssemblyError where
  | directive (e : DirectiveError)
  | evaluation (typeName field : String) (index : Nat) (source : EvaluationError)
  deriving DecidableEq, Repr

/-- The text of an assembly error. -/
def AssemblyError.message : AssemblyError → String
  | directive e => e.message
  | evaluation typeName field index source =>
    "failed to evaluate the expression of field \"" ++ field ++ "\" under type \"" ++ typeName ++
      "\" (document " ++ Text.natText index ++ "): " ++ source.message

/-- What evaluates expressions: `begin` is called for each type before its fields. -/
structure Evaluator (σ : Type) where
  begin : ObjectType → StateM σ Unit
  evaluate : String → StateM σ (Except EvaluationError Json)

/-- The documents of one type, with the names of its generated and its other fields. -/
structure DocumentSet where
  typeName : String
  documents : List Document
  generatedFields : List String
  skippedFields : List String
  deriving BEq, Inhabited

/-- Assembly that may stop with an error and changes the state of an evaluator. -/
abbrev Assemble (σ α : Type) := ExceptT AssemblyError (StateM σ) α

variable {σ : Type}

/-- Gives a field of each document a value, from the document of the given index on. -/
def fillField (ev : Evaluator σ) (typeName field expression : String) :
    (index : Nat) → List Document → Assemble σ (List Document)
  | _, [] => pure []
  | index, document :: rest => do
    match ← ev.evaluate expression with
    | .error source => throw (.evaluation typeName field index source)
    | .ok value =>
      let filled ← fillField ev typeName field expression (index + 1) rest
      pure (Json.setMember document field value :: filled)

/-- Adds one field to a document set. -/
def addField (ev : Evaluator σ) (set : DocumentSet) (field : Field) :
    Assemble σ DocumentSet := do
  match resolve set.typeName field with
  | .error e => throw (.directive e)
  | .ok none => pure { set with skippedFields := set.skippedFields ++ [field.name] }
  | .ok (some expression) =>
    let documents ← fillField ev set.typeName field.name expression 0 set.documents
    pure { set with documents, generatedFields := set.generatedFields ++ [field.name] }

/-- Assembles `count` documents of a type; a type without fields has none. -/
def assembleType (ev : Evaluator σ) (count : Nat) (type : ObjectType) :
    Assemble σ (Option DocumentSet) :=
  if type.fields.isEmpty then pure none
  else do
    let empty : DocumentSet := ⟨type.name, List.replicate count [], [], []⟩
    let set ← type.fields.foldlM (addField ev) empty
    pure (some set)

/-- Assembles the types of a schema in order, leaving out those without fields. -/
def assembleTypes (ev : Evaluator σ) (count : Nat) : List ObjectType → Assemble σ (List DocumentSet)
  | [] => pure []
  | type :: rest => do
    ev.begin type
    let set? ← assembleType ev count type
    let sets ← assembleTypes ev count rest
    pure (set?.toList ++ sets)

/-- Assembles the types of a schema. -/
def assemble (ev : Evaluator σ) (count : Nat) (schema : Schema) : Assemble σ (List DocumentSet) :=
  assembleTypes ev count schema.types

end Fixtures.Generation
