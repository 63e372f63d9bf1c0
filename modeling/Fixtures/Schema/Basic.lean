/-!
# Schemas

What generation needs of a schema: its object types in source order, their fields, and the directives
written next to each field. The value of a directive argument is kept as text: the contents of a
string literal, or any other literal as it is written.
-/

namespace Fixtures

/-- A named argument of a directive. -/
structure Argument where
  name : String
  value : String
  deriving DecidableEq, Repr

/-- A directive next to a field, as in `@generate(faker: "1")`. -/
structure Directive where
  name : String
  arguments : List Argument
  deriving DecidableEq, Repr

/-- A field of an object type. -/
structure Field where
  name : String
  directives : List Directive
  deriving DecidableEq, Repr

/-- An object type: the documents of one collection have its fields. -/
structure ObjectType where
  name : String
  fields : List Field
  deriving DecidableEq, Repr

/-- The object types of a schema, in source order. Names may repeat. -/
structure Schema where
  types : List ObjectType
  deriving DecidableEq, Repr

/-- The first object type of a name. -/
def Schema.typeNamed? (schema : Schema) (name : String) : Option ObjectType :=
  schema.types.find? (·.name = name)

end Fixtures
