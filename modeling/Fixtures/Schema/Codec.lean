import Fixtures.Json.Decode
import Fixtures.Schema.Basic

/-!
# Schemas as JSON

A schema is written as an object for each type, field, directive and argument, and read back by the
decoders beside.
-/

namespace Fixtures

open Json (Decoder)

namespace Argument

/-- An argument as JSON. -/
def toJson (a : Argument) : Json := .object [("name", .string a.name), ("value", .string a.value)]

/-- Decodes an argument. -/
def decode : Decoder Argument :=
  Json.record "Argument"
    (.cons "name" (Json.text "a string") none (.cons "value" (Json.text "a string") none .nil))
    fun (name, value, ()) => ⟨name, value⟩

end Argument

namespace Directive

/-- A directive as JSON. -/
def toJson (d : Directive) : Json :=
  .object [("name", .string d.name), ("arguments", .array (d.arguments.map Argument.toJson))]

/-- Decodes a directive. -/
def decode : Decoder Directive :=
  Json.record "Directive"
    (.cons "name" (Json.text "a string") none
      (.cons "arguments" (Json.list Argument.decode) none .nil))
    fun (name, arguments, ()) => ⟨name, arguments⟩

end Directive

namespace Field

/-- A field as JSON. -/
def toJson (f : Field) : Json :=
  .object [("name", .string f.name), ("directives", .array (f.directives.map Directive.toJson))]

/-- Decodes a field. -/
def decode : Decoder Field :=
  Json.record "FieldDeclaration"
    (.cons "name" (Json.text "a string") none
      (.cons "directives" (Json.list Directive.decode) none .nil))
    fun (name, directives, ()) => ⟨name, directives⟩

end Field

namespace ObjectType

/-- A type as JSON. -/
def toJson (t : ObjectType) : Json :=
  .object [("name", .string t.name), ("fields", .array (t.fields.map Field.toJson))]

/-- Decodes a type. -/
def decode : Decoder ObjectType :=
  Json.record "TypeDeclaration"
    (.cons "name" (Json.text "a string") none (.cons "fields" (Json.list Field.decode) none .nil))
    fun (name, fields, ()) => ⟨name, fields⟩

end ObjectType

namespace Schema

/-- A schema as JSON. -/
def toJson (s : Schema) : Json := .object [("types", .array (s.types.map ObjectType.toJson))]

/-- Decodes a schema. -/
def decode : Decoder Schema :=
  Json.record "SchemaDocument" (.cons "types" (Json.list ObjectType.decode) none .nil)
    fun (types, ()) => ⟨types⟩

end Schema

end Fixtures
