import Swagger.Schema.Writing
import Swagger.Node.Reading

/-! # Schemas from nodes
A schema is read from a mapping. Members under no keyword are its vendor extensions.

The types of `type`, `items` and `additionalProperties` are only found by looking at the value, so the
kinds inside these values are settled first. -/

namespace Swagger

namespace ExternalDocs

/-- Read from a mapping, or from a list of the fields in order. -/
def ofNode? (n : Node) : Option ExternalDocs := do
  let f ← n.record? fieldNames 0
  return { description := ← f.string "description", url := ← f.string "url" }

end ExternalDocs

namespace Schema

/-- The type names: a string, or a list of strings. -/
def types? (n : Node) : Option (List String) := do
  match ← n.settled? with
  | .str s _ => return [s]
  | m => m.list? Node.string?

/-- An `items` keyword, given how a schema is read: a list of schemas, else one schema. -/
def items? (schema : Node → Option Schema) (n : Node) : Option (OneOrMany Schema) := do
  let m ← n.settled?
  match m.list? schema with
  | some l => return .many l
  | none => (schema m).map .one

/-- An `additionalProperties` keyword, given how a schema is read: a truth value, else a schema. -/
def additional? (schema : Node → Option Schema) (n : Node) : Option (FlagOr Schema) := do
  match ← n.settled? with
  | .bool b => return .flag b
  | m => (schema m).map .other

/-- The keywords without the inner schemas. -/
def keywords? (f : Fields) (extensions : Extensions) : Option Keywords := do
  return {
    reference := ← f.optional "$ref" Node.string?
    description := ← f.string "description"
    types := ← f.read "type" types? []
    format := ← f.string "format"
    title := ← f.string "title"
    defaultValue := ← f.optional "default" Node.json?
    maximum := ← f.optional "maximum" Node.double?
    minimum := ← f.optional "minimum" Node.double?
    maxLength := ← f.optional "maxLength" Node.natural?
    minLength := ← f.optional "minLength" Node.natural?
    pattern := ← f.string "pattern"
    maxItems := ← f.optional "maxItems" Node.natural?
    minItems := ← f.optional "minItems" Node.natural?
    uniqueItems := ← f.flag "uniqueItems"
    enumeration := ← f.list "enum" Node.json?
    required := ← f.strings "required"
    discriminator := ← f.string "discriminator"
    readOnly := ← f.flag "readOnly"
    externalDocs := ← f.optional "externalDocs" ExternalDocs.ofNode?
    sample := ← f.optional "example" Node.json?
    extensions := extensions }

/-- Read a schema whose inner schemas are at most as many levels deep as the first argument says. -/
def ofNodeWithin? : Nat → Node → Option Schema
  | 0, _ => none
  | levels + 1, n => do
    let (f, extensions) ← n.extensible? fieldNames
    let inner := ofNodeWithin? levels
    return {
      own := ← keywords? f extensions
      items := ← f.optional "items" (items? inner)
      allOf := ← f.list "allOf" inner
      properties := ← f.dict "properties" inner
      additional := ← f.optional "additionalProperties" (additional? inner) }

/-- Read a schema. Every inner schema stands at least one level deeper in the node. -/
def ofNode? (n : Node) : Option Schema := ofNodeWithin? (n.depth + 1) n

/-- Read a schema from a JSON value. -/
def ofJson? (j : Json) : Option Schema := ofNode? (.ofJson j)

end Schema

end Swagger
