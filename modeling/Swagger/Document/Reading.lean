import Swagger.Document.Writing
import Swagger.Schema.Reading

/-! # Documents' objects from nodes
How the objects that a configuration may contain are read. Types with vendor extensions are read from
mappings only; the others also from a list of their fields in order. -/

namespace Swagger

namespace Contact

/-- Read from a mapping, or from a list of the fields. -/
def ofNode? (n : Node) : Option Contact := do
  let f ← n.record? fieldNames 0
  return { name := ← f.string "name", url := ← f.string "url", email := ← f.string "email" }

end Contact

namespace License

/-- Read from a mapping, or from a list of the fields. -/
def ofNode? (n : Node) : Option License := do
  let f ← n.record? fieldNames 0
  return { name := ← f.string "name", url := ← f.string "url" }

end License

namespace Info

/-- Read from a mapping. -/
def ofNode? (n : Node) : Option Info := do
  let (f, extensions) ← n.extensible? fieldNames
  return {
    title := ← f.string "title"
    description := ← f.string "description"
    termsOfService := ← f.string "termsOfService"
    contact := ← f.optional "contact" Contact.ofNode?
    license := ← f.optional "license" License.ofNode?
    version := ← f.string "version"
    extensions := extensions }

end Info

namespace Tag

/-- Read from a mapping, or from a list of the fields. -/
def ofNode? (n : Node) : Option Tag := do
  let f ← n.record? fieldNames 0
  return {
    name := ← f.string "name"
    description := ← f.string "description"
    externalDocs := ← f.optional "externalDocs" ExternalDocs.ofNode? }

end Tag

namespace Header

/-- Read from a mapping. -/
def ofNode? (n : Node) : Option Header := do
  let (f, extensions) ← n.extensible? fieldNames
  return {
    description := ← f.string "description"
    type := ← f.string "type"
    format := ← f.string "format"
    extensions := extensions }

end Header

namespace Response

/-- Read from a mapping. -/
def ofNode? (n : Node) : Option Response := do
  let (f, extensions) ← n.extensible? fieldNames
  return {
    description := ← f.string "description"
    schema := ← f.optional "schema" Schema.ofNode?
    headers := ← f.dict "headers" Header.ofNode?
    examples := ← f.dict "examples" Node.json?
    extensions := extensions }

end Response

namespace Parameter

/-- Read from a mapping. -/
def ofNode? (n : Node) : Option Parameter := do
  let (f, extensions) ← n.extensible? fieldNames
  return {
    reference := ← f.optional "$ref" Node.string?
    maximum := ← f.optional "maximum" Node.double?
    minimum := ← f.optional "minimum" Node.double?
    uniqueItems := ← f.flag "uniqueItems"
    enumeration := ← f.list "enum" Node.json?
    type := ← f.string "type"
    format := ← f.string "format"
    collectionFormat := ← f.string "collectionFormat"
    defaultValue := ← f.optional "default" Node.json?
    extensions := extensions
    description := ← f.string "description"
    name := ← f.string "name"
    location := ← f.string "in"
    required := ← f.flag "required"
    schema := ← f.optional "schema" Schema.ofNode?
    allowEmptyValue := ← f.flag "allowEmptyValue" }

end Parameter

namespace SecurityScheme

/-- Read from a mapping. -/
def ofNode? (n : Node) : Option SecurityScheme := do
  let (f, extensions) ← n.extensible? fieldNames
  return {
    type := ← f.string "type"
    description := ← f.string "description"
    name := ← f.string "name"
    location := ← f.string "in"
    flow := ← f.string "flow"
    authorizationUrl := ← f.string "authorizationUrl"
    tokenUrl := ← f.string "tokenUrl"
    scopes := ← f.dict "scopes" Node.string?
    extensions := extensions }

end SecurityScheme

/-- Read a security requirement: lists of scopes by scheme. -/
def SecurityRequirement.ofNode? (n : Node) : Option SecurityRequirement :=
  n.dict? (Node.list? Node.string?)

end Swagger
