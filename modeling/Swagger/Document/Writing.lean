import Swagger.Document
import Swagger.Schema.Writing

/-! # Documents as JSON
Every object is written with its fields in a fixed order and without those that say nothing; vendor
extensions stand at the end, in a parameter in the middle. The order of a parameter's members is
relied on: shared parameters are told apart by this text. -/

namespace Swagger

open Json.Members

namespace Contact

/-- The names of the fields, in order. -/
def fieldNames : List String := ["name", "url", "email"]

/-- The object that is written. -/
def toJson (c : Contact) : Json :=
  .obj (text "name" c.name ++ text "url" c.url ++ text "email" c.email)

end Contact

namespace License

/-- The names of the fields, in order. -/
def fieldNames : List String := ["name", "url"]

/-- The object that is written. -/
def toJson (l : License) : Json := .obj (always "name" (.str l.name) ++ text "url" l.url)

end License

namespace Info

/-- The names of the fields, in order. -/
def fieldNames : List String :=
  ["title", "description", "termsOfService", "contact", "license", "version"]

/-- The object that is written. -/
def toJson (i : Info) : Json :=
  .obj (text "title" i.title ++ text "description" i.description ++
    text "termsOfService" i.termsOfService ++ optional "contact" Contact.toJson i.contact ++
    optional "license" License.toJson i.license ++ text "version" i.version ++ i.extensions.entries)

end Info

namespace Tag

/-- The names of the fields, in order. -/
def fieldNames : List String := ["name", "description", "externalDocs"]

/-- The object that is written. -/
def toJson (t : Tag) : Json :=
  .obj (always "name" (.str t.name) ++ text "description" t.description ++
    optional "externalDocs" ExternalDocs.toJson t.externalDocs)

end Tag

namespace Header

/-- The names of the fields, in order. -/
def fieldNames : List String := ["description", "type", "format"]

/-- The object that is written. -/
def toJson (h : Header) : Json :=
  .obj (text "description" h.description ++ text "type" h.type ++ text "format" h.format ++
    h.extensions.entries)

end Header

namespace Response

/-- The names of the fields, in order. -/
def fieldNames : List String := ["description", "schema", "headers", "examples"]

/-- The object that is written. -/
def toJson (r : Response) : Json :=
  .obj (always "description" (.str r.description) ++ optional "schema" Schema.toJson r.schema ++
    dict "headers" Header.toJson r.headers ++ object "examples" r.examples.entries ++
    r.extensions.entries)

end Response

namespace Responses

/-- The object that is written: the fallback, the status codes in their order, the rest. -/
def toJson (r : Responses) : Json :=
  .obj (optional "default" Response.toJson r.fallback ++
    r.byCode.entries.map (fun e => (toString e.1.toNat, e.2.toJson)) ++ r.extensions.entries)

end Responses

namespace Parameter

/-- The names of the fields, in order. -/
def fieldNames : List String :=
  ["$ref", "maximum", "minimum", "uniqueItems", "enum", "type", "format", "collectionFormat",
    "default", "description", "name", "in", "required", "schema", "allowEmptyValue"]

/-- The object that is written. -/
def toJson (p : Parameter) : Json :=
  .obj (optional "$ref" .str p.reference ++ optional "maximum" Json.ofDouble p.maximum ++
    optional "minimum" Json.ofDouble p.minimum ++ flag "uniqueItems" p.uniqueItems ++
    items "enum" p.enumeration ++ text "type" p.type ++ text "format" p.format ++
    text "collectionFormat" p.collectionFormat ++ optional "default" id p.defaultValue ++
    p.extensions.entries ++ text "description" p.description ++ text "name" p.name ++
    text "in" p.location ++ flag "required" p.required ++ optional "schema" Schema.toJson p.schema ++
    flag "allowEmptyValue" p.allowEmptyValue)

end Parameter

namespace SecurityScheme

/-- The names of the fields, in order. -/
def fieldNames : List String :=
  ["type", "description", "name", "in", "flow", "authorizationUrl", "tokenUrl", "scopes"]

/-- The object that is written. -/
def toJson (s : SecurityScheme) : Json :=
  .obj (always "type" (.str s.type) ++ text "description" s.description ++ text "name" s.name ++
    text "in" s.location ++ text "flow" s.flow ++ text "authorizationUrl" s.authorizationUrl ++
    text "tokenUrl" s.tokenUrl ++ dict "scopes" .str s.scopes ++ s.extensions.entries)

end SecurityScheme

/-- A security requirement as an object of lists of scopes. -/
def SecurityRequirement.toJson (r : SecurityRequirement) : Json :=
  .ofDict (Dict.map Json.ofStrings r)

namespace Operation

/-- The object that is written. -/
def toJson (o : Operation) : Json :=
  .obj (text "description" o.description ++ strings "consumes" o.consumes ++
    strings "produces" o.produces ++ strings "schemes" o.schemes ++ strings "tags" o.tags ++
    text "summary" o.summary ++ optional "externalDocs" ExternalDocs.toJson o.externalDocs ++
    text "operationId" o.id ++ flag "deprecated" o.deprecated ++
    items "security" (o.security.map SecurityRequirement.toJson) ++
    items "parameters" (o.parameters.map Parameter.toJson) ++
    optional "responses" Responses.toJson o.responses ++ o.extensions.entries)

end Operation

namespace PathItem

/-- The object that is written: the operations by method, the parameters, the rest. -/
def toJson (p : PathItem) : Json :=
  .obj (Method.all.flatMap (fun m => optional m.key Operation.toJson (p.slot m)) ++
    items "parameters" (p.parameters.map Parameter.toJson) ++ p.extensions.entries)

end PathItem

namespace Document

/-- The object that is written. The paths are always there, even when there are none. -/
def toJson (d : Document) : Json :=
  .obj (always "swagger" (.str d.version) ++ optional "info" Info.toJson d.info ++
    text "host" d.host ++ text "basePath" d.basePath ++ strings "schemes" d.schemes ++
    strings "consumes" d.consumes ++ strings "produces" d.produces ++
    always "paths" (.ofDict (d.paths.map PathItem.toJson)) ++
    dict "definitions" Schema.toJson d.definitions ++ dict "parameters" Parameter.toJson d.parameters ++
    dict "responses" Response.toJson d.responses ++
    dict "securityDefinitions" SecurityScheme.toJson d.securityDefinitions ++
    items "security" (d.security.map SecurityRequirement.toJson) ++
    items "tags" (d.tags.map Tag.toJson) ++
    optional "externalDocs" ExternalDocs.toJson d.externalDocs ++ d.extensions.entries)

end Document

end Swagger
