import Swagger.Config
import Swagger.Json.Printer
import Swagger.Text.Record

/-! # Describing a configuration
One line that shows the settings of a configuration and which of its functions are set.

* `Config.description` — the line. -/

namespace Swagger

open Text (Record)

/-- A dictionary with strings as keys. -/
def Dict.describe {α : Type} (value : α → Record) (d : Dict String α) : Record :=
  .dict (d.entries.map fun e => (.str e.1, value e.2))

/-- Positional from `0.0001` to below `1e16`, without a plus sign in the exponent. -/
def Double.shownLayout : DecimalLayout := ⟨-3, 16, false, "inf", "NaN"⟩

/-- A double. -/
def Double.describe (d : Double) : Record := .word (Double.shownLayout.write d)

namespace Json

mutual

/-- A free value, with the name of its kind. -/
def describe : Json → Record
  | .null => .word "Null"
  | .bool b => .wrap "Bool" (.bool b)
  | .num n => .wrap "Number" (.word (numberText n))
  | .str s => .wrap "String" (.str s)
  | .arr items => .labelled "Array" (.list (describeItems items))
  | .obj members => .labelled "Object" (.dict (describeMembers members))

/-- The items of an array. -/
def describeItems : List Json → List Record
  | [] => []
  | x :: rest => describe x :: describeItems rest

/-- The members of an object. -/
def describeMembers : List (String × Json) → List (Record × Record)
  | [] => []
  | (k, x) :: rest => (.str k, describe x) :: describeMembers rest

end

end Json

/-- Vendor extensions. -/
def Extensions.describe (x : Extensions) : Record := Dict.describe Json.describe x

/-- A pointer to documentation. -/
def ExternalDocs.describe (d : ExternalDocs) : Record :=
  .fields "ExternalDocs" [("description", .str d.description), ("url", .str d.url)]

namespace Schema

mutual

/-- A schema. -/
def describe : Schema → Record
  | ⟨own, items, allOf, properties, additional⟩ =>
    .fields "Schema"
      [("reference", .option .str own.reference),
        ("description", .str own.description),
        ("type_", .wrap "StringOrArray" (.strs own.types)),
        ("format", .str own.format),
        ("title", .str own.title),
        ("default", .option Json.describe own.defaultValue),
        ("maximum", .option Double.describe own.maximum),
        ("minimum", .option Double.describe own.minimum),
        ("max_length", .option .nat own.maxLength),
        ("min_length", .option .nat own.minLength),
        ("pattern", .str own.pattern),
        ("max_items", .option .nat own.maxItems),
        ("min_items", .option .nat own.minItems),
        ("unique_items", .bool own.uniqueItems),
        ("enum_values", .list (own.enumeration.map Json.describe)),
        ("required", .strs own.required),
        ("items", describeOptionalItems items),
        ("all_of", .list (describeList allOf)),
        ("properties", .dict (describeProperties properties.entries)),
        ("additional_properties", describeAdditional additional),
        ("discriminator", .str own.discriminator),
        ("read_only", .bool own.readOnly),
        ("external_docs", .option ExternalDocs.describe own.externalDocs),
        ("example", .option Json.describe own.sample),
        ("extensions", Extensions.describe own.extensions)]

/-- The schemas of a list. -/
def describeList : List Schema → List Record
  | [] => []
  | s :: rest => describe s :: describeList rest

/-- The properties. -/
def describeProperties : List (String × Schema) → List (Record × Record)
  | [] => []
  | (k, s) :: rest => (.str k, describe s) :: describeProperties rest

/-- The items. -/
def describeOptionalItems : Option (OneOrMany Schema) → Record
  | none => .word "None"
  | some (.one s) => .wrap "Some" (.wrap "Single" (describe s))
  | some (.many l) => .wrap "Some" (.wrap "Multiple" (.list (describeList l)))

/-- What is said about further properties. -/
def describeAdditional : Option (FlagOr Schema) → Record
  | none => .word "None"
  | some (.flag b) => .wrap "Some" (.wrap "Bool" (.bool b))
  | some (.other s) => .wrap "Some" (.wrap "Schema" (describe s))

end

end Schema

/-- Whom to ask. -/
def Contact.describe (c : Contact) : Record :=
  .fields "Contact" [("name", .str c.name), ("url", .str c.url), ("email", .str c.email)]

/-- The terms of use. -/
def License.describe (l : License) : Record :=
  .fields "License" [("name", .str l.name), ("url", .str l.url)]

/-- What is said about the service as a whole. -/
def Info.describe (i : Info) : Record :=
  .fields "Info"
    [("title", .str i.title),
      ("description", .str i.description),
      ("terms_of_service", .str i.termsOfService),
      ("contact", .option Contact.describe i.contact),
      ("license", .option License.describe i.license),
      ("version", .str i.version),
      ("extensions", Extensions.describe i.extensions)]

/-- A header. -/
def Header.describe (h : Header) : Record :=
  .fields "Header"
    [("description", .str h.description),
      ("type_", .str h.type),
      ("format", .str h.format),
      ("extensions", Extensions.describe h.extensions)]

/-- A response. -/
def Response.describe (r : Response) : Record :=
  .fields "Response"
    [("description", .str r.description),
      ("schema", .option Schema.describe r.schema),
      ("headers", Dict.describe Header.describe r.headers),
      ("examples", Dict.describe Json.describe r.examples),
      ("extensions", Extensions.describe r.extensions)]

/-- A way to prove who asks. -/
def SecurityScheme.describe (s : SecurityScheme) : Record :=
  .fields "SecurityScheme"
    [("type_", .str s.type),
      ("description", .str s.description),
      ("name", .str s.name),
      ("in_", .str s.location),
      ("flow", .str s.flow),
      ("authorization_url", .str s.authorizationUrl),
      ("token_url", .str s.tokenUrl),
      ("scopes", Dict.describe .str s.scopes),
      ("extensions", Extensions.describe s.extensions)]

namespace Config

/-- The settings and which functions are set. -/
def describe (c : Config) : Record :=
  .fields "Config"
    [("protocol_list", .strs c.protocols),
      ("info", .option Info.describe c.info),
      ("default_response", .option Response.describe c.defaultResponse),
      ("response_definitions", Dict.describe Response.describe c.responseDefinitions),
      ("common_responses",
        .dict (c.commonResponses.entries.map fun e => (.nat e.1.toNat, e.2.describe))),
      ("ignore_prefixes", .strs c.ignoredPrefixes),
      ("security_definitions", .option (Dict.describe SecurityScheme.describe) c.securityDefinitions),
      ("default_security", .list (c.defaultSecurity.map (Dict.describe .strs))),
      ("get_definitions", .bool c.definitions.isSome),
      ("get_definition_name", .bool c.definitionNaming.isSome),
      ("get_operation_id_and_tags", .bool c.operationNaming.isSome),
      ("post_process_spec", .bool c.complete.isSome)]

/-- One line that describes the configuration. -/
def description (c : Config) : String := c.describe.text

end Config

end Swagger
