import Swagger.Schema
import Swagger.Json.Members

/-! # Schemas as JSON
A schema is written as one object: the keywords in their fixed order, with the inner schemas among
them, and the vendor extensions at the end. An extension under a keyword's own name is written all the
same, as a second member with that key. -/

namespace Swagger

open Json.Members

namespace ExternalDocs

/-- The names of the fields, in order. -/
def fieldNames : List String := ["description", "url"]

/-- The object that is written. -/
def toJson (d : ExternalDocs) : Json :=
  .obj (text "description" d.description ++ always "url" (.str d.url))

end ExternalDocs

namespace Schema

/-- The names of all keywords, in order. -/
def fieldNames : List String :=
  ["$ref", "description", "type", "format", "title", "default", "maximum", "minimum", "maxLength",
    "minLength", "pattern", "maxItems", "minItems", "uniqueItems", "enum", "required", "items",
    "allOf", "properties", "additionalProperties", "discriminator", "readOnly", "externalDocs",
    "example"]

/-- The type names: one name is a string, several are a list. -/
def typesJson : List String → Json
  | [t] => .str t
  | ts => Json.ofStrings ts

/-- The keywords in front of the inner schemas. -/
def leading (k : Keywords) : List (String × Json) :=
  optional "$ref" .str k.reference ++ text "description" k.description ++
    (if k.types.isEmpty then [] else [("type", typesJson k.types)]) ++ text "format" k.format ++
    text "title" k.title ++ optional "default" id k.defaultValue ++
    optional "maximum" Json.ofDouble k.maximum ++ optional "minimum" Json.ofDouble k.minimum ++
    optional "maxLength" Json.ofNat k.maxLength ++ optional "minLength" Json.ofNat k.minLength ++
    text "pattern" k.pattern ++ optional "maxItems" Json.ofNat k.maxItems ++
    optional "minItems" Json.ofNat k.minItems ++ flag "uniqueItems" k.uniqueItems ++
    Json.Members.items "enum" k.enumeration ++ strings "required" k.required

/-- The keywords behind the inner schemas. -/
def trailing (k : Keywords) : List (String × Json) :=
  text "discriminator" k.discriminator ++ flag "readOnly" k.readOnly ++
    optional "externalDocs" ExternalDocs.toJson k.externalDocs ++ optional "example" id k.sample ++
    k.extensions.entries

mutual

/-- The object that is written. -/
def toJson : Schema → Json
  | ⟨own, items, allOf, properties, additional⟩ =>
    .obj (leading own ++ itemsMember items ++ Json.Members.items "allOf" (toJsonList allOf) ++
      object "properties" (toJsonProperties properties.entries) ++ additionalMember additional ++
      trailing own)

/-- The objects of a list of schemas. -/
def toJsonList : List Schema → List Json
  | [] => []
  | s :: rest => toJson s :: toJsonList rest

/-- The members of the properties. -/
def toJsonProperties : List (String × Schema) → List (String × Json)
  | [] => []
  | (k, s) :: rest => (k, toJson s) :: toJsonProperties rest

/-- The member for the items. -/
def itemsMember : Option (OneOrMany Schema) → List (String × Json)
  | none => []
  | some (.one s) => [("items", toJson s)]
  | some (.many l) => [("items", .arr (toJsonList l))]

/-- The member for further properties. -/
def additionalMember : Option (FlagOr Schema) → List (String × Json)
  | none => []
  | some (.flag b) => [("additionalProperties", .bool b)]
  | some (.other s) => [("additionalProperties", toJson s)]

end

/-- The value of an `items` keyword by itself. -/
def itemsJson : OneOrMany Schema → Json
  | .one s => s.toJson
  | .many l => .arr (toJsonList l)

/-- The value of an `additionalProperties` keyword by itself. -/
def additionalJson : FlagOr Schema → Json
  | .flag b => .bool b
  | .other s => s.toJson

/-- The schemas of a list are written one by one. -/
theorem toJsonList_eq_map (l : List Schema) : toJsonList l = l.map toJson := by
  induction l with
  | nil => rfl
  | cons s rest ih => simp [toJsonList, ih]

/-- Properties are written one by one under their names. -/
theorem toJsonProperties_eq_map (l : List (String × Schema)) :
    toJsonProperties l = l.map fun e => (e.1, e.2.toJson) := by
  induction l with
  | nil => rfl
  | cons e rest ih => obtain ⟨k, s⟩ := e; simp [toJsonProperties, ih]

/-- Items are written as an optional member. -/
theorem itemsMember_eq (i : Option (OneOrMany Schema)) :
    itemsMember i = optional "items" itemsJson i := by
  rcases i with _ | ⟨s | l⟩ <;> rfl

/-- Further properties are written as an optional member. -/
theorem additionalMember_eq (a : Option (FlagOr Schema)) :
    additionalMember a = optional "additionalProperties" additionalJson a := by
  rcases a with _ | ⟨b | s⟩ <;> rfl

end Schema

end Swagger
