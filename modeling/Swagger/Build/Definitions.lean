import Swagger.Config
import Swagger.Schema.Reading

/-! # Adding definitions to a document
A model that a document mentions needs its definition there, and with it the definitions of all models
that it needs in turn.

* `Schema.published` — a schema as it stands in a document, with the extensions that naming adds, or
  the schema that is to be published in its stead.
* `Definitions.add` — a model's definition and all that it needs, depth first; names that are there
  already are left alone.
* `Definitions.schemaFor` — the schema that stands for a model: a simple type, or a pointer. -/

namespace Swagger

/-- The extension that holds the schema to publish instead. -/
def Schema.replacementKey : String := "x-v2-schema"

/-- A schema as it stands in a document. The extensions that naming adds win over its own. Of a
replacement only what reads as a schema counts; it is never published itself. -/
def Schema.published (s : Schema) (added : Extensions) : Schema :=
  let x := s.extensions.union added
  match x.find? Schema.replacementKey with
  | none => s.withExtensions x
  | some value =>
    match Schema.ofJson? value with
    | some replacement => replacement
    | none => s.withExtensions (x.erase Schema.replacementKey)

/-- The definitions that have been added to a document. -/
abbrev Definitions := Dict String Schema

namespace Definitions

/-- Add a model's definition, unless its name is taken, and then those of the models that it needs.
The first argument bounds the depth: every level adds the definition of another model, so one level
more than there are definitions is never reached. -/
def addWithin (c : Config) (known : Dict String Definition) :
    Nat → Definitions → String → Except BuildError Definitions
  | 0, _, model => .error (.missingDefinition model)
  | levels + 1, built, model =>
    let named := c.definitionName model
    if built.contains named.1 then .ok built
    else
      match known.find? model with
      | none => .error (.missingDefinition model)
      | some d =>
        d.dependencies.foldlM (addWithin c known levels)
          (built.insert named.1 (d.schema.published named.2))

/-- Add a model's definition, unless its name is taken, and then those of the models that it needs. -/
def add (c : Config) (known : Dict String Definition) (built : Definitions) (model : String) :
    Except BuildError Definitions :=
  addWithin c known (known.entries.length + 1) built model

/-- The schema that stands for a model, and the definitions with the model's own added. -/
def schemaFor (c : Config) (known : Dict String Definition) (built : Definitions) (model : String) :
    Except BuildError (Schema × Definitions) :=
  match SimpleType.ofName? model with
  | some t => .ok (Schema.simple t.type t.format, built)
  | none => do
    let built ← add c known built model
    return (Schema.reference (c.definitionPointer model), built)

/-- Add what several models need, one after the other. -/
def addAll (c : Config) (known : Dict String Definition) (built : Definitions)
    (models : List String) : Except BuildError Definitions :=
  models.foldlM (fun built model => do
    let r ← schemaFor c known built model
    return r.2) built

end Definitions

end Swagger
