import Swagger.Document
import Swagger.Error
import Swagger.ModelName
import Swagger.Pointer
import Swagger.Route

/-! # What the builder needs besides the routes
* `Definition` — the schema of a model and the models that it needs.
* `Config` — the settings, with the functions that name definitions and operations and complete the
  document.
* `Config.definitionName`, `Config.definitionPointer` — the name of a model's definition, and the
  pointer to it.
* `Config.resolvedDefinitions` — all definitions, by canonical name. -/

namespace Swagger

/-- The schema of a model and the canonical names of the models that it needs. -/
structure Definition where
  /-- The schema. -/
  schema : Schema := {}
  /-- The models that it needs. -/
  dependencies : List String := []
deriving DecidableEq, Inhabited

/-- What the builder needs besides the routes. -/
structure Config where
  /-- The protocols of every operation. -/
  protocols : List String := []
  /-- What is said about the service as a whole. -/
  info : Option Info := none
  /-- The response of an operation that has no other. -/
  defaultResponse : Option Response := none
  /-- The shared responses of the document. -/
  responseDefinitions : Dict String Response := ∅
  /-- The responses of every operation that has none for their code. -/
  commonResponses : Dict UInt16 Response := ∅
  /-- Paths and root paths that begin with one of these are left out. -/
  ignoredPrefixes : List String := []
  /-- The ways to prove who asks. -/
  securityDefinitions : Option (Dict String SecurityScheme) := none
  /-- What it takes to use any operation. -/
  defaultSecurity : List SecurityRequirement := []
  /-- The definitions by canonical name, given the pointer to each model's definition. -/
  definitions : Option ((String → String) → Dict String Definition) := none
  /-- The name of a model's definition, and extensions to add to it. -/
  definitionNaming : Option (String → String × Extensions) := none
  /-- The name and the labels of a route's operation. -/
  operationNaming : Option (Route → Except BuildError (String × List String)) := none
  /-- What completes the document. -/
  complete : Option (Document → Except BuildError Document) := none

namespace Config

/-- The name of a model's definition, and extensions to add to it. -/
def definitionName (c : Config) (model : String) : String × Extensions :=
  match c.definitionNaming with
  | some naming => naming model
  | none => (ModelName.definitionName model, ∅)

/-- The pointer to a model's definition. -/
def definitionPointer (c : Config) (model : String) : String :=
  "#/definitions/" ++ Pointer.escape (c.definitionName model).1

/-- The name and the labels of a route's operation. -/
def operationName (c : Config) (r : Route) : Except BuildError (String × List String) :=
  match c.operationNaming with
  | some naming => naming r
  | none => .ok (r.operation, [])

/-- All definitions, by canonical name. -/
def resolvedDefinitions (c : Config) : Dict String Definition :=
  match c.definitions with
  | some resolve => resolve c.definitionPointer
  | none => ∅

end Config

end Swagger
