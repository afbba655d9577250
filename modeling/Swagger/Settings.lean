import Swagger.Document.Reading
import Swagger.WrittenDefinition

/-! # Settings of a document
What a settings file says about the document as a whole.

* `Settings` — its fields; `Settings.ofNode?` reads them.
* `Settings.toConfig` — the settings together with the definitions of the models. -/

namespace Swagger

/-- What a settings file says. -/
structure Settings where
  /-- The protocols of every operation. -/
  protocols : List String := []
  /-- What is said about the service as a whole. -/
  info : Option Info := none
  /-- Paths that begin with one of these are left out. -/
  ignorePrefixes : List String := []
  /-- The response of an operation that has no other. -/
  defaultResponse : Option Response := none
  /-- The shared responses. -/
  responseDefinitions : Dict String Response := ∅
  /-- The responses of every operation that has none for their code. -/
  commonResponses : Dict UInt16 Response := ∅
  /-- The ways to prove who asks. -/
  securityDefinitions : Option (Dict String SecurityScheme) := none
  /-- What it takes to use any operation. -/
  defaultSecurity : List SecurityRequirement := []
  /-- Extensions of every definition. -/
  definitionExtensions : Extensions := ∅
deriving DecidableEq, Inhabited

namespace Settings

/-- The names of the fields, in order. -/
def fieldNames : List String :=
  ["protocols", "info", "ignorePrefixes", "defaultResponse", "responseDefinitions",
    "commonResponses", "securityDefinitions", "defaultSecurity", "definitionExtensions"]

/-- Read from a mapping, or from a list of the fields. -/
def ofNode? (n : Node) : Option Settings := do
  let f ← n.record? fieldNames 0
  return {
    protocols := ← f.strings "protocols"
    info := ← f.optional "info" Info.ofNode?
    ignorePrefixes := ← f.strings "ignorePrefixes"
    defaultResponse := ← f.optional "defaultResponse" Response.ofNode?
    responseDefinitions := ← f.dict "responseDefinitions" Response.ofNode?
    commonResponses := ←
      f.read "commonResponses" (Node.dictBy? Node.codeKey? Response.ofNode?) ∅
    securityDefinitions := ← f.optional "securityDefinitions" (Node.dict? SecurityScheme.ofNode?)
    defaultSecurity := ← f.list "defaultSecurity" SecurityRequirement.ofNode?
    definitionExtensions := ← f.dict "definitionExtensions" Node.json? }

/-- The settings together with the definitions of the models. A definition is named by the last part
of the model's name. -/
def toConfig (s : Settings) (definitions : Dict String WrittenDefinition) : Config where
  protocols := s.protocols
  info := s.info
  defaultResponse := s.defaultResponse
  responseDefinitions := s.responseDefinitions
  commonResponses := s.commonResponses
  ignoredPrefixes := s.ignorePrefixes
  securityDefinitions := s.securityDefinitions
  defaultSecurity := s.defaultSecurity
  definitions := some fun pointer => definitions.map fun d => d.resolve pointer
  definitionNaming := some fun model => (ModelName.definitionName model, s.definitionExtensions)

end Settings

end Swagger
