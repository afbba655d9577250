import Swagger.Build.Parameters

/-! # Building operations
* `Route.buildResponses` — the responses of a route's operation: the declared ones, else what it
  writes; then the common ones for all other codes, and the default only where there is none.
* `Route.buildOperation` — the operation of a route. -/

namespace Swagger

/-- What the keys of metadata that are published begin with. -/
def extensionMark : String := "x-"

namespace Route

/-- A response with the schema of a model. -/
def buildResponse (c : Config) (known : Dict String Definition) (built : Definitions)
    (model : Option String) (description : String) : Except BuildError (Response × Definitions) :=
  match model with
  | none => .ok ({ description := description }, built)
  | some model => do
    let (schema, built) ← Definitions.schemaFor c known built model
    return ({ description := description, schema := some schema }, built)

/-- The declared responses by code, after those there already; of several for one code the last
counts. -/
def buildDeclared (c : Config) (known : Dict String Definition) :
    Definitions → Dict UInt16 Response → List DeclaredResponse →
      Except BuildError (Dict UInt16 Response × Definitions)
  | built, byCode, [] => .ok (byCode, built)
  | built, byCode, r :: rest => do
    let (response, built) ← buildResponse c known built r.model r.message
    buildDeclared c known built (byCode.insert r.code response) rest

/-- The responses that the route speaks of itself: those it declares, else what it writes. -/
def buildOwnResponses (c : Config) (known : Dict String Definition) (built : Definitions)
    (r : Route) : Except BuildError (Dict UInt16 Response × Definitions) :=
  match r.responses, r.writes with
  | [], some model => do
    let (response, built) ← buildResponse c known built (some model) "OK"
    return ((∅ : Dict UInt16 Response).insert 200 response, built)
  | declared, _ => buildDeclared c known built ∅ declared

/-- Add the common responses for all codes that have none, and the default where there is no code. -/
def completeResponses (c : Config) (byCode : Dict UInt16 Response) : Responses :=
  let byCode := c.commonResponses.entries.foldl (fun d e => d.insertNew e.1 e.2) byCode
  { byCode := byCode, fallback := if byCode.isEmpty then c.defaultResponse else none }

/-- The responses of a route's operation. -/
def buildResponses (c : Config) (known : Dict String Definition) (built : Definitions) (r : Route) :
    Except BuildError (Responses × Definitions) := do
  let (byCode, built) ← r.buildOwnResponses c known built
  return (completeResponses c byCode, built)

/-- The facts about a route that are published as extensions. -/
def publishedMetadata (r : Route) : Extensions :=
  ⟨r.metadata.entries.filter fun e => extensionMark.toList.isPrefixOf e.1.toList⟩

/-- The operation of a route. Parameters that belong to the path are left out. -/
def buildOperation (c : Config) (known : Dict String Definition)
    (common : Dict ParameterKey RouteParameter) (built : Definitions) (r : Route) :
    Except BuildError (Operation × Definitions) := do
  let (id, tags) ← c.operationName r
  let (responses, built) ← r.buildResponses c known built
  let (parameters, built) ← RouteParameter.buildAll c known r.reads built
    (r.parameters.filter fun p => !common.contains p.key)
  let op : Operation :=
    { description := r.description, consumes := r.consumes, produces := r.produces,
      schemes := c.protocols, tags := tags, id := id, parameters := Parameter.sort parameters,
      responses := some responses, extensions := r.publishedMetadata }
  return (op, built)

end Route

end Swagger
