import Swagger.Build.Operations
import Swagger.Notice
import Swagger.PrefixTree
import Swagger.Sharing
import Swagger.Text.Uppercase
import Swagger.WebService

/-! # Building a document
The routes of all services are taken service by service and path by path. A service or path under an
ignored root is left out, and so is a route whose method a document has no field for.

* `PathGroup` — the routes of one path, in the order they were registered.
* `Stage` — one unit of work: the parameters of a service, or a path.
* `Draft` — the document as far as it has been built; `Draft.run` does a stage.
* `RouteSet.buildDocument` — the document of several sets of routes.
* `RouteSet.notices` — what is worth telling about routes that were left out. -/

namespace Swagger

namespace Method

/-- Whether a document has a field for a method, whatever the case of its ASCII letters. -/
def isSupported (method : String) : Bool :=
  all.any fun m => m.name.toLower == method.toLower

/-- The field for a method, by its name in capitals. -/
def slot? (method : String) : Option Method := ofName? (Text.upper method)

end Method

/-- The routes of one path. -/
structure PathGroup where
  /-- The path as it stands in the document. -/
  path : String
  /-- The routes, in the order they were registered. -/
  routes : List Route

/-- One unit of work. -/
inductive Stage where
  /-- The parameters of a service. -/
  | service (parameters : List RouteParameter)
  /-- A path, with the parameters of its service. -/
  | path (parameters : List RouteParameter) (group : PathGroup)

namespace RouteSet

/-- The routes by path, in the order of the paths. -/
def groups (s : RouteSet) : Dict String (List Route) :=
  s.routes.foldl (fun d r => d.insert r.path ((d.find? r.path).getD [] ++ [r])) ∅

/-- The units of work of a set of routes, without what is ignored. -/
def stages (ignored : PrefixTree) (s : RouteSet) : List Stage :=
  if ignored.beginsWith s.rootPath then []
  else
    let groups := s.groups.entries.map fun e => PathGroup.mk (Path.withoutWildcard e.1) e.2
    .service s.pathParameters ::
      ((groups.filter fun g => !ignored.beginsWith g.path).map (.path s.pathParameters))

end RouteSet

namespace PathGroup

/-- The routes whose method a document has a field for. -/
def supported (g : PathGroup) : List Route := g.routes.filter fun r => Method.isSupported r.method

/-- What is worth telling about the other routes. -/
def notices (g : PathGroup) : List String :=
  (g.routes.filter fun r => !Method.isSupported r.method).map fun r =>
    "Skipping route " ++ g.path ++ " with unsupported method " ++ r.method

end PathGroup

/-- A document as far as it has been built. -/
structure Draft where
  /-- The finished paths. -/
  paths : Dict String PathItem := ∅
  /-- The definitions that were needed. -/
  definitions : Definitions := ∅
  /-- The path of each operation, by its name. -/
  operationPaths : Dict String String := ∅

namespace Draft

/-- Build the operation of a route and put it into its slot. -/
def addRoute (c : Config) (known : Dict String Definition)
    (common : Dict ParameterKey RouteParameter) (path : String) (state : Draft × PathItem)
    (r : Route) : Except BuildError (Draft × PathItem) := do
  let (d, item) := state
  let (op, definitions) ← r.buildOperation c known common d.definitions
  match d.operationPaths.find? op.id with
  | some first => .error (.duplicateOperationId op.id first path)
  | none =>
    let item := match Method.slot? r.method with
      | some m => item.setSlot m (some op)
      | none => item
    return ({ d with
      definitions := definitions
      operationPaths := d.operationPaths.insert op.id path }, item)

/-- Build a path, given the parameters of its service. -/
def addPath (c : Config) (known : Dict String Definition) (service : List RouteParameter)
    (g : PathGroup) (d : Draft) : Except BuildError Draft := do
  let routes := g.supported
  if routes.isEmpty then return d
  else
    Route.checkDuplicates routes
    let common := Route.common routes
    let shared ← common.values.mapM RouteParameter.buildSimple
    let inherited ← service.mapM RouteParameter.buildSimple
    if d.paths.contains g.path then .error (.duplicatePath g.path)
    else
      let item : PathItem := { parameters := Parameter.sort (inherited ++ shared) }
      let (d, item) ← routes.foldlM (addRoute c known common g.path) (d, item)
      return { d with paths := d.paths.insert g.path item }

/-- Do one unit of work. The parameters of a service are built even if it has no path. -/
def run (c : Config) (known : Dict String Definition) (d : Draft) : Stage → Except BuildError Draft
  | .service parameters => do
    let _ ← parameters.mapM RouteParameter.buildSimple
    return d
  | .path parameters group => d.addPath c known parameters group

/-- What is worth telling about a unit of work. -/
def stageNotices : Stage → List String
  | .service _ => []
  | .path _ group => group.notices

end Draft

namespace Config

/-- The document before any path has been built. -/
def blank (c : Config) : Document := { info := c.info, responses := c.responseDefinitions }

/-- Add what the settings say about security, complete the document and share its parameters. -/
def finish (c : Config) (d : Document) : Except BuildError Document := do
  let d := match c.securityDefinitions with
    | some schemes => { d with securityDefinitions := schemes, security := c.defaultSecurity }
    | none => d
  let d ← match c.complete with
    | some complete => complete d
    | none => .ok d
  d.shareParameters

/-- The units of work of several sets of routes. -/
def stages (c : Config) (sets : List RouteSet) : List Stage :=
  sets.flatMap (RouteSet.stages (PrefixTree.ofWords c.ignoredPrefixes))

end Config

/-- Build the document of several sets of routes. -/
def RouteSet.buildDocument (c : Config) (sets : List RouteSet) : Except BuildError Document := do
  let d ← (c.stages sets).foldlM (Draft.run c c.resolvedDefinitions) {}
  c.finish { c.blank with paths := d.paths, definitions := d.definitions }

/-- What is worth telling about the routes that were left out. -/
def RouteSet.notices (c : Config) (sets : List RouteSet) : List String :=
  noticesOfRun (Draft.run c c.resolvedDefinitions) (fun _ => Draft.stageNotices) {} (c.stages sets)

/-- Build the document of several services. -/
def WebService.buildDocument (c : Config) (services : List WebService) :
    Except BuildError Document :=
  RouteSet.buildDocument c (services.map WebService.toRouteSet)

/-- Build a document that holds only the definitions that some models need. -/
def Config.definitionsDocument (c : Config) (models : List String) : Except BuildError Document := do
  let definitions ← Definitions.addAll c c.resolvedDefinitions ∅ models
  c.finish { c.blank with definitions := definitions }

/-- The definitions that one model needs. Only they are kept of a document that nothing completes. -/
def Config.definitionsFor (c : Config) (model : String) : Except BuildError Definitions := do
  let (_, definitions) ← Definitions.schemaFor c c.resolvedDefinitions ∅ model
  let d ← { c.blank with definitions := definitions }.shareParameters
  return d.definitions

end Swagger
