import Swagger.ModelName
import Swagger.Path
import Swagger.Route
import Swagger.Text.Uppercase

/-! # Registering routes
A web service hands out drafts of routes, which take its root path and media types as they are at that
moment, and collects the finished routes.

* `RouteStep` — one thing that can be said about a route; `RouteDraft.step` says it.
* `RouteDraft.finish` — the route of a draft, at the joined path.
* `WebService` — root path, shared parameters and finished routes.
* `BuiltinModel` — the models that need no definition of their own. -/

namespace Swagger

/-- A model that needs no definition of its own. -/
inductive BuiltinModel where
  /-- A number or truth value, by the name of its type. -/
  | primitive (name : String)
  /-- Text. -/
  | text
  /-- Any value. -/
  | any
deriving DecidableEq

namespace BuiltinModel

/-- The types of numbers and truth values. -/
def primitives : List String :=
  ["u8", "i8", "u16", "i16", "i32", "u32", "i64", "u64", "isize", "usize", "f32", "f64", "bool"]

/-- The canonical name of a model. -/
def name : BuiltinModel → String
  | .primitive name => ModelName.ofTypePath name
  | .text => "string"
  | .any => "object"

end BuiltinModel

/-- One thing that can be said about a route. -/
inductive RouteStep where
  /-- The path below the root. -/
  | path (sub : String)
  /-- Free text. -/
  | description (text : String)
  /-- The name of the operation. -/
  | operation (name : String)
  /-- The media types given. -/
  | produces (types : List String)
  /-- The media types taken. -/
  | consumes (types : List String)
  /-- A further parameter. -/
  | parameter (p : RouteParameter)
  /-- The model of the request's body. -/
  | reads (model : String)
  /-- The model written on success. -/
  | writes (model : String)
  /-- A response. -/
  | returns (response : DeclaredResponse)
  /-- A further fact. -/
  | metadata (key : String) (value : Json)
deriving DecidableEq

/-- A route in the making. -/
structure RouteDraft where
  /-- The root path of the service when the draft was made. -/
  rootPath : String
  /-- The path below the root. -/
  subPath : String
  /-- What has been said so far; the path is set at the end. -/
  route : Route
deriving DecidableEq

namespace RouteDraft

/-- The parameter of a body that holds a model. -/
def bodyParameter (model : String) : RouteParameter :=
  { RouteParameter.declare .body "body" "" with dataType := model, required := true }

/-- Put a response in the place of an earlier one for its code, or at the end. -/
def setResponse (r : DeclaredResponse) : List DeclaredResponse → List DeclaredResponse
  | [] => [r]
  | r' :: rest => if r'.code = r.code then r :: rest else r' :: setResponse r rest

/-- Say one thing about the route. A model that is read takes the place of every earlier body. -/
def step (d : RouteDraft) : RouteStep → RouteDraft
  | .path sub => { d with subPath := sub }
  | .description text => { d with route := { d.route with description := text } }
  | .operation name => { d with route := { d.route with operation := name } }
  | .produces types => { d with route := { d.route with produces := types } }
  | .consumes types => { d with route := { d.route with consumes := types } }
  | .parameter p => { d with route := { d.route with parameters := d.route.parameters ++ [p] } }
  | .reads model =>
    { d with route := { d.route with
        parameters := d.route.parameters.filter (·.kind != .body) ++ [bodyParameter model]
        reads := some model } }
  | .writes model => { d with route := { d.route with writes := some model } }
  | .returns r => { d with route := { d.route with responses := setResponse r d.route.responses } }
  | .metadata key value =>
    { d with route := { d.route with metadata := d.route.metadata.insert key value } }

/-- Say several things, one after the other. -/
def steps (d : RouteDraft) (ss : List RouteStep) : RouteDraft := ss.foldl step d

/-- The finished route. -/
def finish (d : RouteDraft) : Route := { d.route with path := Path.join d.rootPath d.subPath }

end RouteDraft

/-- A service that routes are registered with. -/
structure WebService where
  /-- The root path of drafts made from now on. -/
  rootPath : String := ""
  /-- The parameters of all its routes. -/
  pathParameters : List RouteParameter := []
  /-- The finished routes. -/
  routes : List Route := []
  /-- The media types given by drafts made from now on. -/
  produces : List String := []
  /-- The media types taken by drafts made from now on. -/
  consumes : List String := []
deriving DecidableEq, Inhabited

namespace WebService

/-- Set the root path. -/
def setRootPath (ws : WebService) (path : String) : WebService := { ws with rootPath := path }

/-- Set the media types given. -/
def setProduces (ws : WebService) (types : List String) : WebService := { ws with produces := types }

/-- Set the media types taken. -/
def setConsumes (ws : WebService) (types : List String) : WebService := { ws with consumes := types }

/-- Add a parameter of all routes. -/
def addParameter (ws : WebService) (p : RouteParameter) : WebService :=
  { ws with pathParameters := ws.pathParameters ++ [p] }

/-- A draft for a method, which is written in capitals, at a path below the root. -/
def draft (ws : WebService) (method subPath : String) : RouteDraft where
  rootPath := ws.rootPath
  subPath := subPath
  route := { method := Text.upper method, consumes := ws.consumes, produces := ws.produces }

/-- Finish a draft and register its route. -/
def addRoute (ws : WebService) (d : RouteDraft) : WebService :=
  { ws with routes := ws.routes ++ [d.finish] }

/-- The routes of the service, with its root path as it is now. -/
def toRouteSet (ws : WebService) : RouteSet := ⟨ws.rootPath, ws.pathParameters, ws.routes⟩

end WebService

end Swagger
