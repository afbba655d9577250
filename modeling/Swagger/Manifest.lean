import Swagger.Node.Reading
import Swagger.WebService

/-! # Service manifests
Web services and their routes as a file describes them.

* `Manifest`, `ServiceEntry`, `RouteEntry`, `ParameterEntry`, `ReturnEntry` — what is written; each
  has a reader `ofNode?`.
* `RouteEntry.steps` — what an entry says about its route, in order.
* `Manifest.services` — the web services that the manifest describes. -/

namespace Swagger

/-- Read a kind of parameter: its word, its word as the only key of an object that holds null, or in
YAML its word as a tag on nothing. -/
def ParameterKind.ofNode? : Node → Option ParameterKind
  | .str s _ => ofWord? s
  | .map .settled [(.str s _, .null)] => ofWord? s
  | .scalar s =>
    match s.tag.map String.toList with
    | some ('!' :: name) =>
      if s.style = .plain ∧ (s.text.isEmpty ∨ Yaml.isNullWord s.text) then
        ofWord? (String.ofList name)
      else none
    | _ => ofWord? s.text
  | _ => none

/-- A parameter as a manifest describes it. -/
structure ParameterEntry where
  /-- The name. -/
  name : String
  /-- Where it stands. -/
  kind : ParameterKind
  /-- Free text. -/
  description : String
  /-- The name of its type, if it is not the usual one. -/
  dataType : Option String
  /-- Whether it has to be given, if that is not as usual. -/
  required : Option Bool
  /-- Whether it may be given several times. -/
  allowMultiple : Bool
deriving DecidableEq

namespace ParameterEntry

/-- The names of the fields, in order. -/
def fieldNames : List String :=
  ["name", "kind", "description", "dataType", "required", "allowMultiple"]

/-- Read from a mapping with at least a name and a kind, or from a list of all fields, of which only
the last may be missing. -/
def ofNode? (n : Node) : Option ParameterEntry := do
  let f ← n.record? fieldNames 5
  return {
    name := ← f.require "name" Node.string?
    kind := ← f.require "kind" ParameterKind.ofNode?
    description := ← f.string "description"
    dataType := ← f.optional "dataType" Node.string?
    required := ← f.optional "required" Node.bool?
    allowMultiple := ← f.flag "allowMultiple" }

/-- The parameter as declared. -/
def parameter (e : ParameterEntry) : RouteParameter :=
  let usual := RouteParameter.declare e.kind e.name e.description
  { usual with
    dataType := e.dataType.getD usual.dataType
    required := e.required.getD usual.required
    allowMultiple := e.allowMultiple }

end ParameterEntry

/-- A response as a manifest describes it. -/
structure ReturnEntry where
  /-- The status code. -/
  code : UInt16
  /-- What is said about it. -/
  message : String
  /-- The model of its body. -/
  model : Option String
deriving DecidableEq

namespace ReturnEntry

/-- The names of the fields, in order. -/
def fieldNames : List String := ["code", "message", "model"]

/-- Read from a mapping with at least a code, or from a list of all fields. -/
def ofNode? (n : Node) : Option ReturnEntry := do
  let f ← n.record? fieldNames 3
  return {
    code := ← f.require "code" Node.code?
    message := ← f.string "message"
    model := ← f.optional "model" Node.string? }

/-- The response as declared. -/
def response (e : ReturnEntry) : DeclaredResponse := ⟨e.code, e.message, e.model⟩

end ReturnEntry

/-- A route as a manifest describes it. -/
structure RouteEntry where
  /-- The method. -/
  method : String := ""
  /-- The path below the root. -/
  path : String := ""
  /-- Free text. -/
  doc : String := ""
  /-- The name of the operation. -/
  operation : String := ""
  /-- The media types given, if they are not the service's. -/
  produces : Option (List String) := none
  /-- The media types taken, if they are not the service's. -/
  consumes : Option (List String) := none
  /-- The parameters. -/
  params : List ParameterEntry := []
  /-- The model of the request's body. -/
  reads : Option String := none
  /-- The model written on success. -/
  writes : Option String := none
  /-- The responses. -/
  returns : List ReturnEntry := []
  /-- Whatever else is known. -/
  metadata : Dict String Json := ∅
deriving DecidableEq, Inhabited

namespace RouteEntry

/-- The names of the fields, in order. -/
def fieldNames : List String :=
  ["method", "path", "doc", "operation", "produces", "consumes", "params", "reads", "writes",
    "returns", "metadata"]

/-- Read from a mapping, or from a list of the fields. -/
def ofNode? (n : Node) : Option RouteEntry := do
  let f ← n.record? fieldNames 0
  return {
    method := ← f.string "method"
    path := ← f.string "path"
    doc := ← f.string "doc"
    operation := ← f.string "operation"
    produces := ← f.optional "produces" (Node.list? Node.string?)
    consumes := ← f.optional "consumes" (Node.list? Node.string?)
    params := ← f.list "params" ParameterEntry.ofNode?
    reads := ← f.optional "reads" Node.string?
    writes := ← f.optional "writes" Node.string?
    returns := ← f.list "returns" ReturnEntry.ofNode?
    metadata := ← f.dict "metadata" Node.json? }

/-- What the entry says about its route, in order. -/
def steps (e : RouteEntry) : List RouteStep :=
  [.description e.doc, .operation e.operation] ++ (e.produces.map .produces).toList ++
    (e.consumes.map .consumes).toList ++ e.params.map (fun p => .parameter p.parameter) ++
    (e.reads.map .reads).toList ++ (e.writes.map .writes).toList ++
    e.returns.map (fun r => .returns r.response) ++
    e.metadata.entries.map fun m => .metadata m.1 m.2

/-- The draft of the route that an entry of a service describes. -/
def draft (e : RouteEntry) (ws : WebService) : RouteDraft :=
  (ws.draft e.method e.path).steps e.steps

end RouteEntry

/-- A web service as a manifest describes it. -/
structure ServiceEntry where
  /-- The root path. -/
  rootPath : String := ""
  /-- The media types given. -/
  produces : List String := []
  /-- The media types taken. -/
  consumes : List String := []
  /-- The parameters of all routes. -/
  params : List ParameterEntry := []
  /-- The routes. -/
  routes : List RouteEntry := []
deriving DecidableEq, Inhabited

namespace ServiceEntry

/-- The names of the fields, in order. -/
def fieldNames : List String := ["rootPath", "produces", "consumes", "params", "routes"]

/-- Read from a mapping, or from a list of the fields. -/
def ofNode? (n : Node) : Option ServiceEntry := do
  let f ← n.record? fieldNames 0
  return {
    rootPath := ← f.string "rootPath"
    produces := ← f.strings "produces"
    consumes := ← f.strings "consumes"
    params := ← f.list "params" ParameterEntry.ofNode?
    routes := ← f.list "routes" RouteEntry.ofNode? }

/-- The web service that an entry describes. -/
def service (e : ServiceEntry) : WebService :=
  let ws : WebService :=
    { rootPath := e.rootPath, produces := e.produces, consumes := e.consumes,
      pathParameters := e.params.map ParameterEntry.parameter }
  e.routes.foldl (fun ws r => ws.addRoute (r.draft ws)) ws

end ServiceEntry

/-- The contents of a manifest. -/
structure Manifest where
  /-- The web services. -/
  webServices : List ServiceEntry := []
deriving DecidableEq, Inhabited

namespace Manifest

/-- The names of the fields. -/
def fieldNames : List String := ["webServices"]

/-- Read from a mapping, or from a list of the fields. -/
def ofNode? (n : Node) : Option Manifest := do
  let f ← n.record? fieldNames 0
  return { webServices := ← f.list "webServices" ServiceEntry.ofNode? }

/-- The web services that the manifest describes. -/
def services (m : Manifest) : List WebService := m.webServices.map ServiceEntry.service

end Manifest

end Swagger
