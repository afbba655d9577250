import Swagger.Json

/-! # Routes
What a service registers: a method at a path, with its parameters, payloads and responses.

* `ParameterKind` — where in a request a parameter stands.
* `RouteParameter` — a parameter as declared; `RouteParameter.declare` gives the usual settings.
* `ParameterKey` — the name and kind that tell the parameters of a route apart.
* `Route` — a registered route.
* `RouteSet` — routes that share a root path. -/

namespace Swagger

/-- Where in a request a parameter stands. -/
inductive ParameterKind where
  /-- A segment of the path. -/
  | path
  /-- The query. -/
  | query
  /-- A header. -/
  | header
  /-- A field of a form. -/
  | form
  /-- The body. -/
  | body
deriving DecidableEq, Inhabited

namespace ParameterKind

/-- All kinds, in order. -/
def all : List ParameterKind := [.path, .query, .header, .form, .body]

/-- The word for a kind. -/
def word : ParameterKind → String
  | .path => "path"
  | .query => "query"
  | .header => "header"
  | .form => "form"
  | .body => "body"

/-- The kind that a word names. -/
def ofWord? (s : String) : Option ParameterKind := all.find? fun k => k.word == s

/-- The place of a kind among all kinds. -/
def rank : ParameterKind → Nat
  | .path => 0
  | .query => 1
  | .header => 2
  | .form => 3
  | .body => 4

/-- The word for where the parameter stands in a document. -/
def location : ParameterKind → String
  | .path => "path"
  | .query => "query"
  | .header => "header"
  | .form => "formData"
  | .body => "body"

/-- A kind is found by its word. -/
theorem ofWord?_word (k : ParameterKind) : ofWord? k.word = some k := by cases k <;> decide

/-- Different kinds have different ranks. -/
theorem rank_injective {a b : ParameterKind} (h : a.rank = b.rank) : a = b := by
  cases a <;> cases b <;> simp_all [rank]

/-- Different kinds stand in different locations. -/
theorem location_injective {a b : ParameterKind} (h : a.location = b.location) : a = b := by
  cases a <;> cases b <;> simp_all [location]

end ParameterKind

/-- A parameter as declared. -/
structure RouteParameter where
  /-- The name. -/
  name : String
  /-- Free text. -/
  description : String
  /-- Where it stands. -/
  kind : ParameterKind
  /-- The name of its type. -/
  dataType : String
  /-- Whether it has to be given. -/
  required : Bool
  /-- Whether it may be given several times. -/
  allowMultiple : Bool
deriving DecidableEq

/-- A parameter with the usual settings: a string, given once, required only in the path. -/
def RouteParameter.declare (kind : ParameterKind) (name description : String) : RouteParameter where
  name := name
  description := description
  kind := kind
  dataType := "string"
  required := kind == .path
  allowMultiple := false

/-- What tells the parameters of a route apart. -/
structure ParameterKey where
  /-- The name. -/
  name : String
  /-- Where it stands. -/
  kind : ParameterKind
deriving DecidableEq

/-- Keys are ordered by name, then by kind. -/
instance : Ord ParameterKey where
  compare := compareLex (compareOn ParameterKey.name) (compareOn fun k => k.kind.rank)

/-- The key of a parameter. -/
def RouteParameter.key (p : RouteParameter) : ParameterKey := ⟨p.name, p.kind⟩

/-- A response as declared. -/
structure DeclaredResponse where
  /-- The status code. -/
  code : UInt16
  /-- What is said about it. -/
  message : String
  /-- The model of its body. -/
  model : Option String
deriving DecidableEq

/-- A registered route. -/
structure Route where
  /-- The method. -/
  method : String := ""
  /-- The whole path. -/
  path : String := ""
  /-- The name of the operation. -/
  operation : String := ""
  /-- Free text. -/
  description : String := ""
  /-- The parameters, in the order they were declared. -/
  parameters : List RouteParameter := []
  /-- The responses, in the order they were declared. -/
  responses : List DeclaredResponse := []
  /-- The model of the request's body. -/
  reads : Option String := none
  /-- The model that is written on success. -/
  writes : Option String := none
  /-- The media types taken. -/
  consumes : List String := []
  /-- The media types given. -/
  produces : List String := []
  /-- Whatever else is known about it. -/
  metadata : Dict String Json := ∅
deriving DecidableEq, Inhabited

/-- Routes that share a root path and parameters. -/
structure RouteSet where
  /-- The root path. -/
  rootPath : String := ""
  /-- The parameters of all its routes. -/
  pathParameters : List RouteParameter := []
  /-- The routes, in the order they were registered. -/
  routes : List Route := []
deriving DecidableEq, Inhabited

end Swagger
