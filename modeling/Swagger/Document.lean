import Swagger.Method
import Swagger.Schema

/-! # Swagger 2.0 documents
The objects that a document is made of.

* `Info`, `Contact`, `License`, `Tag` — what is said about the service as a whole.
* `Parameter`, `Response`, `Responses`, `Header` — the parts of an operation.
* `Operation`, `PathItem` — what can be done at a path; `PathItem.slot` is the operation of a method.
* `Document` — all paths, with the definitions, parameters and responses they share. -/

namespace Swagger

/-- Whom to ask about the service. -/
structure Contact where
  /-- The name. -/
  name : String := ""
  /-- A page. -/
  url : String := ""
  /-- An address. -/
  email : String := ""
deriving DecidableEq, Inhabited

/-- The terms under which the service may be used. -/
structure License where
  /-- The name. -/
  name : String := ""
  /-- A page. -/
  url : String := ""
deriving DecidableEq, Inhabited

/-- What is said about the service as a whole. -/
structure Info where
  /-- The title. -/
  title : String := ""
  /-- Free text. -/
  description : String := ""
  /-- A page with the terms of service. -/
  termsOfService : String := ""
  /-- Whom to ask. -/
  contact : Option Contact := none
  /-- The licence. -/
  license : Option License := none
  /-- The version of the service. -/
  version : String := ""
  /-- Everything else. -/
  extensions : Extensions := ∅
deriving DecidableEq, Inhabited

/-- A label that groups operations. -/
structure Tag where
  /-- The label. -/
  name : String := ""
  /-- Free text. -/
  description : String := ""
  /-- Further documentation. -/
  externalDocs : Option ExternalDocs := none
deriving DecidableEq, Inhabited

/-- A header of a response. -/
structure Header where
  /-- Free text. -/
  description : String := ""
  /-- The name of its type. -/
  type : String := ""
  /-- A refinement of the type. -/
  format : String := ""
  /-- Everything else. -/
  extensions : Extensions := ∅
deriving DecidableEq, Inhabited

/-- A response. -/
structure Response where
  /-- Free text. -/
  description : String := ""
  /-- The schema of its body. -/
  schema : Option Schema := none
  /-- Its headers. -/
  headers : Dict String Header := ∅
  /-- Sample bodies by media type. -/
  examples : Dict String Json := ∅
  /-- Everything else. -/
  extensions : Extensions := ∅
deriving DecidableEq, Inhabited

/-- The responses of an operation. -/
structure Responses where
  /-- The response for every other status code. -/
  fallback : Option Response := none
  /-- The responses by status code. -/
  byCode : Dict UInt16 Response := ∅
  /-- Everything else. -/
  extensions : Extensions := ∅
deriving DecidableEq, Inhabited

/-- Whether there is no response at all. -/
def Responses.isEmpty (r : Responses) : Bool := r.fallback.isNone && r.byCode.isEmpty

/-- A parameter of an operation or path, or just a reference to a shared one. -/
structure Parameter where
  /-- The shared parameter that is meant. -/
  reference : Option String := none
  /-- The greatest number allowed. -/
  maximum : Option Double := none
  /-- The least number allowed. -/
  minimum : Option Double := none
  /-- Whether items have to differ. -/
  uniqueItems : Bool := false
  /-- The values allowed. -/
  enumeration : List Json := []
  /-- The name of its type. -/
  type : String := ""
  /-- A refinement of the type. -/
  format : String := ""
  /-- How several values are put together. -/
  collectionFormat : String := ""
  /-- The value assumed where there is none. -/
  defaultValue : Option Json := none
  /-- Everything else. -/
  extensions : Extensions := ∅
  /-- Free text. -/
  description : String := ""
  /-- The name. -/
  name : String := ""
  /-- Where in the request it stands. -/
  location : String := ""
  /-- Whether it has to be given. -/
  required : Bool := false
  /-- The schema of a body. -/
  schema : Option Schema := none
  /-- Whether it may be given without a value. -/
  allowEmptyValue : Bool := false
deriving DecidableEq, Inhabited

namespace Parameter

/-- A parameter that only points at a shared one. -/
def pointingAt (target : String) : Parameter := { reference := some target }

/-- Whether the parameter points at a shared one. -/
def isReference (p : Parameter) : Bool :=
  match p.reference with
  | some target => !target.isEmpty
  | none => false

end Parameter

/-- The schemes and the scopes that a request needs. -/
abbrev SecurityRequirement := Dict String (List String)

/-- A way to prove who asks. -/
structure SecurityScheme where
  /-- The kind of scheme. -/
  type : String := ""
  /-- Free text. -/
  description : String := ""
  /-- The name of the header or query parameter. -/
  name : String := ""
  /-- Where the key stands. -/
  location : String := ""
  /-- The flow that is used. -/
  flow : String := ""
  /-- Where to ask for leave. -/
  authorizationUrl : String := ""
  /-- Where to fetch tokens. -/
  tokenUrl : String := ""
  /-- The scopes, with a description each. -/
  scopes : Dict String String := ∅
  /-- Everything else. -/
  extensions : Extensions := ∅
deriving DecidableEq, Inhabited

/-- What one method does at a path. -/
structure Operation where
  /-- Free text. -/
  description : String := ""
  /-- The media types taken. -/
  consumes : List String := []
  /-- The media types given. -/
  produces : List String := []
  /-- The protocols. -/
  schemes : List String := []
  /-- The labels. -/
  tags : List String := []
  /-- A short text. -/
  summary : String := ""
  /-- Further documentation. -/
  externalDocs : Option ExternalDocs := none
  /-- The name of the operation. -/
  id : String := ""
  /-- Whether it should no longer be used. -/
  deprecated : Bool := false
  /-- What it takes to use it. -/
  security : List SecurityRequirement := []
  /-- Its parameters. -/
  parameters : List Parameter := []
  /-- Its responses. -/
  responses : Option Responses := none
  /-- Everything else. -/
  extensions : Extensions := ∅
deriving DecidableEq, Inhabited

/-- What can be done at a path. -/
structure PathItem where
  /-- The operation of `GET`. -/
  get : Option Operation := none
  /-- The operation of `PUT`. -/
  put : Option Operation := none
  /-- The operation of `POST`. -/
  post : Option Operation := none
  /-- The operation of `DELETE`. -/
  delete : Option Operation := none
  /-- The operation of `OPTIONS`. -/
  options : Option Operation := none
  /-- The operation of `HEAD`. -/
  head : Option Operation := none
  /-- The operation of `PATCH`. -/
  patch : Option Operation := none
  /-- The parameters of all operations. -/
  parameters : List Parameter := []
  /-- Everything else. -/
  extensions : Extensions := ∅
deriving DecidableEq, Inhabited

namespace PathItem

/-- The operation of a method. -/
def slot (item : PathItem) : Method → Option Operation
  | .get => item.get
  | .put => item.put
  | .post => item.post
  | .delete => item.delete
  | .options => item.options
  | .head => item.head
  | .patch => item.patch

/-- Fill or empty the slot of a method. -/
def setSlot (item : PathItem) (m : Method) (op : Option Operation) : PathItem :=
  match m with
  | .get => { item with get := op }
  | .put => { item with put := op }
  | .post => { item with post := op }
  | .delete => { item with delete := op }
  | .options => { item with options := op }
  | .head => { item with head := op }
  | .patch => { item with patch := op }

/-- The operations, in the order of their methods. -/
def operations (item : PathItem) : List Operation := Method.all.filterMap item.slot

/-- Apply a function to every operation. -/
def mapOperations (f : Operation → Operation) (item : PathItem) : PathItem :=
  { item with
    get := item.get.map f
    put := item.put.map f
    post := item.post.map f
    delete := item.delete.map f
    options := item.options.map f
    head := item.head.map f
    patch := item.patch.map f }

/-- A slot holds what was put into it. -/
@[simp] theorem slot_setSlot_self (item : PathItem) (m : Method) (op : Option Operation) :
    (item.setSlot m op).slot m = op := by
  cases m <;> rfl

/-- The other slots hold what they held. -/
theorem slot_setSlot_of_ne (item : PathItem) {m m₁ : Method} (h : m₁ ≠ m) (op : Option Operation) :
    (item.setSlot m op).slot m₁ = item.slot m₁ := by
  cases m <;> cases m₁ <;> simp_all [setSlot, slot]

/-- Filling a slot keeps the parameters of the path. -/
@[simp] theorem parameters_setSlot (item : PathItem) (m : Method) (op : Option Operation) :
    (item.setSlot m op).parameters = item.parameters := by
  cases m <;> rfl

/-- Where all operations are changed, so is the one in a slot. -/
@[simp] theorem slot_mapOperations (f : Operation → Operation) (item : PathItem) (m : Method) :
    (item.mapOperations f).slot m = (item.slot m).map f := by
  cases m <;> rfl

/-- Changing the operations keeps the parameters of the path. -/
@[simp] theorem parameters_mapOperations (f : Operation → Operation) (item : PathItem) :
    (item.mapOperations f).parameters = item.parameters := rfl

end PathItem

/-- The version of the format that documents are written in. -/
def swaggerVersion : String := "2.0"

/-- A Swagger 2.0 document. -/
structure Document where
  /-- The version of the format. -/
  version : String := swaggerVersion
  /-- What is said about the service as a whole. -/
  info : Option Info := none
  /-- The host that serves it. -/
  host : String := ""
  /-- The path in front of all paths. -/
  basePath : String := ""
  /-- The protocols. -/
  schemes : List String := []
  /-- The media types taken. -/
  consumes : List String := []
  /-- The media types given. -/
  produces : List String := []
  /-- The paths. -/
  paths : Dict String PathItem := ∅
  /-- The schemas of the models. -/
  definitions : Dict String Schema := ∅
  /-- The shared parameters. -/
  parameters : Dict String Parameter := ∅
  /-- The shared responses. -/
  responses : Dict String Response := ∅
  /-- The ways to prove who asks. -/
  securityDefinitions : Dict String SecurityScheme := ∅
  /-- What it takes to use any operation. -/
  security : List SecurityRequirement := []
  /-- The labels. -/
  tags : List Tag := []
  /-- Further documentation. -/
  externalDocs : Option ExternalDocs := none
  /-- Everything else. -/
  extensions : Extensions := ∅
deriving DecidableEq, Inhabited

end Swagger
