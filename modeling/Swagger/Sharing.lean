import Swagger.Digest
import Swagger.Document.Writing
import Swagger.Error
import Swagger.Json.Printer

/-! # Sharing parameters
Parameters that stand in several places are written once, among the parameters of the document, and
pointed at from there. Two parameters are the same when their texts are.

* `Parameter.isShareable` — whether a parameter may be shared at all.
* `Document.sharedParameters` — the distinct shareable parameters, each under its name.
* `Document.shareParameters` — the document with pointers in their place. -/

namespace Swagger

namespace Parameter

/-- The text that a parameter is told apart by. -/
def text (p : Parameter) : String := p.toJson.compact

/-- Whether a parameter may be shared. A reference and a body may not, and neither may a parameter
called `name` in the path or query, whose description speaks of the resource. -/
def isShareable (p : Parameter) : Bool :=
  !(p.isReference || p.location == "body") &&
    !((p.location == "query" || p.location == "path") && p.name == "name")

/-- What a parameter's shared name begins with. -/
def baseName (p : Parameter) : String := if p.name.isEmpty then "param" else p.name

end Parameter

/-- The parameters that a document shares. -/
structure SharedParameters where
  /-- The name under which the parameter with a text is shared. -/
  names : Dict String String := ∅
  /-- The shared parameters by name. -/
  parameters : Dict String Parameter := ∅

namespace SharedParameters

/-- A name that is not taken: `base-hash`, or else `base-1`, `base-2` and so on. One more number than
there are names is tried, so that one of them is free. -/
def freeName (base hash : String) (taken : Dict String Parameter) : String :=
  let hashed := base ++ "-" ++ hash
  if taken.contains hashed then
    (((List.range (taken.entries.length + 1)).map fun i => base ++ "-" ++ toString (i + 1)).find?
      fun name => !taken.contains name).getD hashed
  else hashed

/-- Share one more parameter under a free name. -/
def add (s : SharedParameters) (text : String) (p : Parameter) : SharedParameters :=
  let name := freeName p.baseName (Digest.ofText text) s.parameters
  ⟨s.names.insert text name, s.parameters.insert name p⟩

/-- The parameter that stands in a document in the place of another. -/
def replace (s : SharedParameters) (p : Parameter) : Parameter :=
  if p.isShareable then
    match s.names.find? p.text with
    | some name => Parameter.pointingAt ("#/parameters/" ++ name)
    | none => p
  else p

end SharedParameters

namespace PathItem

/-- All parameters at a path: those of the operations, then those of the path. -/
def allParameters (item : PathItem) : List Parameter :=
  item.operations.flatMap Operation.parameters ++ item.parameters

/-- Apply a function to all parameters at a path. -/
def mapParameters (f : Parameter → Parameter) (item : PathItem) : PathItem :=
  let item := item.mapOperations fun op => { op with parameters := op.parameters.map f }
  { item with parameters := item.parameters.map f }

end PathItem

namespace Document

/-- The shareable parameters of a document, in order. -/
def shareable (d : Document) : List Parameter :=
  (d.paths.values.flatMap PathItem.allParameters).filter Parameter.isShareable

/-- The shareable parameters by text, each as it first stands in the document. -/
def shareableByText (d : Document) : Dict String Parameter :=
  d.shareable.foldl (fun byText p => byText.insertNew p.text p) ∅

/-- The parameters that the document can share, named in the order of their texts. -/
def sharedParameters (d : Document) : SharedParameters :=
  d.shareableByText.entries.foldl (fun s e => s.add e.1 e.2) {}

/-- Share the parameters of a document, which must not share any yet. -/
def shareParameters (d : Document) : Except BuildError Document :=
  let s := d.sharedParameters
  if d.parameters.isEmpty then
    .ok { d with
      parameters := s.parameters
      paths := d.paths.map (PathItem.mapParameters s.replace) }
  else .error .sharedParametersExist

end Document

end Swagger
