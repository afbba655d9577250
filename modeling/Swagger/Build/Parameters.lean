import Swagger.Build.Definitions

/-! # Building parameters
* `RouteParameter.buildSimple` — a parameter outside the body as it stands in a document.
* `RouteParameter.build` — any parameter, a body with the schema of its model.
* `Route.duplicate?` — the first parameter that a route declares twice.
* `Route.common` — the parameters that all routes of a path declare, which then belong to the path.
* `Parameter.sort` — parameters in the order of name and place. -/

namespace Swagger

/-- A declared parameter outside the body as it stands in a document. Its type is a simple one, and in
the path it has to be required. -/
def RouteParameter.buildSimple (p : RouteParameter) : Except BuildError Parameter :=
  if p.kind = .body then .error (.unsupportedBodyParameter p.dataType)
  else if p.kind = .path ∧ p.required = false then .error (.pathParameterNotRequired p.name)
  else
    match SimpleType.ofName? p.dataType with
    | none => .error (.nonSimpleParameterType p.name p.dataType)
    | some t =>
      .ok { name := p.name, description := p.description, required := p.required,
            location := p.kind.location, type := t.type, format := t.format,
            uniqueItems := !p.allowMultiple }

/-- A body as it stands in a document, with the schema of its model. -/
def RouteParameter.bodyWith (p : RouteParameter) (schema : Schema) : Parameter :=
  { name := p.name, description := p.description, required := p.required,
    location := ParameterKind.body.location, schema := some schema }

/-- A declared parameter as it stands in a document, and the definitions with those it needs. A body
takes the schema of the model that the request is known to hold. -/
def RouteParameter.build (c : Config) (known : Dict String Definition) (body : Option String)
    (built : Definitions) (p : RouteParameter) : Except BuildError (Parameter × Definitions) :=
  match p.kind, body with
  | .body, some model => do
    let (schema, built) ← Definitions.schemaFor c known built model
    return (p.bodyWith schema, built)
  | _, _ => do
    let x ← p.buildSimple
    return (x, built)

/-- Declared parameters as they stand in a document, one after the other. -/
def RouteParameter.buildAll (c : Config) (known : Dict String Definition) (body : Option String) :
    Definitions → List RouteParameter → Except BuildError (List Parameter × Definitions)
  | built, [] => .ok ([], built)
  | built, p :: rest => do
    let (x, built) ← p.build c known body built
    let (xs, built) ← RouteParameter.buildAll c known body built rest
    return (x :: xs, built)

/-- The first parameter of a list whose key stands before it already. -/
def RouteParameter.duplicateAmong? : List ParameterKey → List RouteParameter → Option RouteParameter
  | _, [] => none
  | seen, p :: rest =>
    if seen.contains p.key then some p else duplicateAmong? (p.key :: seen) rest

namespace Route

/-- The first parameter that a route declares twice. -/
def duplicate? (r : Route) : Option RouteParameter :=
  RouteParameter.duplicateAmong? [] r.parameters

/-- Whether a route declares a parameter with a key. -/
def declares (r : Route) (k : ParameterKey) : Bool := r.parameters.any fun p => p.key == k

/-- Refuse routes that declare a parameter twice. -/
def checkDuplicates : List Route → Except BuildError Unit
  | [] => .ok ()
  | r :: rest =>
    match r.duplicate? with
    | some p => .error (.duplicateParameter p.name r.method r.path)
    | none => checkDuplicates rest

/-- The parameters outside the body that all routes of a path declare, by key, as the last route
declares them. -/
def common (routes : List Route) : Dict ParameterKey RouteParameter :=
  match routes.getLast? with
  | none => ∅
  | some last =>
    Dict.ofList ((last.parameters.filter fun p =>
      p.kind != .body && routes.all fun r => r.declares p.key).map fun p => (p.key, p))

end Route

namespace Parameter

/-- Whether a parameter may stand before another: by name, then by place. -/
def precedes (a b : Parameter) : Bool :=
  match compare a.name b.name with
  | .lt => true
  | .gt => false
  | .eq => compare a.location b.location != .gt

/-- Put a parameter in front of the first that it may precede. -/
def insertSorted (p : Parameter) : List Parameter → List Parameter
  | [] => [p]
  | q :: rest => if p.precedes q then p :: q :: rest else q :: insertSorted p rest

/-- Parameters in the order of name and place; equal ones stay in their order. -/
def sort (ps : List Parameter) : List Parameter := ps.foldr insertSorted []

end Parameter

end Swagger
