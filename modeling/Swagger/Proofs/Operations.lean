import Swagger.Build
import Swagger.Proofs.Run

/-! # Operations on their own
Whoever builds an operation hands the definitions of the document on from schema to schema. The
operation does not depend on them, though: it can be told from the route alone, and so can the models
that it uses. Only whether these have definitions, and which ones they bring along, is left to the
run.

* `Definitions.Uses` — a step that gives a value and adds the definitions that some models need.
* `Config.schemaOf`, `Config.responseOf`, `RouteParameter.parameterOf`, `Route.operationOf` — the
  values without the definitions.
* `Route.buildOperation_uses` — building an operation gives that operation and adds those models. -/

namespace Swagger

/-! ## Values and the models they use -/

namespace Definitions

variable {c : Config} {known : Dict String Definition}

/-- Without models nothing is added. -/
@[simp] theorem addAll_nil (built : Definitions) : addAll c known built [] = .ok built := rfl

/-- Models may be added in two parts. -/
theorem addAll_append (built : Definitions) (models more : List String) :
    addAll c known built (models ++ more)
      = addAll c known built models >>= fun built => addAll c known built more :=
  List.foldlM_append

/-- A step gives a value, if there is one, and adds what the models need that it uses. -/
def Uses {α : Type} (c : Config) (known : Dict String Definition)
    (step : Definitions → Except BuildError (α × Definitions)) (value : Except BuildError α)
    (models : List String) : Prop :=
  ∀ built x built', step built = .ok (x, built') ↔
    value = .ok x ∧ addAll c known built models = .ok built'

variable {α β : Type}

/-- A step that leaves the definitions alone uses no model. -/
theorem Uses.of_value (value : Except BuildError α) :
    Uses c known (fun built => value >>= fun x => .ok (x, built)) value [] := by
  intro built x built'
  rw [Run.bind_eq_ok, addAll_nil]
  constructor
  · rintro ⟨y, hy, h⟩
    obtain ⟨rfl, rfl⟩ := Prod.mk.inj (Except.ok.inj h)
    exact ⟨hy, rfl⟩
  · rintro ⟨hx, h⟩
    exact ⟨x, hx, by rw [Except.ok.inj h]⟩

/-- The models of two steps are those of the first, and then those of the second. -/
theorem Uses.bind {step : Definitions → Except BuildError (α × Definitions)}
    {value : Except BuildError α} {models more : List String}
    {next : α → Definitions → Except BuildError (β × Definitions)}
    {result : α → Except BuildError β} (h : Uses c known step value models)
    (hnext : ∀ a, Uses c known (next a) (result a) more) :
    Uses c known (fun built => step built >>= fun r => next r.1 r.2) (value >>= result)
      (models ++ more) := by
  intro built x built'
  rw [Run.bind_eq_ok, Run.bind_eq_ok, addAll_append, Run.bind_eq_ok]
  constructor
  · rintro ⟨⟨a, built₁⟩, hstep, hx⟩
    obtain ⟨ha, hmodels⟩ := (h built a built₁).1 hstep
    obtain ⟨hb, hmore⟩ := (hnext a built₁ x built').1 hx
    exact ⟨⟨a, ha, hb⟩, built₁, hmodels, hmore⟩
  · rintro ⟨⟨a, ha, hb⟩, built₁, hmodels, hmore⟩
    exact ⟨(a, built₁), (h built a built₁).2 ⟨ha, hmodels⟩,
      (hnext a built₁ x built').2 ⟨hb, hmore⟩⟩

/-- What comes before a step without regard to the definitions uses no model. -/
theorem Uses.after {value : Except BuildError α}
    {next : α → Definitions → Except BuildError (β × Definitions)}
    {result : α → Except BuildError β} {models : List String}
    (h : ∀ a, Uses c known (next a) (result a) models) :
    Uses c known (fun built => value >>= fun a => next a built) (value >>= result) models := by
  intro built x built'
  cases value with
  | error e => exact iff_of_false (fun hx => nomatch hx) fun hx => nomatch hx.1
  | ok a => exact h a built x built'

/-- A step whose value is put into something else uses the same models. -/
theorem Uses.map {step : Definitions → Except BuildError (α × Definitions)}
    {value : Except BuildError α} {models : List String} (h : Uses c known step value models)
    (f : α → β) :
    Uses c known (fun built => step built >>= fun r => .ok (f r.1, r.2)) (value >>= fun a => .ok (f a))
      models := by
  have hput : ∀ a, Uses c known (fun built => .ok (f a, built)) (.ok (f a)) [] :=
    fun a => Uses.of_value (.ok (f a))
  simpa only [List.append_nil] using h.bind hput

end Definitions

open Definitions (Uses)

/-! ## Schemas and responses -/

namespace Config

/-- The schema that stands for a model. -/
def schemaOf (c : Config) (model : String) : Schema :=
  match SimpleType.ofName? model with
  | some t => Schema.simple t.type t.format
  | none => Schema.reference (c.definitionPointer model)

/-- The response with the schema of a model. -/
def responseOf (c : Config) (model : Option String) (description : String) : Response :=
  { description := description, schema := model.map c.schemaOf }

variable (c : Config) (known : Dict String Definition)

/-- Building the schema of a model uses the model. -/
theorem schemaFor_uses (model : String) :
    Uses c known (fun built => Definitions.schemaFor c known built model) (.ok (c.schemaOf model))
      [model] := by
  intro built x built'
  simp only [Definitions.addAll, List.foldlM_cons, List.foldlM_nil, bind_pure, schemaOf,
    Definitions.schemaFor]
  cases SimpleType.ofName? model with
  | some t => simp [bind, Except.bind, pure, Except.pure]
  | none =>
    simp only [Run.bind_eq_ok, Run.pure_eq_ok, Prod.mk.injEq, Except.ok.injEq]
    constructor
    · rintro ⟨built₁, h, hx, rfl⟩
      exact ⟨hx, _, ⟨built₁, h, rfl⟩, rfl⟩
    · rintro ⟨hx, _, ⟨built₁, h, rfl⟩, rfl⟩
      exact ⟨built₁, h, hx, rfl⟩

/-- Building a response uses its model, if it has one. -/
theorem buildResponse_uses (model : Option String) (description : String) :
    Uses c known (fun built => Route.buildResponse c known built model description)
      (.ok (c.responseOf model description)) model.toList := by
  cases model with
  | none => exact Uses.of_value (.ok (c.responseOf none description))
  | some m =>
    exact (c.schemaFor_uses known m).map fun schema =>
      ({ description := description, schema := some schema } : Response)

end Config

namespace Route

/-- The responses by code that a route speaks of itself. -/
def ownResponses (c : Config) (r : Route) : Dict UInt16 Response :=
  match r.responses, r.writes with
  | [], some model => (∅ : Dict UInt16 Response).insert 200 (c.responseOf (some model) "OK")
  | declared, _ => declared.foldl (fun d x => d.insert x.code (c.responseOf x.model x.message)) ∅

/-- The models of these responses, in order. -/
def responseModels (r : Route) : List String :=
  match r.responses, r.writes with
  | [], some model => [model]
  | declared, _ => declared.flatMap fun x => x.model.toList

variable (c : Config) (known : Dict String Definition)

/-- Building the declared responses uses their models in order. -/
theorem buildDeclared_uses (declared : List DeclaredResponse) (byCode : Dict UInt16 Response) :
    Uses c known (fun built => buildDeclared c known built byCode declared)
      (.ok (declared.foldl (fun d x => d.insert x.code (c.responseOf x.model x.message)) byCode))
      (declared.flatMap fun x => x.model.toList) := by
  induction declared generalizing byCode with
  | nil => exact Uses.of_value (.ok byCode)
  | cons x rest ih =>
    exact (c.buildResponse_uses known x.model x.message).bind fun response =>
      ih (byCode.insert x.code response)

/-- Building the responses that a route speaks of uses their models. -/
theorem buildOwnResponses_uses (r : Route) :
    Uses c known (fun built => r.buildOwnResponses c known built) (.ok (r.ownResponses c))
      r.responseModels := by
  unfold buildOwnResponses ownResponses responseModels
  cases r.responses with
  | cons x rest => exact buildDeclared_uses c known (x :: rest) ∅
  | nil =>
    cases r.writes with
    | none => exact buildDeclared_uses c known [] ∅
    | some model =>
      exact (c.buildResponse_uses known (some model) "OK").map fun response =>
        (∅ : Dict UInt16 Response).insert 200 response

/-- The responses that all operations have use no more models. -/
theorem buildResponses_uses (r : Route) :
    Uses c known (fun built => r.buildResponses c known built)
      (.ok (completeResponses c (r.ownResponses c))) r.responseModels :=
  (buildOwnResponses_uses c known r).map (completeResponses c)

end Route

/-! ## Parameters and operations -/

namespace RouteParameter

/-- A declared parameter as it stands in a document; a body has the schema of the model given. -/
def parameterOf (c : Config) (body : Option String) (p : RouteParameter) :
    Except BuildError Parameter :=
  match p.kind, body with
  | .body, some model => .ok (p.bodyWith (c.schemaOf model))
  | _, _ => p.buildSimple

/-- The model that a declared parameter uses, which only a body does. -/
def models (body : Option String) (p : RouteParameter) : List String :=
  match p.kind, body with
  | .body, some model => [model]
  | _, _ => []

variable (c : Config) (known : Dict String Definition) (body : Option String)

/-- Building a declaration uses the model of a body. -/
theorem build_uses (p : RouteParameter) :
    Uses c known (fun built => p.build c known body built) (p.parameterOf c body)
      (p.models body) := by
  unfold RouteParameter.build parameterOf models
  -- only a body with a model does not come out by itself
  cases p.kind <;> cases body
  case body.some model => exact (c.schemaFor_uses known model).map p.bodyWith
  all_goals exact Uses.of_value p.buildSimple

/-- Building declarations uses the models of all bodies among them. -/
theorem buildAll_uses (ps : List RouteParameter) :
    Uses c known (fun built => buildAll c known body built ps) (ps.mapM (parameterOf c body))
      (ps.flatMap (models body)) := by
  induction ps with
  | nil => exact Uses.of_value (.ok [])
  | cons p rest ih =>
    rw [List.mapM_cons]
    exact (build_uses c known body p).bind fun x => ih.map fun xs => x :: xs

end RouteParameter

namespace Route

/-- The declared parameters that a route keeps for itself. -/
def ownParameters (common : Dict ParameterKey RouteParameter) (r : Route) : List RouteParameter :=
  r.parameters.filter fun p => !common.contains p.key

/-- The operation with a name, labels, responses and parameters that are built already. -/
def operationWith (c : Config) (r : Route) (id : String) (tags : List String)
    (responses : Responses) (parameters : List Parameter) : Operation :=
  { description := r.description, consumes := r.consumes, produces := r.produces,
    schemes := c.protocols, tags := tags, id := id, parameters := Parameter.sort parameters,
    responses := some responses, extensions := r.publishedMetadata }

/-- The operation of a route, where some parameters belong to its path. -/
def operationOf (c : Config) (common : Dict ParameterKey RouteParameter) (r : Route) :
    Except BuildError Operation := do
  let name ← c.operationName r
  let parameters ← (r.ownParameters common).mapM (RouteParameter.parameterOf c r.reads)
  return r.operationWith c name.1 name.2 (completeResponses c (r.ownResponses c)) parameters

/-- The operation of a route comes out when its name does and every parameter of its own. -/
theorem operationOf_eq_ok_iff {c : Config} {common : Dict ParameterKey RouteParameter} {r : Route}
    {op : Operation} : r.operationOf c common = .ok op ↔ ∃ name parameters,
      c.operationName r = .ok name ∧
      (r.ownParameters common).mapM (RouteParameter.parameterOf c r.reads) = .ok parameters ∧
      r.operationWith c name.1 name.2 (completeResponses c (r.ownResponses c)) parameters = op := by
  simp only [operationOf, Run.bind_eq_ok, Run.pure_eq_ok, exists_and_left]

/-- The models that the operation of a route uses, in order. -/
def models (common : Dict ParameterKey RouteParameter) (r : Route) : List String :=
  r.responseModels ++ (r.ownParameters common).flatMap (RouteParameter.models r.reads)

variable (c : Config) (known : Dict String Definition)

/-- Building an operation gives the operation of the route, and adds what its models need. -/
theorem buildOperation_uses (common : Dict ParameterKey RouteParameter) (r : Route) :
    Uses c known (fun built => r.buildOperation c known common built) (r.operationOf c common)
      (r.models common) :=
  Uses.after fun name => (buildResponses_uses c known r).bind fun responses =>
    (RouteParameter.buildAll_uses c known r.reads (r.ownParameters common)).map fun parameters =>
      r.operationWith c name.1 name.2 responses parameters

end Route

end Swagger
