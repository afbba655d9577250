import Swagger.Manifest
import Swagger.Proofs.Dict

/-! # The routes of a manifest
An entry of a manifest is turned into a route step by step. Most steps only set a field, so the route
can be told from the entry at once. The one step that looks at what was said before is that of the model
which is read: it comes after all parameters, and takes the place of every body among them.

* `RouteDraft.steps_append` and the lemmas after it — what several steps of one kind come to.
* `RouteEntry.parameters`, `RouteEntry.responses` — the parameters and responses of the route.
* `ServiceEntry.route_eq` — the whole route of an entry.
* `ServiceEntry.service_eq` — the whole service of an entry. -/

namespace Swagger

/-! ## Several steps of one kind -/

namespace RouteDraft

/-- Steps may be taken in two parts. -/
theorem steps_append (d : RouteDraft) (before after : List RouteStep) :
    d.steps (before ++ after) = (d.steps before).steps after :=
  List.foldl_append

/-- The last step is taken where the others led. -/
theorem steps_concat (d : RouteDraft) (ss : List RouteStep) (s : RouteStep) :
    d.steps (ss ++ [s]) = (d.steps ss).step s :=
  steps_append d ss [s]

/-- Parameters are declared after those that are there, in their order. -/
theorem steps_parameters (d : RouteDraft) (ps : List RouteParameter) :
    d.steps (ps.map .parameter)
      = { d with route := { d.route with parameters := d.route.parameters ++ ps } } := by
  induction ps generalizing d with
  | nil => simp [steps]
  | cons p rest ih =>
    rw [List.map_cons, steps, List.foldl_cons, ← steps, ih]
    simp [step]

/-- Responses are declared one after the other. -/
theorem steps_returns (d : RouteDraft) (rs : List DeclaredResponse) :
    d.steps (rs.map .returns) = { d with route := { d.route with
      responses := rs.foldl (fun declared r => setResponse r declared) d.route.responses } } := by
  induction rs generalizing d with
  | nil => rfl
  | cons r rest ih =>
    rw [List.map_cons, steps, List.foldl_cons, ← steps, ih]
    rfl

/-- Facts are stored one after the other, each in the place of an earlier one with its name. -/
theorem steps_metadata (d : RouteDraft) (facts : List (String × Json)) :
    d.steps (facts.map fun m => .metadata m.1 m.2)
      = { d with route := { d.route with metadata := d.route.metadata.insertAll facts } } := by
  induction facts generalizing d with
  | nil => rfl
  | cons m rest ih =>
    rw [List.map_cons, steps, List.foldl_cons, ← steps, ih]
    rfl

/-- What a route produces is what was said last. -/
theorem steps_produces (d : RouteDraft) (types : Option (List String)) :
    d.steps (types.map .produces).toList
      = { d with route := { d.route with produces := types.getD d.route.produces } } := by
  cases types <;> rfl

/-- What a route consumes is what was said last. -/
theorem steps_consumes (d : RouteDraft) (types : Option (List String)) :
    d.steps (types.map .consumes).toList
      = { d with route := { d.route with consumes := types.getD d.route.consumes } } := by
  cases types <;> rfl

/-- The model that is written is the one named last. -/
theorem steps_writes (d : RouteDraft) (model : Option String) :
    d.steps (model.map .writes).toList
      = { d with route := { d.route with writes := model.or d.route.writes } } := by
  cases model <;> rfl

/-- Parameters once it is known what is read: a model takes the place of every body among them. -/
def withBody (ps : List RouteParameter) : Option String → List RouteParameter
  | none => ps
  | some model => ps.filter (·.kind != .body) ++ [bodyParameter model]

/-- The model that is read takes the place of every body. -/
theorem steps_reads (d : RouteDraft) (model : Option String) :
    d.steps (model.map .reads).toList = { d with route := { d.route with
      parameters := withBody d.route.parameters model
      reads := model.or d.route.reads } } := by
  cases model <;> rfl

end RouteDraft

/-! ## The route of an entry -/

namespace RouteEntry

/-- The parameters of the route: the listed ones, of which a model that is read takes the place of every
body. -/
def parameters (r : RouteEntry) : List RouteParameter :=
  RouteDraft.withBody (r.params.map ParameterEntry.parameter) r.reads

/-- The responses of the route: the listed ones, each in the place of an earlier one for its code. -/
def responses (r : RouteEntry) : List DeclaredResponse :=
  (r.returns.map ReturnEntry.response).foldl (fun declared x => RouteDraft.setResponse x declared) []

end RouteEntry

namespace ServiceEntry

/-- The route that an entry of a service describes. -/
def route (e : ServiceEntry) (r : RouteEntry) : Route where
  method := Text.upper r.method
  path := Path.join e.rootPath r.path
  operation := r.operation
  description := r.doc
  parameters := r.parameters
  responses := r.responses
  reads := r.reads
  writes := r.writes
  consumes := r.consumes.getD e.consumes
  produces := r.produces.getD e.produces
  metadata := Dict.ofList r.metadata.entries

/-- The steps that an entry takes lead to its route. -/
theorem route_eq (e : ServiceEntry) (r : RouteEntry) {ws : WebService}
    (hroot : ws.rootPath = e.rootPath) (hproduces : ws.produces = e.produces)
    (hconsumes : ws.consumes = e.consumes) : (r.draft ws).finish = e.route r := by
  have hparameters : r.params.map (fun p => RouteStep.parameter p.parameter)
      = (r.params.map ParameterEntry.parameter).map .parameter := by
    rw [List.map_map]; rfl
  have hreturns : r.returns.map (fun x => RouteStep.returns x.response)
      = (r.returns.map ReturnEntry.response).map .returns := by
    rw [List.map_map]; rfl
  rw [RouteEntry.draft, RouteEntry.steps, hparameters, hreturns]
  -- kind by kind, first to last
  simp only [RouteDraft.steps_append, RouteDraft.steps_metadata, RouteDraft.steps_returns,
    RouteDraft.steps_writes, RouteDraft.steps_reads, RouteDraft.steps_parameters,
    RouteDraft.steps_consumes, RouteDraft.steps_produces]
  simp [RouteDraft.steps, RouteDraft.step, RouteDraft.finish, WebService.draft, route,
    RouteEntry.parameters, RouteEntry.responses, Dict.ofList, hroot, hproduces, hconsumes]

/-- The service of an entry with some routes registered. -/
def serviceWith (e : ServiceEntry) (routes : List Route) : WebService where
  rootPath := e.rootPath
  pathParameters := e.params.map ParameterEntry.parameter
  routes := routes
  produces := e.produces
  consumes := e.consumes

/-- The service has the routes of its entries, in order. -/
theorem service_eq (e : ServiceEntry) : e.service = e.serviceWith (e.routes.map e.route) := by
  -- whatever has been registered, the next route is that of its entry
  have hrun : ∀ (entries : List RouteEntry) (registered : List Route),
      entries.foldl (fun (ws : WebService) r => ws.addRoute (r.draft ws)) (e.serviceWith registered)
        = e.serviceWith (registered ++ entries.map e.route) := by
    intro entries
    induction entries with
    | nil => simp
    | cons r rest ih =>
      intro registered
      have hnext : (e.serviceWith registered).addRoute (r.draft (e.serviceWith registered))
          = e.serviceWith (registered ++ [e.route r]) := by
        rw [WebService.addRoute, e.route_eq r rfl rfl rfl]
        rfl
      rw [List.foldl_cons, hnext, ih, List.append_assoc]
      rfl
  exact hrun e.routes []

end ServiceEntry

namespace Manifest

/-- The sets of routes of a manifest. -/
def routeSets (m : Manifest) : List RouteSet := m.services.map WebService.toRouteSet

/-- The sets of routes are those of the services, each made from its entry. -/
theorem mem_routeSets (m : Manifest) (s : RouteSet) : s ∈ m.routeSets ↔ ∃ e ∈ m.webServices,
    s = (e.serviceWith (e.routes.map e.route)).toRouteSet := by
  simp only [routeSets, services, List.map_map, List.mem_map, Function.comp_apply,
    ServiceEntry.service_eq, eq_comm]

end Manifest

end Swagger
