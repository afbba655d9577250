import Swagger.Proofs.Definitions
import Swagger.Proofs.Parameters
import Swagger.Proofs.WorkingOrder

/-! # The models that a document needs
While routes are worked on, definitions are added for the models of their responses and bodies. Which
parameters belong to a path plays no part in that, because a body never does. So the definitions of a
document can be told from the surviving routes, whatever their order.

* `Route.usedModels` — the models that a route uses.
* `Config.NeededBy` — the models that some services need: what the models of their surviving routes lead
  to.
* `Config.Assembled.flatMap_models` — the models of worked-out paths are those of the surviving routes.
* `Config.Assembled.definitions_origin` — the model behind each definition.
* `Config.Assembled.contains_definition` — the definition of each model that a route uses. -/

namespace Swagger

/-! ## The models of a route -/

/-- Only bodies use a model. -/
theorem RouteParameter.models_of_kind_ne_body (body : Option String) {p : RouteParameter}
    (h : p.kind ≠ .body) : p.models body = [] := by
  unfold RouteParameter.models
  split
  · next hkind => exact absurd hkind h
  · rfl

namespace Route

/-- The models that a route uses: those of its responses, and those of its bodies. -/
def usedModels (r : Route) : List String :=
  r.responseModels ++ r.parameters.flatMap (RouteParameter.models r.reads)

/-- A parameter that belongs to a path is no body. -/
theorem kind_ne_body_of_contains_common {routes : List Route} {k : ParameterKey}
    (h : (common routes).contains k = true) : k.kind ≠ .body := by
  rw [Dict.contains_iff_mem_keys, common] at h
  cases hlast : routes.getLast? with
  | none =>
    simp only [hlast] at h
    exact nomatch h
  | some last =>
    simp only [hlast] at h
    rw [Dict.ofList, Dict.mem_keys_insertAll] at h
    obtain ⟨e, he, rfl⟩ := List.mem_map.1 (h.resolve_right fun h => nomatch h)
    obtain ⟨p, hp, rfl⟩ := List.mem_map.1 he
    obtain ⟨hbody, -⟩ := Bool.and_eq_true_iff.1 (List.mem_filter.1 hp).2
    have hkind : p.kind ≠ .body := by simpa using hbody
    exact hkind

/-- The models that an operation uses are those of its route, whatever belongs to its path. -/
theorem models_common (routes : List Route) (r : Route) :
    r.models (common routes) = r.usedModels := by
  refine congrArg (r.responseModels ++ ·) ?_
  rw [ownParameters]
  induction r.parameters with
  | nil => rfl
  | cons p rest ih =>
    rw [List.flatMap_cons, ← ih]
    cases hp : (common routes).contains p.key with
    | true =>
      -- what belongs to the path uses no model
      rw [List.filter_cons_of_neg (by simp [hp]),
        RouteParameter.models_of_kind_ne_body _ (kind_ne_body_of_contains_common hp),
        List.nil_append]
    | false => rw [List.filter_cons_of_pos (by simp [hp]), List.flatMap_cons]

end Route

/-- A path uses the models of its supported routes, in order. -/
theorem PathGroup.models_of_workedOut {c : Config} {service : List RouteParameter} {g : PathGroup}
    {w : WorkedPath} (h : g.workedOut c service = .ok w) :
    w.models = g.supported.flatMap Route.usedModels := by
  obtain ⟨-, item, operations, -, -, rfl⟩ := workedOut_eq_ok_iff.1 h
  exact congrArg (fun f => g.supported.flatMap f) (funext (Route.models_common g.supported))

/-! ## The models of a document -/

namespace Config

/-- The models that some services need: what the models of their surviving routes lead to. -/
def NeededBy (c : Config) (sets : List RouteSet) (n : String) : Prop :=
  c.Needed ((c.surviving sets).flatMap Route.usedModels) n

/-- What two lists of models need is what one of them needs. -/
theorem needed_append (c : Config) (models more : List String) (n : String) :
    c.Needed (models ++ more) n ↔ c.Needed models n ∨ c.Needed more n := by
  simp only [Needed, List.mem_append, or_and_right, exists_or]

/-- What several services need is what some of them do. -/
theorem neededBy_append (c : Config) (sets sets' : List RouteSet) (n : String) :
    c.NeededBy (sets ++ sets') n ↔ c.NeededBy sets n ∨ c.NeededBy sets' n := by
  rw [NeededBy, surviving, List.flatMap_append, List.flatMap_append, needed_append]
  rfl

namespace Assembled

variable {c : Config} {sets : List RouteSet} {work : List WorkedPath} {draft : Draft}

/-- The models of worked-out paths are those of the surviving routes, in the order of work. -/
theorem flatMap_models (h : c.Assembled sets work draft) :
    work.flatMap WorkedPath.models = (c.inOrder sets).flatMap Route.usedModels := by
  have hmodels : work.map WorkedPath.models
      = (c.live sets).map fun x => x.2.supported.flatMap Route.usedModels :=
    Run.map_of_mapM_eq_ok h.worked_out fun _ _ hw => PathGroup.models_of_workedOut hw
  rw [c.inOrder_eq_flatMap, List.flatMap_assoc, List.flatMap_def, hmodels, ← List.flatMap_def]

/-- The models that have been added, those of simple types aside. -/
theorem visit_eq (h : c.Assembled sets work draft) :
    Definitions.visit c c.resolvedDefinitions ∅
      ((work.flatMap WorkedPath.models).filter fun m => (SimpleType.ofName? m).isNone)
        = .ok draft.definitions := by
  rw [← Definitions.addAll_eq_visit]
  exact h.extended.definitions_eq

/-- What the models of worked-out paths lead to is what the services need. -/
theorem needed_iff (h : c.Assembled sets work draft) (n : String) :
    c.Needed (work.flatMap WorkedPath.models) n ↔ c.NeededBy sets n := by
  rw [h.flatMap_models, NeededBy, Needed, Needed]
  -- the order of work does not matter
  simp only [List.mem_flatMap, (c.inOrder_perm sets).mem_iff]

/-- The models of all paths lead to what the services need. -/
theorem ledTo_iff (h : c.Assembled sets work draft) (n : String) :
    Definitions.LedTo c.resolvedDefinitions
        ((work.flatMap WorkedPath.models).filter fun m => (SimpleType.ofName? m).isNone) n ↔
      c.NeededBy sets n :=
  (c.ledTo_filter_iff _ n).trans (h.needed_iff n)

/-- **The model behind a definition**: each definition is that of a needed model, and the models that
this one depends on have definitions as well. -/
theorem definitions_origin (h : c.Assembled sets work draft) {k : String} {s : Schema}
    (hs : draft.definitions.find? k = some s) :
    ∃ n d, c.NeededBy sets n ∧ c.resolvedDefinitions.find? n = some d ∧
      k = (c.definitionName n).1 ∧ s = d.schema.published (c.definitionName n).2 ∧
      ∀ x ∈ d.dependencies, (c.definitionName x).1 ∈ draft.definitions.keys := by
  obtain hempty | ⟨n, d, hn, hd, hk, hschema, hdeps⟩ := Definitions.visit_origin h.visit_eq hs
  · exact nomatch hempty
  · exact ⟨n, d, (h.ledTo_iff n).1 hn, hd, hk, hschema,
      fun x hx => (Dict.contains_iff_mem_keys _ _).1 (hdeps x hx)⟩

/-- A model that a surviving route uses has a definition, if it is of no simple type. -/
theorem contains_definition (h : c.Assembled sets work draft) {r : Route}
    (hr : r ∈ c.surviving sets) {m : String} (hm : m ∈ r.usedModels)
    (hsimple : SimpleType.ofName? m = none) : (c.definitionName m).1 ∈ draft.definitions.keys := by
  obtain ⟨-, hlisted⟩ := Definitions.visit_extends h.visit_eq
  rw [← Dict.contains_iff_mem_keys]
  refine hlisted m (List.mem_filter.2 ⟨?_, by simp [hsimple]⟩)
  rw [h.flatMap_models]
  exact List.mem_flatMap.2 ⟨r, (c.inOrder_perm sets).mem_iff.2 hr, hm⟩

end Assembled

end Config

end Swagger
