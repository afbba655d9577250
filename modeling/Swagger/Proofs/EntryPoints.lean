import Swagger.Proofs.NeededModels
import Swagger.Proofs.SharedDefinitions

/-! # The ways to ask for definitions agree
Definitions can be had with the paths of some services, from a list of models, or for one model alone.
While paths are built, definitions are added on the side, by responses and by bodies. What is added is
the same as if the models had been listed, because a model whose name is taken adds nothing: it does not
matter that every body of a route asks for the one model that the route reads.

* `Definitions.addAll_repeated` — a model that is listed again right away adds nothing.
* `Route.listedModels` — the models of a route, that of its bodies once.
* `Config.listedModels` — the models of some services, in the order of work.
* `RouteSet.buildDocument_definitions` — the three ways agree. -/

namespace Swagger

/-! ## Repeated models -/

namespace Definitions

variable {c : Config} {known : Dict String Definition}

/-- A model that is listed again right away adds nothing. -/
theorem addAll_repeated (built : Definitions) (m : String) (rest : List String) :
    addAll c known built (m :: m :: rest) = addAll c known built (m :: rest) := by
  rw [addAll_eq_visit, addAll_eq_visit]
  by_cases hm : (SimpleType.ofName? m).isNone = true
  · simp only [List.filter_cons, hm, if_true]
    -- the first one either ends the run or takes the name
    rw [visit, visit, List.foldlM_cons, List.foldlM_cons]
    cases hadd : add c known built m with
    | error e => rfl
    | ok built' =>
      have hone : visit c known built [m] = .ok built' := by
        rw [visit, List.foldlM_cons, hadd]
        rfl
      obtain ⟨-, htaken⟩ := visit_extends hone
      exact visit_cons_taken _ (htaken m List.mem_cons_self)
  · simp only [List.filter_cons, hm]
    rfl

end Definitions

/-- However many bodies there are, they add what one of them does. -/
theorem RouteParameter.addAll_models {c : Config} {known : Dict String Definition}
    (body : Option String) (parameters : List RouteParameter) (built : Definitions) :
    Definitions.addAll c known built (parameters.flatMap (models body))
      = Definitions.addAll c known built
          (if parameters.any (·.kind = .body) then body.toList else []) := by
  induction parameters generalizing built with
  | nil => rfl
  | cons p rest ih =>
    rw [List.flatMap_cons, Definitions.addAll_append, List.any_cons]
    by_cases hp : p.kind = .body
    · have hmodels : p.models body = body.toList := by
        unfold models
        cases body <;> simp [hp]
      simp only [hp, hmodels, decide_true, Bool.true_or, if_true]
      -- what the rest adds has been added by this one
      have hrest : (fun b => Definitions.addAll c known b (rest.flatMap (models body)))
          = fun b => Definitions.addAll c known b
              (if rest.any (·.kind = .body) then body.toList else []) :=
        funext fun b => ih b
      rw [hrest, ← Definitions.addAll_append]
      cases body with
      | none => simp
      | some m =>
        by_cases hany : rest.any (·.kind = .body) = true
        · rw [if_pos hany]
          exact Definitions.addAll_repeated built m []
        · rw [if_neg hany, List.append_nil]
    · rw [models_of_kind_ne_body body hp, Definitions.addAll_nil]
      simp only [hp, decide_false, Bool.false_or]
      exact ih built

/-! ## The models of services as a list -/

/-- The models of a route: those of its responses, and then the one that it reads, if it has a body. -/
def Route.listedModels (r : Route) : List String :=
  r.responseModels ++ if r.parameters.any (·.kind = .body) then r.reads.toList else []

/-- The models that a route uses add what the listed ones do, however many bodies have the one it reads. -/
theorem Route.addAll_usedModels {c : Config} {known : Dict String Definition} (r : Route)
    (built : Definitions) :
    Definitions.addAll c known built r.usedModels
      = Definitions.addAll c known built r.listedModels := by
  rw [usedModels, listedModels, Definitions.addAll_append, Definitions.addAll_append]
  refine congrArg (fun f => Definitions.addAll c known built r.responseModels >>= f) ?_
  exact funext fun b => RouteParameter.addAll_models r.reads r.parameters b

/-- The models of the surviving routes, in the order of work: service by service, path by path, and on
one path as the routes were registered. -/
def Config.listedModels (c : Config) (sets : List RouteSet) : List String :=
  (c.inOrder sets).flatMap Route.listedModels

/-- Route by route, the models that are used add what the listed ones do. -/
theorem Route.addAll_flatMap_usedModels {c : Config} {known : Dict String Definition}
    (routes : List Route) (built : Definitions) :
    Definitions.addAll c known built (routes.flatMap Route.usedModels)
      = Definitions.addAll c known built (routes.flatMap Route.listedModels) := by
  induction routes generalizing built with
  | nil => rfl
  | cons r rest ih =>
    rw [List.flatMap_cons, List.flatMap_cons, Definitions.addAll_append, Definitions.addAll_append,
      r.addAll_usedModels]
    exact congrArg (fun f => Definitions.addAll c known built r.listedModels >>= f) (funext ih)

/-- What is added while paths are worked on is what the listed models add. -/
theorem Config.Assembled.addAll_listedModels {c : Config} {sets : List RouteSet}
    {work : List WorkedPath} {draft : Draft} (h : c.Assembled sets work draft) :
    Definitions.addAll c c.resolvedDefinitions ∅ (c.listedModels sets) = .ok draft.definitions := by
  rw [Config.listedModels, ← Route.addAll_flatMap_usedModels, ← h.flatMap_models]
  exact h.extended.definitions_eq

/-! ## The three ways -/

/-- What one model needs is what a list of just that model does. -/
theorem Config.definitionsFor_eq {c : Config} (hc : c.complete = none) (model : String) :
    c.definitionsFor model = (c.definitionsDocument [model]).map Document.definitions := by
  have hone : Definitions.addAll c c.resolvedDefinitions ∅ [model]
      = (Definitions.schemaFor c c.resolvedDefinitions ∅ model).map Prod.snd := by
    rw [Definitions.addAll, List.foldlM_cons]
    cases Definitions.schemaFor c c.resolvedDefinitions ∅ model <;> rfl
  rw [definitionsFor, definitionsDocument, hone]
  cases Definitions.schemaFor c c.resolvedDefinitions ∅ model with
  | error e => rfl
  | ok r =>
    -- sharing parameters and the settings on security leave the definitions alone
    let d : Document := { c.blank with definitions := r.2 }
    have hshare : d.shareParameters = .ok d.shared := Document.shareParameters_eq_shared rfl
    have hfinish : c.finish d = .ok (c.secured d).shared := finish_eq_shared hc rfl
    have hsame : d.shared.definitions = (c.secured d).shared.definitions := by
      rw [Document.shared_definitions, Document.shared_definitions, secured_definitions]
    calc (do let d ← d.shareParameters; return d.definitions)
        = .ok d.shared.definitions := by rw [hshare]; rfl
      _ = .ok (c.secured d).shared.definitions := by rw [hsame]
      _ = (c.finish d).map Document.definitions := by rw [hfinish]; rfl

/-- **The ways to ask for definitions agree.** A document that is built from services has the definitions
of the one built from the models of their surviving routes, in the order of work. So each of its
definitions is that of a model which these lead to, with the definitions of all that this one depends
on, and no model of a surviving route lacks its definition. For one model alone there are the same
definitions, or the same failure, as for a list of just that model. -/
theorem RouteSet.buildDocument_definitions (c : Config) (hc : c.complete = none) :
    (∀ sets d, RouteSet.buildDocument c sets = .ok d →
      (∃ listed, c.definitionsDocument (c.listedModels sets) = .ok listed ∧
        listed.definitions = d.definitions) ∧
      (∀ k ∈ d.definitions.keys, ∃ n x, c.Needed (c.listedModels sets) n ∧
        c.resolvedDefinitions.find? n = some x ∧ k = (c.definitionName n).1 ∧
        ∀ m ∈ x.dependencies, (c.definitionName m).1 ∈ d.definitions.keys) ∧
      ∀ m ∈ c.listedModels sets, SimpleType.ofName? m = none →
        (c.definitionName m).1 ∈ d.definitions.keys) ∧
    ∀ model, c.definitionsFor model = (c.definitionsDocument [model]).map Document.definitions := by
  refine ⟨fun sets d hd => ?_, Config.definitionsFor_eq hc⟩
  obtain ⟨work, draft, hassembled, rfl⟩ := (buildDocument_eq_ok_iff hc sets d).1 hd
  have hvisit := hassembled.addAll_listedModels
  rw [Definitions.addAll_eq_visit] at hvisit
  rw [Document.shared_definitions, Config.inlineDocument_definitions]
  refine ⟨?_, fun k hk => ?_, fun m hm hsimple => ?_⟩
  · refine ⟨_, by rw [Config.definitionsDocument_eq hc, hvisit]; rfl, ?_⟩
    rw [Document.shared_definitions, Config.secured_definitions]
  · obtain ⟨s, hs⟩ := (Dict.mem_keys_iff _ _).1 hk
    obtain hempty | ⟨n, x, hn, hx, hname, -, hdeps⟩ := Definitions.visit_origin hvisit hs
    · simp at hempty
    · exact ⟨n, x, (c.ledTo_filter_iff _ n).1 hn, hx, hname,
        fun m hm => (Dict.contains_iff_mem_keys _ _).1 (hdeps m hm)⟩
  · obtain ⟨-, htaken⟩ := Definitions.visit_extends hvisit
    exact (Dict.contains_iff_mem_keys _ _).1 (htaken m (List.mem_filter.2 ⟨hm, by simp [hsimple]⟩))

/-- The settings for two kinds of pods of one name, with an ignored prefix. -/
def Config.publicPods : Config := { Config.pods with ignoredPrefixes := ["/internal"] }

/-- Two services, of which the first has its paths registered out of order, and one of its routes has
two bodies. The second is ignored. -/
def RouteSet.podServices : List RouteSet :=
  [{ rootPath := "/"
     routes :=
      [{ method := "GET", path := "/pods", operation := "listPods", writes := some "core/v1.Pod" },
       { method := "POST", path := "/apps", operation := "createApp", reads := some "apps/v1.Pod",
         parameters := [RouteParameter.declare .body "body" "", RouteParameter.declare .body "copy" ""],
         responses := [⟨202, "Accepted", some "string"⟩] }] },
   { rootPath := "/internal"
     routes := [{ method := "GET", path := "/internal/pods", writes := some "internal/v1.Pod" }] }]

/-- Two models have one name, under which the first in the order of work is described, as it is for the
list of the models. The ignored service has no say. -/
theorem RouteSet.buildDocument_definitions_pods :
    ∃ d listed, RouteSet.buildDocument Config.publicPods RouteSet.podServices = .ok d ∧
      Config.publicPods.definitionsDocument ["string", "apps/v1.Pod", "core/v1.Pod"] = .ok listed ∧
      listed.definitions = d.definitions ∧
      (d.definitions.find? "v1.Pod").map (fun s => s.own.description)
        = some "A pod of an application" := by
  have hread : (RouteSet.buildDocument Config.publicPods RouteSet.podServices).toOption.map (fun d =>
      (d.definitions.find? "v1.Pod").map fun s => s.own.description)
      = some (some "A pod of an application") := by decide +kernel
  have hmodels : Config.publicPods.listedModels RouteSet.podServices
      = ["string", "apps/v1.Pod", "core/v1.Pod"] := by
    rw [Config.listedModels, Config.inOrder_eq_flatMap]
    decide +kernel
  obtain ⟨d, hd, hdescription⟩ := Run.exists_of_map_eq_some hread
  obtain ⟨hsets, -⟩ := buildDocument_definitions Config.publicPods rfl
  obtain ⟨⟨listed, hlisted, hsame⟩, -⟩ := hsets _ d hd
  rw [hmodels] at hlisted
  exact ⟨d, listed, hd, hlisted, hsame, hdescription⟩

end Swagger
