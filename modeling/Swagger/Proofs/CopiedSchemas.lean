import Swagger.Proofs.Answers
import Swagger.Proofs.References

/-! # Schemas that are copied
Bare names are resolved in definitions as they are written, and nowhere else. The responses of the
settings are copied into a document as they are, and so is a schema that is published instead of a
definition. What a document says itself about a route only refers to its own definitions.

* `Response.refs` — the references of a response.
* `Route.AnswersIn` — what the responses of a route's operation are, and what they refer to.
* `Config.Assembled.answersIn` — the responses of every operation.
* `Settings.buildDocument_copied` — where the schemas of a document come from. -/

namespace Swagger

/-- The references in the schema of a response. -/
def Response.refs (r : Response) : List String := r.schema.elim [] Schema.refs

namespace Config

/-- The schema that stands for a model refers to nothing but the definition of the model. -/
theorem mem_refs_schemaOf {c : Config} {model ref : String} (h : ref ∈ (c.schemaOf model).refs) :
    SimpleType.ofName? model = none ∧ ref = c.definitionPointer model := by
  unfold schemaOf at h
  cases hsimple : SimpleType.ofName? model with
  | some t =>
    simp only [hsimple] at h
    exact absurd h List.not_mem_nil
  | none =>
    simp only [hsimple] at h
    exact ⟨rfl, List.mem_singleton.1 h⟩

end Config

/-! ## The responses of an operation -/

namespace Route

/-- The models of the responses are those of the declared ones, and else what is written. -/
theorem mem_responseModels_iff {r : Route} {model : String} : model ∈ r.responseModels ↔
    (∃ x ∈ r.responses, x.model = some model) ∨ r.responses = [] ∧ r.writes = some model := by
  unfold responseModels
  cases r.responses with
  | cons x rest => simp [List.mem_flatMap, eq_comm]
  | nil => cases r.writes <;> simp [eq_comm]

/-- What a route says itself about a code, it says with one of its models, or with none. -/
theorem exists_responseOf {c : Config} {r : Route} {code : UInt16} {response : Response}
    (h : (r.ownResponses c).find? code = some response) :
    ∃ model description, c.responseOf model description = response ∧
      ∀ m ∈ model, m ∈ r.responseModels := by
  rw [find?_ownResponses, Option.or_eq_some_iff] at h
  rcases h with h | ⟨-, h⟩
  · obtain ⟨x, hx, rfl⟩ := Option.map_eq_some_iff.1 h
    have hmem : x ∈ r.responses := (List.mem_filter.1 (List.mem_of_getLast? hx)).1
    exact ⟨x.model, x.message, rfl, fun m hm => mem_responseModels_iff.2 (Or.inl ⟨x, hmem, hm⟩)⟩
  · -- nothing is declared, so what is written answers for success
    obtain ⟨⟨hnil, -⟩, h⟩ := (Option.ite_none_right_eq_some).1 h
    obtain ⟨model, hmodel, rfl⟩ := Option.map_eq_some_iff.1 h
    exact ⟨some model, "OK", rfl, fun m hm =>
      mem_responseModels_iff.2 (Or.inr ⟨hnil, hmodel.trans hm⟩)⟩

/-- What the responses of a route's operation are. -/
structure AnswersIn (c : Config) (r : Route) (d : Document) (responses : Responses) : Prop where
  /-- Under a code stands what the route says itself, and else the common response as it is. -/
  find?_byCode : ∀ code, responses.byCode.find? code
    = ((r.ownResponses c).find? code).or (c.commonResponses.find? code)
  /-- Where there is no code, the default response stands as it is. -/
  fallback_eq : responses.fallback = if responses.byCode.isEmpty then c.defaultResponse else none
  /-- What the route says itself refers to definitions of its models, which are there. -/
  own_refs : ∀ code response, (r.ownResponses c).find? code = some response →
    ∀ ref ∈ response.refs, ∃ m ∈ r.responseModels,
      (c.definitionName m).1 ∈ d.definitions.keys ∧ ref = c.definitionPointer m

end Route

/-- The operations of a document answer as their routes say, and else as the settings do. -/
theorem Config.Assembled.answersIn {c : Config} {sets : List RouteSet} {work : List WorkedPath}
    {draft : Draft} (h : c.Assembled sets work draft) {path : String} {m : Method} {op : Operation}
    (hop : (c.inlineDocument draft).shared.operationAt? path m = some op) :
    ∃ r ∈ c.surviving sets, r.DescribedBy c op ∧ ∃ responses, op.responses = some responses ∧
      r.AnswersIn c (c.inlineDocument draft).shared responses := by
  rw [Document.operationAt?_shared] at hop
  obtain ⟨op, hinline, rfl⟩ := Option.map_eq_some_iff.1 hop
  obtain ⟨s, hs, g, hg, r, -, hr, hlast⟩ := (h.operationAt?_eq_some_iff path m op).1 hinline
  have hsurvives : r ∈ c.surviving sets := (List.mem_filter.1 (List.mem_of_getLast? hlast)).1
  have hresponses : op.responses = some (Route.completeResponses c (r.ownResponses c)) :=
    Route.responses_of_operationOf hr
  refine ⟨r, hsurvives, (Route.describedBy_of_operationOf hr).withParameters _, _, hresponses,
    Route.find?_byCode_completeResponses c _, rfl, fun code response hresponse ref href => ?_⟩
  -- a response of the route refers to its model, whose definition was added
  obtain ⟨model, description, rfl, hmodel⟩ := Route.exists_responseOf hresponse
  cases model with
  | none => exact absurd href List.not_mem_nil
  | some model =>
    obtain ⟨hsimple, hpointer⟩ := mem_refs_schemaOf href
    refine ⟨model, hmodel model rfl, ?_, hpointer⟩
    rw [Document.shared_definitions, inlineDocument_definitions]
    exact h.contains_definition hsurvives (List.mem_append_left _ (hmodel model rfl)) hsimple

namespace Settings

/-- **Where the schemas of a document come from.** The shared responses are those of the settings, as
they are. Every operation answers as its route says, with references to definitions of the document
alone, and else with the common responses of the settings, or where there is no code with the default
one, as they are. A definition is that of a needed file, with its references resolved unless another
schema is published in its stead, as it is. -/
theorem buildDocument_copied {s : Settings} {definitions : Dict String WrittenDefinition}
    {m : Manifest} {d : Document} (hd : WebService.buildDocument (s.toConfig definitions) m.services = .ok d) :
    d.responses = s.responseDefinitions ∧
    (∀ path method op, d.operationAt? path method = some op →
      ∃ r ∈ (s.toConfig definitions).surviving (m.services.map WebService.toRouteSet),
        r.DescribedBy (s.toConfig definitions) op ∧ ∃ responses, op.responses = some responses ∧
          r.AnswersIn (s.toConfig definitions) d responses) ∧
    ∀ k schema, d.definitions.find? k = some schema → ∃ name file,
      (s.toConfig definitions).NeededBy (m.services.map WebService.toRouteSet) name ∧
        definitions.find? name = some file ∧ k = ModelName.definitionName name ∧
        file.PublishedIn s.definitionExtensions d schema := by
  obtain ⟨work, draft, h, rfl⟩ := (RouteSet.buildDocument_eq_ok_iff rfl _ d).1 hd
  refine ⟨?_, fun path method op hop => h.answersIn hop, fun k schema hk => definitions_origin hd hk⟩
  rw [Config.inlineDocument_eq, Config.secured]
  cases (s.toConfig definitions).securityDefinitions <;> rfl

/-- A response with the status of a failure, by the bare name of the model. -/
def failure : Response where
  description := "A failure"
  schema := some (Schema.reference "meta/v1.Status")

/-- Failures are shared, and answer under a code of every operation. -/
def failing : Settings where
  responseDefinitions := Dict.ofList [("Failure", failure)]
  commonResponses := Dict.ofList [(404, failure)]

/-- Failures answer where there is no code. -/
def failingByDefault : Settings where
  defaultResponse := some failure

/-- The extensions of a schema instead of which a status is published. -/
def statusExtensions : Extensions :=
  Dict.ofList [(Schema.replacementKey, .obj [("$ref", .str "meta/v1.Status")])]

/-- A pod, instead of which a status is published, and the status. -/
def statusFiles : Dict String WrittenDefinition := Dict.ofList
  [("core/v1.Pod", { schema := { own := { extensions := statusExtensions } } }),
    ("meta/v1.Status", { schema := Schema.simple "object" "" })]

/-- A service that empties a store. -/
def idleManifest : Manifest where
  webServices := [{ rootPath := "/store", routes :=
    [{ method := "DELETE", path := "/", operation := "clear" }] }]

/-- Where pods are listed, the failure answers besides the pods. -/
theorem buildDocument_copied_pods : ∃ d,
    WebService.buildDocument (failing.toConfig statusFiles) podManifest.services = .ok d ∧
      d.responses.find? "Failure" = some failure ∧ ∃ op responses,
        d.operationAt? "/pods" .get = some op ∧ op.responses = some responses ∧
          responses.byCode.find? 404 = some failure := by
  -- the route says nothing itself about the code
  have hown : ∀ r ∈ (failing.toConfig statusFiles).surviving (podManifest.services.map
      WebService.toRouteSet), (r.ownResponses (failing.toConfig statusFiles)).find? 404 = none := by
    decide +kernel
  have hbuilt : (WebService.buildDocument (failing.toConfig statusFiles)
      podManifest.services).toOption.map (fun d => (d.operationAt? "/pods" .get).isSome)
        = some true := by decide +kernel
  obtain ⟨d, hd, hslot⟩ := Run.exists_of_map_eq_some hbuilt
  obtain ⟨op, hop⟩ := Option.isSome_iff_exists.1 hslot
  obtain ⟨hshared, hoperations, -⟩ := buildDocument_copied hd
  obtain ⟨r, hr, -, responses, hresponses, hanswers⟩ := hoperations "/pods" .get op hop
  refine ⟨d, hd, by rw [hshared]; rfl, op, responses, hop, hresponses, ?_⟩
  rw [hanswers.find?_byCode, hown r hr]
  rfl

/-- **Bare names are left** among the shared responses, in what operations answer with and without a
code, and instead of definitions. The model that is meant has no definition in the document. -/
theorem buildDocument_copied_bare :
    (∃ d, WebService.buildDocument (failing.toConfig statusFiles) podManifest.services = .ok d ∧
      d.responses.find? "Failure" = some failure ∧
      ((d.operationAt? "/pods" .get).bind Operation.responses).bind (fun r => r.byCode.find? 404)
        = some failure ∧
      d.definitions.find? "v1.Pod" = some (Schema.reference "meta/v1.Status") ∧
      "v1.Status" ∉ d.definitions.keys) ∧
    (∃ d,
      WebService.buildDocument (failingByDefault.toConfig statusFiles) idleManifest.services = .ok d ∧
      ((d.operationAt? "/store" .delete).bind Operation.responses).bind Responses.fallback
        = some failure ∧
      "v1.Status" ∉ d.definitions.keys) ∧
    "meta/v1.Status" ∈ failure.refs ∧ "meta/v1.Status" ∈ (Schema.reference "meta/v1.Status").refs ∧
      Reference.isPointer "meta/v1.Status" = false := by
  have hpods : (WebService.buildDocument (failing.toConfig statusFiles)
      podManifest.services).toOption.map (fun d => (d.responses.find? "Failure",
        ((d.operationAt? "/pods" .get).bind Operation.responses).bind fun r => r.byCode.find? 404,
        d.definitions.find? "v1.Pod", d.definitions.keys))
      = some (some failure, some failure, some (Schema.reference "meta/v1.Status"),
          ["v1.Pod"]) := by decide +kernel
  have hidle : (WebService.buildDocument (failingByDefault.toConfig statusFiles)
      idleManifest.services).toOption.map (fun d =>
        (((d.operationAt? "/store" .delete).bind Operation.responses).bind Responses.fallback,
          d.definitions.keys)) = some (some failure, []) := by decide +kernel
  obtain ⟨d, hd, hd'⟩ := Run.exists_of_map_eq_some hpods
  obtain ⟨e, he, he'⟩ := Run.exists_of_map_eq_some hidle
  obtain ⟨hshared, hrest⟩ := Prod.mk.inj hd'
  obtain ⟨hcommon, hrest⟩ := Prod.mk.inj hrest
  obtain ⟨hreplaced, hkeys⟩ := Prod.mk.inj hrest
  obtain ⟨hfallback, hkeys'⟩ := Prod.mk.inj he'
  refine ⟨⟨d, hd, hshared, hcommon, hreplaced, ?_⟩, ⟨e, he, hfallback, ?_⟩, by decide +kernel,
    by decide +kernel, by decide +kernel⟩
  · rw [hkeys]
    decide
  · rw [hkeys']
    decide

end Settings

end Swagger
