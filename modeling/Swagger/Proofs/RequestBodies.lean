import Swagger.Proofs.EntryPoints
import Swagger.Proofs.ManifestRoutes
import Swagger.Proofs.ParameterForm

/-! # The bodies of requests
An operation has the bodies that its route declares, no more and no less: bodies never belong to a path,
none is built unless the route is known to read a model, and sharing leaves them where they are. A route
of a manifest declares one exactly if it says what it reads, or else it has listed one itself, and then
it cannot be built.

* `Parameter.isBody` — whether a parameter of a document stands in the body.
* `Route.filter_isBody_of_operationOf` — the bodies of an operation are those of its route.
* `SharedParameters.filter_isBody_map_replace` — sharing leaves them where they are.
* `Config.bodyOf` — the body for a model.
* `Manifest.surviving` — the entries whose routes are not left out.
* `Manifest.buildDocument_bodies` — the bodies in the document of a manifest. -/

namespace Swagger

/-! ## The bodies of an operation -/

/-- Whether a parameter of a document stands in the body. -/
def Parameter.isBody (p : Parameter) : Bool := p.location == "body"

/-- A plain parameter is no body. -/
theorem Parameter.IsPlain.isBody_eq_false {p : Parameter} (h : p.IsPlain) : p.isBody = false := by
  have hlocation := h.location_ne_body
  simpa [isBody] using hlocation

namespace RouteParameter

variable {c : Config}

/-- The body that is built from a declaration, if it is one and the model is known. -/
def body? (c : Config) (model : Option String) (p : RouteParameter) : Option Parameter :=
  if p.kind = .body then model.map fun m => p.bodyWith (c.schemaOf m) else none

/-- Among the parameters that are built, the bodies are those of the declared bodies. -/
theorem filter_isBody_of_mapM {model : Option String} {ps : List RouteParameter}
    {xs : List Parameter} (h : ps.mapM (parameterOf c model) = .ok xs) :
    xs.filter Parameter.isBody = ps.filterMap (body? c model) := by
  have hbuilt := Run.mapM_eq_ok.1 h
  clear h
  induction hbuilt with
  | nil => rfl
  | @cons p x ps xs hx _ ih =>
    by_cases hp : p.kind = .body
    · cases model with
      | none =>
        -- without a model nothing is built for a body
        have hsimple : p.buildSimple = .ok x := by
          unfold parameterOf at hx
          simpa [hp] using hx
        exact absurd hp ((p.buildSimple_eq_ok_iff x).1 hsimple).1
      | some m =>
        obtain rfl : p.bodyWith (c.schemaOf m) = x := by
          unfold parameterOf at hx
          simpa [hp] using hx
        have hbody : p.body? c (some m) = some (p.bodyWith (c.schemaOf m)) := if_pos hp
        rw [List.filter_cons_of_pos rfl, List.filterMap_cons_some hbody, ih]
    · have hnone : p.body? c model = none := if_neg hp
      rw [parameterOf_of_kind_ne_body hp] at hx
      have hplain := (isPlain_of_buildSimple hx).isBody_eq_false
      rw [List.filter_cons_of_neg (by simp [hplain]), List.filterMap_cons_none hnone, ih]

end RouteParameter

/-- What belongs to a path is no body, so a route keeps all of its bodies. -/
theorem Route.filterMap_body?_ownParameters (c : Config) (routes : List Route) (r : Route) :
    (r.ownParameters (common routes)).filterMap (RouteParameter.body? c r.reads)
      = r.parameters.filterMap (RouteParameter.body? c r.reads) := by
  rw [ownParameters, List.filterMap_filter]
  refine List.filterMap_congr fun p _ => ?_
  cases hp : (common routes).contains p.key with
  | false => rfl
  | true => exact (if_neg (kind_ne_body_of_contains_common hp)).symm

/-- **The bodies of an operation** are those that its route declares. -/
theorem Route.filter_isBody_of_operationOf {c : Config} {routes : List Route} {r : Route}
    {op : Operation} (h : r.operationOf c (common routes) = .ok op) :
    (op.parameters.filter Parameter.isBody).Perm
      (r.parameters.filterMap (RouteParameter.body? c r.reads)) := by
  obtain ⟨name, xs, -, hxs, rfl⟩ := operationOf_eq_ok_iff.1 h
  rw [← filterMap_body?_ownParameters c routes, ← RouteParameter.filter_isBody_of_mapM hxs]
  exact (Parameter.sort_perm xs).filter _

/-- A route that is not known to read a model cannot have a body. -/
theorem Route.kind_ne_body_of_operationOf {c : Config} {routes : List Route} {r : Route}
    {op : Operation} (h : r.operationOf c (common routes) = .ok op) (hreads : r.reads = none)
    {p : RouteParameter} (hp : p ∈ r.parameters) : p.kind ≠ .body := by
  intro hbody
  have hown : (common routes).contains p.key = false := by
    by_contra hcommon
    exact kind_ne_body_of_contains_common (by simpa using hcommon) hbody
  obtain ⟨x, hx⟩ := exists_parameterOf h hp hown
  rw [hreads] at hx
  have hsimple : p.buildSimple = .ok x := by
    unfold RouteParameter.parameterOf at hx
    simpa [hbody] using hx
  exact ((p.buildSimple_eq_ok_iff x).1 hsimple).1 hbody

/-! ## Bodies in a document -/

/-- What stands in the place of a parameter is a body only where the parameter itself was left. -/
theorem SharedParameters.isBody_replace (s : SharedParameters) (p : Parameter) :
    (s.replace p).isBody = p.isBody ∧ (p.isBody = true → s.replace p = p) := by
  by_cases hp : p.StaysInline
  · rw [s.replace_of_staysInline hp]
    exact ⟨rfl, fun _ => rfl⟩
  · have hbody : p.isBody = false := by
      by_contra hbody
      exact hp (Or.inr (Or.inl (by simpa [Parameter.isBody] using hbody)))
    refine ⟨?_, fun h => absurd (hbody.symm.trans h) (by decide)⟩
    rw [replace]
    split
    · split
      · exact hbody.symm ▸ rfl
      · rfl
    · rfl

/-- Sharing leaves the bodies alone. -/
theorem SharedParameters.filter_isBody_map_replace (s : SharedParameters) (ps : List Parameter) :
    (ps.map s.replace).filter Parameter.isBody = ps.filter Parameter.isBody := by
  induction ps with
  | nil => rfl
  | cons p rest ih =>
    obtain ⟨hsame, hkept⟩ := s.isBody_replace p
    rw [List.map_cons]
    cases hp : p.isBody with
    | true => rw [List.filter_cons_of_pos (hsame.trans hp), List.filter_cons_of_pos hp, hkept hp, ih]
    | false =>
      rw [List.filter_cons_of_neg (by simp [hsame, hp]), List.filter_cons_of_neg (by simp [hp]), ih]

namespace Config.Assembled

variable {c : Config} {sets : List RouteSet} {work : List WorkedPath} {draft : Draft}

/-- Each surviving route has been turned into an operation on its own. -/
theorem exists_operationOf (h : c.Assembled sets work draft) {r : Route}
    (hr : r ∈ c.surviving sets) : ∃ routes op, r.operationOf c (Route.common routes) = .ok op := by
  obtain ⟨s, hs, hrs⟩ := (c.mem_surviving sets r).1 hr
  obtain ⟨g, hg, hmem, -⟩ := RouteSet.exists_live_of_mem_surviving hrs
  obtain ⟨w, hw, -⟩ := h.exists_workedOut hs hg
  obtain ⟨-, item, operations, -, hoperations, -⟩ := PathGroup.workedOut_eq_ok_iff.1 hw
  obtain ⟨op, -, hop⟩ := Run.exists_of_mapM_eq_ok hoperations hmem
  exact ⟨g.supported, op, hop⟩

/-- No service that is not ignored has a body among its parameters. -/
theorem kind_ne_body_of_service (h : c.Assembled sets work draft) {s : RouteSet} (hs : s ∈ sets)
    (hroot : c.ignores s.rootPath = false) {p : RouteParameter} (hp : p ∈ s.pathParameters) :
    p.kind ≠ .body := by
  obtain ⟨xs, hxs⟩ := h.services_sound s hs hroot
  obtain ⟨x, -, hx⟩ := Run.exists_of_mapM_eq_ok hxs hp
  exact ((p.buildSimple_eq_ok_iff x).1 hx).1

/-- No parameter of a path is a body. -/
theorem isBody_eq_false_of_path (h : c.Assembled sets work draft) {item : PathItem}
    (hitem : item ∈ (c.inlineDocument draft).shared.paths.values) {p : Parameter}
    (hp : p ∈ item.parameters) : p.isBody = false := by
  rw [Document.shared_paths, Dict.values_map, inlineDocument, secured_paths] at hitem
  obtain ⟨before, hbefore, rfl⟩ := List.mem_map.1 hitem
  obtain ⟨q, hq, rfl⟩ := List.mem_map.1 hp
  obtain ⟨service, g, w, hw, rfl⟩ := h.exists_workedOut_of_mem hbefore
  obtain ⟨declared, -, hbuilt⟩ := (PathGroup.mem_parameters_iff hw q).1 hq
  rw [(SharedParameters.isBody_replace _ q).1]
  exact (RouteParameter.isPlain_of_buildSimple hbuilt).isBody_eq_false

/-- An operation of a finished document has the bodies of the last surviving route with its place. -/
theorem filter_isBody_eq (h : c.Assembled sets work draft) {path : String} {m : Method}
    {op : Operation} (hop : (c.inlineDocument draft).shared.operationAt? path m = some op) :
    ∃ r, r.DescribedBy c op ∧
      ((c.surviving sets).filter fun r => r.documentPath = path ∧ m.Matches r.method).getLast?
        = some r ∧
      (op.parameters.filter Parameter.isBody).Perm
        (r.parameters.filterMap (RouteParameter.body? c r.reads)) := by
  rw [Document.operationAt?_shared] at hop
  obtain ⟨before, hbefore, rfl⟩ := Option.map_eq_some_iff.1 hop
  obtain ⟨s, -, g, -, r, -, hr, hlast⟩ := (h.operationAt?_eq_some_iff path m before).1 hbefore
  refine ⟨r, (Route.describedBy_of_operationOf hr).withParameters _, hlast, ?_⟩
  rw [SharedParameters.filter_isBody_map_replace]
  exact Route.filter_isBody_of_operationOf hr

end Config.Assembled

/-! ## Manifests -/

/-- The body for a model. -/
def Config.bodyOf (c : Config) (model : String) : Parameter where
  name := "body"
  location := "body"
  required := true
  schema := some (c.schemaOf model)

/-- Of the parameters of an entry's route, the only body is the one for the model that is read. -/
theorem RouteEntry.filterMap_body?_parameters (c : Config) (r : RouteEntry) :
    r.parameters.filterMap (RouteParameter.body? c r.reads) = (r.reads.map c.bodyOf).toList := by
  rw [parameters]
  cases hreads : r.reads with
  | none =>
    refine List.filterMap_eq_nil_iff.2 fun p _ => ?_
    rw [RouteParameter.body?, Option.map_none, ite_self]
  | some model =>
    rw [RouteDraft.withBody, List.filterMap_append, List.filterMap_filter]
    -- the listed bodies are gone, and the last parameter is the one for the model
    have hnone : ((r.params.map ParameterEntry.parameter).filterMap fun p =>
        if (p.kind != .body) = true then RouteParameter.body? c (some model) p else none) = [] := by
      refine List.filterMap_eq_nil_iff.2 fun p _ => ?_
      split
      · next hp => exact if_neg (by simpa using hp)
      · rfl
    rw [hnone]
    rfl

namespace Manifest

/-- The entries of a manifest, each with that of its service. -/
def entries (m : Manifest) : List (ServiceEntry × RouteEntry) :=
  m.webServices.flatMap fun e => e.routes.map (Prod.mk e)

/-- The entries whose routes are not left out. -/
def surviving (c : Config) (m : Manifest) : List (ServiceEntry × RouteEntry) :=
  m.entries.filter fun x => (x.1.route x.2).Survives c x.1.service.toRouteSet

/-- The entry whose route fills a slot: the last surviving one with its path and method. -/
def entryAt? (c : Config) (m : Manifest) (path : String) (method : Method) :
    Option (ServiceEntry × RouteEntry) :=
  ((m.surviving c).filter fun x =>
    (x.1.route x.2).documentPath = path ∧ method.Matches (x.1.route x.2).method).getLast?

/-- The surviving routes of the services are those of the surviving entries, in order. -/
theorem surviving_routeSets (c : Config) (m : Manifest) :
    c.surviving m.routeSets = (m.surviving c).map fun x => x.1.route x.2 := by
  rw [Config.surviving, routeSets, services, List.map_map, List.flatMap_map, surviving, entries,
    List.filter_flatMap, List.map_flatMap]
  refine congrArg (fun f => m.webServices.flatMap f) (funext fun e => ?_)
  have hroutes : (WebService.toRouteSet e.service).routes = e.routes.map e.route := by
    rw [e.service_eq]
    rfl
  rw [Function.comp_apply, RouteSet.surviving, hroutes, List.filter_map, List.filter_map,
    List.map_map]
  rfl

section Assembled

variable {c : Config} {m : Manifest} {work : List WorkedPath} {draft : Draft}

/-- Where paths are assembled, an entry that reads nothing lists no body, unless its route is left out. -/
theorem kind_ne_body_of_entry (h : c.Assembled m.routeSets work draft)
    {x : ServiceEntry × RouteEntry} (hx : x ∈ m.surviving c) (hreads : x.2.reads = none)
    {p : ParameterEntry} (hp : p ∈ x.2.params) : p.kind ≠ .body := by
  have hr : x.1.route x.2 ∈ c.surviving m.routeSets := by
    rw [surviving_routeSets]
    exact List.mem_map_of_mem hx
  have hdeclared : p.parameter ∈ (x.1.route x.2).parameters := by
    change p.parameter ∈ x.2.parameters
    rw [RouteEntry.parameters, hreads]
    exact List.mem_map_of_mem hp
  obtain ⟨routes, op, hop⟩ := h.exists_operationOf hr
  exact Route.kind_ne_body_of_operationOf hop hreads hdeclared

/-- Nor does the entry of a service, unless its root path is ignored. -/
theorem kind_ne_body_of_serviceEntry (h : c.Assembled m.routeSets work draft) {e : ServiceEntry}
    (he : e ∈ m.webServices) (hroot : c.ignores e.rootPath = false) {p : ParameterEntry}
    (hp : p ∈ e.params) : p.kind ≠ .body := by
  have hs : (e.serviceWith (e.routes.map e.route)).toRouteSet ∈ m.routeSets :=
    (m.mem_routeSets _).2 ⟨e, he, rfl⟩
  have hdeclared : p.parameter ∈ (e.serviceWith (e.routes.map e.route)).toRouteSet.pathParameters :=
    List.mem_map_of_mem hp
  exact h.kind_ne_body_of_service hs hroot hdeclared

/-- An operation of a finished document is that of the entry which fills its slot, and has the body for
the model that this entry reads. -/
theorem exists_entryAt?_of_operationAt? (h : c.Assembled m.routeSets work draft) {path : String}
    {method : Method} {op : Operation}
    (hop : (c.inlineDocument draft).shared.operationAt? path method = some op) :
    ∃ e r, m.entryAt? c path method = some (e, r) ∧ (e.route r).DescribedBy c op ∧
      op.parameters.filter Parameter.isBody = (r.reads.map c.bodyOf).toList := by
  obtain ⟨r, hdescribed, hlast, hbodies⟩ := h.filter_isBody_eq hop
  rw [surviving_routeSets, List.filter_map, List.getLast?_map, Function.comp_def] at hlast
  obtain ⟨⟨e, r⟩, hx, rfl⟩ := Option.map_eq_some_iff.1 hlast
  have hroute : (e.route r).parameters.filterMap (RouteParameter.body? c (e.route r).reads)
      = (r.reads.map c.bodyOf).toList := r.filterMap_body?_parameters c
  rw [hroute] at hbodies
  refine ⟨e, r, hx, hdescribed, ?_⟩
  -- at most one body has only one order
  cases hreads : r.reads with
  | none =>
    rw [hreads] at hbodies
    exact hbodies.eq_nil
  | some model =>
    rw [hreads] at hbodies
    exact List.perm_singleton.1 hbodies

end Assembled

/-- **A manifest's routes have the bodies that they say they read.** A build fails if a surviving route
that reads nothing lists a body, or a service that is not ignored. Otherwise each operation is that of
the entry which fills its slot, and it has just the body for the model that this entry reads, or none;
and no parameter of a path, and no shared one, is a body. -/
theorem buildDocument_bodies {c : Config} (hc : c.complete = none) (m : Manifest) :
    (((∃ x ∈ m.surviving c, x.2.reads = none ∧ ∃ p ∈ x.2.params, p.kind = .body) ∨
        ∃ e ∈ m.webServices, c.ignores e.rootPath = false ∧ ∃ p ∈ e.params, p.kind = .body) →
      ∃ error, WebService.buildDocument c m.services = .error error) ∧
    ∀ d, WebService.buildDocument c m.services = .ok d →
      (∀ path method op, d.operationAt? path method = some op → ∃ e r,
        m.entryAt? c path method = some (e, r) ∧ (e.route r).DescribedBy c op ∧
        op.parameters.filter Parameter.isBody = (r.reads.map c.bodyOf).toList) ∧
      (∀ item ∈ d.paths.values, ∀ p ∈ item.parameters, p.isBody = false) ∧
      ∀ p ∈ d.parameters.values, p.isBody = false := by
  have hiff := RouteSet.buildDocument_eq_ok_iff hc m.routeSets
  refine ⟨fun hbody => ?_, fun d hd => ?_⟩
  · cases hrun : WebService.buildDocument c m.services with
    | error error => exact ⟨error, rfl⟩
    | ok d =>
      -- a document would have been assembled in spite of the body
      obtain ⟨work, draft, h, -⟩ := (hiff d).1 hrun
      rcases hbody with ⟨x, hx, hreads, p, hp, hkind⟩ | ⟨e, he, hroot, p, hp, hkind⟩
      · exact absurd hkind (kind_ne_body_of_entry h hx hreads hp)
      · exact absurd hkind (kind_ne_body_of_serviceEntry h he hroot hp)
  · obtain ⟨work, draft, h, rfl⟩ := (hiff d).1 hd
    exact ⟨fun path method op hop => exists_entryAt?_of_operationAt? h hop,
      fun item hitem p hp => h.isBody_eq_false_of_path hitem hp,
      fun p hp => (h.isPlain_of_mem_shared hp).isBody_eq_false⟩

/-- A body that is listed as a parameter. -/
def listedBody : ParameterEntry := ⟨"pod", .body, "", none, none, false⟩

/-- Pods are created, which lists a body besides what it reads, and listed. The ignored service lists a
body as well. -/
def podStore : Manifest where
  webServices :=
    [{ rootPath := "/pods"
       routes :=
        [{ method := "POST", operation := "createPod", reads := some "core/v1.Pod",
           params := [listedBody] },
         { method := "GET", operation := "listPods" }] },
     { rootPath := "/internal", params := [listedBody] }]

/-- Finding pods lists a body, but reads nothing. -/
def podSearch : Manifest where
  webServices :=
    [{ rootPath := "/pods"
       routes := [{ method := "GET", operation := "findPods", params := [listedBody] }] }]

/-- The listed body gives way to the one for the model, and a body alone makes the build fail. -/
theorem buildDocument_bodies_pods :
    (∃ d create list, WebService.buildDocument Config.publicPods podStore.services = .ok d ∧
      d.operationAt? "/pods" .post = some create ∧ d.operationAt? "/pods" .get = some list ∧
      create.parameters.filter Parameter.isBody = [Config.publicPods.bodyOf "core/v1.Pod"] ∧
      list.parameters.filter Parameter.isBody = []) ∧
    ∃ error, WebService.buildDocument Config.publicPods podSearch.services = .error error := by
  constructor
  · have hslots : (WebService.buildDocument Config.publicPods podStore.services).toOption.map (fun d =>
        ((d.operationAt? "/pods" .post).isSome, (d.operationAt? "/pods" .get).isSome))
        = some (true, true) := by decide +kernel
    have hpost : (podStore.entryAt? Config.publicPods "/pods" .post).map (fun x => x.2.reads)
        = some (some "core/v1.Pod") := by decide +kernel
    have hget : (podStore.entryAt? Config.publicPods "/pods" .get).map (fun x => x.2.reads)
        = some none := by decide +kernel
    obtain ⟨d, hd, hsome⟩ := Run.exists_of_map_eq_some hslots
    obtain ⟨create, hcreate⟩ := Option.isSome_iff_exists.1 (congrArg Prod.fst hsome)
    obtain ⟨list, hlist⟩ := Option.isSome_iff_exists.1 (congrArg Prod.snd hsome)
    obtain ⟨-, hbodies⟩ := buildDocument_bodies (c := Config.publicPods) rfl podStore
    obtain ⟨hoperations, -⟩ := hbodies d hd
    obtain ⟨e, r, hentry, -, hcreated⟩ := hoperations _ _ create hcreate
    obtain ⟨e', r', hentry', -, hlisted⟩ := hoperations _ _ list hlist
    rw [hentry] at hpost
    rw [hentry'] at hget
    have hreads : r.reads = some "core/v1.Pod" := Option.some.inj hpost
    have hnothing : r'.reads = none := Option.some.inj hget
    rw [hreads] at hcreated
    rw [hnothing] at hlisted
    exact ⟨d, create, list, hd, hcreate, hlist, hcreated, hlisted⟩
  · obtain ⟨hfails, -⟩ := buildDocument_bodies (c := Config.publicPods) rfl podSearch
    refine hfails (Or.inl ?_)
    have hlisted : ∃ x ∈ podSearch.surviving Config.publicPods,
        x.2.reads = none ∧ ∃ p ∈ x.2.params, p.kind = .body := by decide +kernel
    exact hlisted

end Manifest

end Swagger
