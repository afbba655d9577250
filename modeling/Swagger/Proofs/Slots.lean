import Swagger.Proofs.Method
import Swagger.Proofs.Surviving

/-! # Every slot is accounted for
Which paths a document has, which slots of them are filled and by which route can be read off the
surviving routes. No path is ever overwritten, because the paths of the live groups are distinct, and
a slot of a path is only filled from the one group that the path belongs to.

* `PathGroup.slot_eq_some_iff` — the operation in a slot of a worked-out path is that of the last route
  with the slot's method; `PathGroup.parameters_of_workedOut` — its parameters.
* `Config.Assembled.find?_paths` — the paths of a draft are the worked-out live groups.
* `Route.DescribedBy` — what an operation says about its route.
* `RouteSet.buildDocument_slots` — the paths and slots of a document. -/

namespace Swagger

/-! ## The slots of one path -/

/-- A path gets its parameters when all declarations can be built, and then it has them in order. -/
theorem PathItem.withParameters_eq_ok_iff (service common : List RouteParameter) (item : PathItem) :
    PathItem.withParameters service common = .ok item ↔ ∃ shared inherited,
      common.mapM RouteParameter.buildSimple = .ok shared ∧
      service.mapM RouteParameter.buildSimple = .ok inherited ∧
      { parameters := Parameter.sort (inherited ++ shared) } = item := by
  simp only [withParameters, Run.bind_eq_ok, Run.pure_eq_ok]
  constructor
  · rintro ⟨shared, hshared, inherited, hinherited, rfl⟩
    exact ⟨shared, inherited, hshared, hinherited, rfl⟩
  · rintro ⟨shared, inherited, hshared, hinherited, rfl⟩
    exact ⟨shared, hshared, inherited, hinherited, rfl⟩

/-- Where some route has a method, there is a last one that has it. -/
theorem Route.exists_last {routes : List Route} {r : Route} {m : Method} (hr : r ∈ routes)
    (hm : m.Matches r.method) : ∃ last ∈ routes, m.Matches last.method ∧
      (routes.filter fun r => m.Matches r.method).getLast? = some last := by
  have hmem : r ∈ routes.filter fun r => m.Matches r.method :=
    List.mem_filter.2 ⟨hr, decide_eq_true hm⟩
  have hlast := List.getLast?_eq_some_getLast (List.ne_nil_of_mem hmem)
  obtain ⟨hlastmem, hlastm⟩ := List.mem_filter.1 (List.mem_of_getLast? hlast)
  exact ⟨_, hlastmem, of_decide_eq_true hlastm, hlast⟩

namespace PathGroup

variable {c : Config} {service : List RouteParameter} {g : PathGroup} {w : WorkedPath}

/-- What a worked-out path consists of. -/
theorem workedOut_eq_ok_iff : g.workedOut c service = .ok w ↔
    Route.checkDuplicates g.supported = .ok () ∧ ∃ item operations,
      PathItem.withParameters service g.common.values = .ok item ∧
      g.supported.mapM (Route.operationOf c g.common) = .ok operations ∧
      ⟨g.path, item.fill (g.supported.zip operations), operations,
        g.supported.flatMap (Route.models g.common)⟩ = w := by
  simp only [workedOut, Run.bind_eq_ok, Run.pure_eq_ok]
  constructor
  · rintro ⟨_, hdistinct, item, hitem, operations, hops, rfl⟩
    exact ⟨hdistinct, item, operations, hitem, hops, rfl⟩
  · rintro ⟨hdistinct, item, operations, hitem, hops, rfl⟩
    exact ⟨(), hdistinct, item, hitem, operations, hops, rfl⟩

/-- A path that is worked out is that of its group. -/
theorem path_of_workedOut (h : g.workedOut c service = .ok w) : w.path = g.path := by
  obtain ⟨-, item, operations, -, -, rfl⟩ := workedOut_eq_ok_iff.1 h
  rfl

/-- The parameters of a path are those of its service and the common ones, in order. -/
theorem parameters_of_workedOut (h : g.workedOut c service = .ok w) : ∃ inherited shared,
    service.mapM RouteParameter.buildSimple = .ok inherited ∧
    g.common.values.mapM RouteParameter.buildSimple = .ok shared ∧
    w.item.parameters = Parameter.sort (inherited ++ shared) := by
  obtain ⟨-, item, operations, hitem, -, rfl⟩ := workedOut_eq_ok_iff.1 h
  obtain ⟨shared, inherited, hshared, hinherited, rfl⟩ :=
    (PathItem.withParameters_eq_ok_iff _ _ _).1 hitem
  exact ⟨inherited, shared, hinherited, hshared, PathItem.parameters_fill _ _⟩

/-- The slot of a method holds the operation of the last route with that method. -/
theorem slot_eq_some_iff (h : g.workedOut c service = .ok w) (m : Method) (op : Operation) :
    w.item.slot m = some op ↔ ∃ r, r.operationOf c g.common = .ok op ∧
      (g.supported.filter fun r => m.Matches r.method).getLast? = some r := by
  obtain ⟨-, item, operations, hitem, hops, rfl⟩ := workedOut_eq_ok_iff.1 h
  obtain ⟨shared, inherited, -, -, rfl⟩ := (PathItem.withParameters_eq_ok_iff _ _ _).1 hitem
  -- the path begins without operations
  have hempty : PathItem.slot { parameters := Parameter.sort (inherited ++ shared) } m = none := by
    cases m <;> rfl
  have hforall := Run.mapM_eq_ok.1 hops
  have hroutes : (g.supported.zip operations).map Prod.fst = g.supported :=
    List.map_fst_zip (Nat.le_of_eq hforall.length_eq)
  -- the pairs of routes and operations are filtered just as the routes are
  have hfilter : ((g.supported.zip operations).filter fun x => Method.slot? x.1.method = some m).map
      Prod.fst = g.supported.filter fun r => m.Matches r.method := by
    conv_rhs => rw [← hroutes, List.filter_map]
    refine congrArg (List.map Prod.fst) (List.filter_congr fun x hx => decide_eq_decide.2 ?_)
    have hmem : x.1 ∈ g.supported := hroutes ▸ List.mem_map_of_mem hx
    exact Method.slot?_eq_some_iff (List.mem_filter.1 hmem).2 m
  rw [PathItem.slot_fill, hempty, Option.or_none, ← hfilter, List.getLast?_map]
  have hpair : ∀ x, ((g.supported.zip operations).filter fun x =>
      Method.slot? x.1.method = some m).getLast? = some x → x.1.operationOf c g.common = .ok x.2 :=
    fun x hx => List.forall₂_zip hforall (List.mem_filter.1 (List.mem_of_getLast? hx)).1
  constructor
  · intro hslot
    obtain ⟨x, hx, rfl⟩ := Option.map_eq_some_iff.1 hslot
    exact ⟨x.1, hpair x hx, Option.map_eq_some_iff.2 ⟨x, hx, rfl⟩⟩
  · rintro ⟨r, hop, hlast⟩
    obtain ⟨x, hx, rfl⟩ := Option.map_eq_some_iff.1 hlast
    exact Option.map_eq_some_iff.2 ⟨x, hx, Except.ok.inj ((hpair x hx).symm.trans hop)⟩

/-- A slot is filled when some route has its method. -/
theorem isSome_slot_iff (h : g.workedOut c service = .ok w) (m : Method) :
    (w.item.slot m).isSome ↔ ∃ r ∈ g.supported, m.Matches r.method := by
  rw [Option.isSome_iff_exists]
  simp only [slot_eq_some_iff h]
  constructor
  · rintro ⟨op, r, -, hlast⟩
    obtain ⟨hr, hm⟩ := List.mem_filter.1 (List.mem_of_getLast? hlast)
    exact ⟨r, hr, of_decide_eq_true hm⟩
  · rintro ⟨r, hr, hm⟩
    obtain ⟨last, hmem, -, hlast⟩ := Route.exists_last hr hm
    obtain ⟨-, item, operations, -, hops, -⟩ := workedOut_eq_ok_iff.1 h
    obtain ⟨op, -, hop⟩ := Run.exists_of_mapM_eq_ok hops hmem
    exact ⟨op, last, hop, hlast⟩

end PathGroup

/-! ## The paths of a draft -/

namespace Config.Assembled

variable {c : Config} {sets : List RouteSet} {work : List WorkedPath} {draft : Draft}

/-- The worked-out paths are those of the live groups, in their order. -/
theorem map_path_work (h : c.Assembled sets work draft) :
    work.map WorkedPath.path = c.livePaths sets :=
  Run.map_of_mapM_eq_ok h.worked_out fun _ _ hw => PathGroup.path_of_workedOut hw

/-- No two live groups have one path. -/
theorem livePaths_nodup (h : c.Assembled sets work draft) : (c.livePaths sets).Nodup := by
  -- the paths were stored without a clash
  have hfresh := h.extended.fresh_paths.1
  rw [List.map_map] at hfresh
  rwa [← h.map_path_work]

/-- The paths of a draft are those that were worked out. -/
theorem find?_paths_work (h : c.Assembled sets work draft) (path : String) (item : PathItem) :
    draft.paths.find? path = some item ↔ ∃ w ∈ work, w.path = path ∧ w.item = item := by
  have hpaths : draft.paths = Dict.ofList (work.map WorkedPath.entry) := h.extended.paths_eq
  rw [hpaths, Dict.find?_ofList_eq_some_iff h.extended.fresh_paths.1, List.mem_map]
  simp [WorkedPath.entry]

/-- The paths of a draft are the live groups, each worked out with the parameters of its service. -/
theorem find?_paths (h : c.Assembled sets work draft) (path : String) (item : PathItem) :
    draft.paths.find? path = some item ↔ ∃ s ∈ sets, ∃ g ∈ s.live c, ∃ w,
      g.workedOut c s.pathParameters = .ok w ∧ g.path = path ∧ w.item = item := by
  rw [h.find?_paths_work]
  constructor
  · rintro ⟨w, hw, rfl, rfl⟩
    obtain ⟨x, hx, hworked⟩ := (Run.mem_iff_of_mapM_eq_ok h.worked_out w).1 hw
    obtain ⟨s, hs, hx⟩ := List.mem_flatMap.1 hx
    obtain ⟨g, hg, rfl⟩ := List.mem_map.1 hx
    exact ⟨s, hs, g, hg, w, hworked, (PathGroup.path_of_workedOut hworked).symm, rfl⟩
  · rintro ⟨s, hs, g, hg, w, hworked, rfl, rfl⟩
    have hlive : (s.pathParameters, g) ∈ c.live sets :=
      List.mem_flatMap.2 ⟨s, hs, List.mem_map_of_mem hg⟩
    obtain ⟨w', hw', hworked'⟩ := Run.exists_of_mapM_eq_ok h.worked_out hlive
    obtain rfl : w' = w := Except.ok.inj (hworked'.symm.trans hworked)
    exact ⟨w', hw', PathGroup.path_of_workedOut hworked, rfl⟩

/-- Every live group was worked out, and stands in the draft. -/
theorem exists_workedOut (h : c.Assembled sets work draft) {s : RouteSet} (hs : s ∈ sets)
    {g : PathGroup} (hg : g ∈ s.live c) : ∃ w, g.workedOut c s.pathParameters = .ok w ∧
      draft.paths.find? g.path = some w.item := by
  have hlive : (s.pathParameters, g) ∈ c.live sets :=
    List.mem_flatMap.2 ⟨s, hs, List.mem_map_of_mem hg⟩
  obtain ⟨w, -, hworked⟩ := Run.exists_of_mapM_eq_ok h.worked_out hlive
  exact ⟨w, hworked, (h.find?_paths g.path w.item).2 ⟨s, hs, g, hg, w, hworked, rfl, rfl⟩⟩

/-- The paths of a draft are those of the surviving routes. -/
theorem mem_keys_paths_iff (h : c.Assembled sets work draft) (path : String) :
    path ∈ draft.paths.keys ↔ ∃ r ∈ c.surviving sets, r.documentPath = path := by
  rw [Dict.mem_keys_iff, ← c.mem_livePaths, livePaths_eq_flatMap, List.mem_flatMap]
  simp only [h.find?_paths, List.mem_map]
  constructor
  · rintro ⟨item, s, hs, g, hg, w, -, hpath, -⟩
    exact ⟨s, hs, g, hg, hpath⟩
  · rintro ⟨s, hs, g, hg, hpath⟩
    obtain ⟨w, hw, -⟩ := h.exists_workedOut hs hg
    exact ⟨w.item, s, hs, g, hg, w, hw, hpath, rfl⟩

end Config.Assembled

/-! ## The slots of a document -/

/-- What an operation says about its route, its parameters and responses aside. -/
structure Route.DescribedBy (c : Config) (r : Route) (op : Operation) : Prop where
  /-- The description is the route's. -/
  description_eq : op.description = r.description
  /-- It takes what the route takes. -/
  consumes_eq : op.consumes = r.consumes
  /-- It gives what the route gives. -/
  produces_eq : op.produces = r.produces
  /-- Its protocols are those of the configuration. -/
  schemes_eq : op.schemes = c.protocols
  /-- Its name and labels are those that the configuration gives the route. -/
  name_eq : c.operationName r = .ok (op.id, op.tags)
  /-- Its extensions are the metadata that are meant to be published. -/
  mem_extensions_iff : ∀ e, e ∈ op.extensions.entries ↔
    e ∈ r.metadata.entries ∧ "x-".toList <+: e.1.toList

/-- The operation of a route describes it. -/
theorem Route.describedBy_of_operationOf {c : Config} {common : Dict ParameterKey RouteParameter}
    {r : Route} {op : Operation} (h : r.operationOf c common = .ok op) : r.DescribedBy c op := by
  obtain ⟨name, parameters, hname, -, rfl⟩ := operationOf_eq_ok_iff.1 h
  refine ⟨rfl, rfl, rfl, rfl, hname, fun e => ?_⟩
  simp [operationWith, publishedMetadata, extensionMark]

/-- Which parameters an operation has plays no part in whether it describes a route. -/
theorem Route.DescribedBy.withParameters {c : Config} {r : Route} {op : Operation}
    (h : r.DescribedBy c op) (ps : List Parameter) :
    r.DescribedBy c { op with parameters := ps } := by
  obtain ⟨hdescription, hconsumes, hproduces, hschemes, hname, hextensions⟩ := h
  exact ⟨hdescription, hconsumes, hproduces, hschemes, hname, hextensions⟩

/-- The operation of a method at a path. -/
def Document.operationAt? (d : Document) (path : String) (m : Method) : Option Operation :=
  (d.paths.find? path).bind fun item => item.slot m

/-- Sharing only touches the parameters of an operation. -/
theorem Document.operationAt?_shared (d : Document) (path : String) (m : Method) :
    d.shared.operationAt? path m = (d.operationAt? path m).map fun op =>
      { op with parameters := op.parameters.map d.sharedParameters.replace } := by
  rw [operationAt?, operationAt?, shared_paths, Dict.find?_map, Option.bind_map, Option.map_bind]
  exact congrArg _ (funext fun item => PathItem.slot_mapParameters _ item m)

namespace Config.Assembled

variable {c : Config} {sets : List RouteSet} {work : List WorkedPath} {draft : Draft}

/-- The operation of a method at a path of a draft is that of the last surviving route of the path that
has the method. -/
theorem operationAt?_eq_some_iff (h : c.Assembled sets work draft) (path : String) (m : Method)
    (op : Operation) :
    (c.inlineDocument draft).operationAt? path m = some op ↔
      ∃ s ∈ sets, ∃ g ∈ s.live c, ∃ r, g.path = path ∧ r.operationOf c g.common = .ok op ∧
        ((c.surviving sets).filter fun r => r.documentPath = path ∧ m.Matches r.method).getLast?
          = some r := by
  -- the surviving routes of a path are the supported ones of its group
  have hfilter : ∀ s ∈ sets, ∀ g ∈ s.live c,
      ((c.surviving sets).filter fun r => r.documentPath = g.path ∧ m.Matches r.method)
        = g.supported.filter fun r => m.Matches r.method := by
    intro s hs g hg
    rw [← Config.filter_surviving h.livePaths_nodup hs hg, List.filter_filter]
    exact List.filter_congr fun r _ => by rw [Bool.decide_and, Bool.and_comm]
  rw [Document.operationAt?, inlineDocument, secured_paths, Option.bind_eq_some_iff]
  constructor
  · rintro ⟨item, hitem, hslot⟩
    obtain ⟨s, hs, g, hg, w, hw, rfl, rfl⟩ := (h.find?_paths path item).1 hitem
    obtain ⟨r, hop, hlast⟩ := (PathGroup.slot_eq_some_iff hw m op).1 hslot
    exact ⟨s, hs, g, hg, r, rfl, hop, by rw [hfilter s hs g hg, hlast]⟩
  · rintro ⟨s, hs, g, hg, r, rfl, hop, hlast⟩
    obtain ⟨w, hw, hfind⟩ := h.exists_workedOut hs hg
    rw [hfilter s hs g hg] at hlast
    exact ⟨w.item, hfind, (PathGroup.slot_eq_some_iff hw m op).2 ⟨r, hop, hlast⟩⟩

/-- A method has an operation at a path of a draft when a surviving route of the path has it. -/
theorem isSome_operationAt?_iff (h : c.Assembled sets work draft) (path : String) (m : Method) :
    ((c.inlineDocument draft).operationAt? path m).isSome ↔
      ∃ r ∈ c.surviving sets, r.documentPath = path ∧ m.Matches r.method := by
  rw [Option.isSome_iff_exists]
  constructor
  · rintro ⟨op, hop⟩
    obtain ⟨s, hs, g, hg, r, -, -, hlast⟩ := (h.operationAt?_eq_some_iff path m op).1 hop
    obtain ⟨hr, hcond⟩ := List.mem_filter.1 (List.mem_of_getLast? hlast)
    exact ⟨r, hr, of_decide_eq_true hcond⟩
  · rintro ⟨r, hr, hpath, hm⟩
    obtain ⟨s, hs, hrs⟩ := (c.mem_surviving sets r).1 hr
    obtain ⟨g, hg, hmem, hgpath⟩ := RouteSet.exists_live_of_mem_surviving hrs
    obtain ⟨w, hw, hfind⟩ := h.exists_workedOut hs hg
    obtain ⟨op, hop⟩ := Option.isSome_iff_exists.1
      ((PathGroup.isSome_slot_iff hw m).2 ⟨r, hmem, hm⟩)
    refine ⟨op, ?_⟩
    rw [Document.operationAt?, inlineDocument, secured_paths, ← hpath, ← hgpath, hfind]
    exact hop

end Config.Assembled

/-- **Every slot is accounted for**: the paths of a built document are those of the surviving routes,
and the routes of one path come from one service and one registered path. A slot is filled exactly when
a surviving route of its path has its method, and then the last such route is the one that the
operation describes. -/
theorem RouteSet.buildDocument_slots {c : Config} (hc : c.complete = none) {sets : List RouteSet}
    {d : Document} (hd : RouteSet.buildDocument c sets = .ok d) :
    (∀ path, path ∈ d.paths.keys ↔ ∃ r ∈ c.surviving sets, r.documentPath = path) ∧
    (∀ (i j : Nat) s t r r', sets[i]? = some s → sets[j]? = some t → r ∈ s.surviving c →
      r' ∈ t.surviving c → r.documentPath = r'.documentPath → i = j ∧ r.path = r'.path) ∧
    ∀ path (m : Method),
      ((d.operationAt? path m).isSome ↔
        ∃ r ∈ c.surviving sets, r.documentPath = path ∧ m.Matches r.method) ∧
      ∀ op, d.operationAt? path m = some op → ∃ r, r.DescribedBy c op ∧
        ((c.surviving sets).filter fun r => r.documentPath = path ∧ m.Matches r.method).getLast?
          = some r := by
  obtain ⟨work, draft, h, rfl⟩ := (buildDocument_eq_ok_iff hc sets d).1 hd
  refine ⟨fun path => ?_, fun i j s t r r' hi hj hr hr' => Config.eq_of_documentPath_eq
    h.livePaths_nodup hi hj hr hr', fun path m => ⟨?_, fun op hop => ?_⟩⟩
  · rw [Document.shared_paths, Dict.keys_map, Config.inlineDocument, Config.secured_paths]
    exact h.mem_keys_paths_iff path
  · rw [Document.operationAt?_shared, Option.isSome_map]
    exact h.isSome_operationAt?_iff path m
  · -- sharing replaces parameters of the operation, and it describes its route all the same
    rw [Document.operationAt?_shared] at hop
    obtain ⟨op, hinline, rfl⟩ := Option.map_eq_some_iff.1 hop
    obtain ⟨s, hs, g, hg, r, hpath, hop, hlast⟩ := (h.operationAt?_eq_some_iff path m op).1 hinline
    exact ⟨r, (Route.describedBy_of_operationOf hop).withParameters _, hlast⟩

/-- A configuration that leaves out what begins with `/internal`. -/
def Config.filesOnly : Config where
  ignoredPrefixes := ["/internal"]

/-- Reading files is registered twice, tracing has no slot, and the second service is left out. -/
def RouteSet.files : List RouteSet :=
  [{ rootPath := "/files"
     routes :=
      [{ method := "GET", path := "/files/\x7bpath:*\x7d", operation := "read" },
        { method := "PUT", path := "/files/\x7bpath:*\x7d", operation := "write" },
        { method := "GET", path := "/files/\x7bpath:*\x7d", operation := "download" },
        { method := "TRACE", path := "/files", operation := "trace" }] },
    { rootPath := "/internal"
      routes := [{ method := "GET", path := "/internal", operation := "read" }] }]

/-- Of the two routes that read files the last one fills the slot. -/
theorem RouteSet.buildDocument_files :
    ∃ d, RouteSet.buildDocument Config.filesOnly RouteSet.files = .ok d ∧
      (∀ path, path ∈ d.paths.keys ↔ path = "/files/\x7bpath\x7d") ∧
      (∀ m, (d.operationAt? "/files/\x7bpath\x7d" m).isSome ↔ m = .get ∨ m = .put) ∧
      ∀ op, d.operationAt? "/files/\x7bpath\x7d" .get = some op → op.id = "download" := by
  have hbuilt : (RouteSet.buildDocument Config.filesOnly RouteSet.files).toOption.isSome := by
    decide +kernel
  have hpath : (Config.filesOnly.surviving RouteSet.files).map Route.documentPath
      = List.replicate 3 "/files/\x7bpath\x7d" := by decide +kernel
  have hlast : ((Config.filesOnly.surviving RouteSet.files).filter fun r =>
      r.documentPath = "/files/\x7bpath\x7d" ∧ Method.get.Matches r.method).getLast?.map
      Route.operation = some "download" := by decide +kernel
  obtain ⟨d, hd⟩ := Run.exists_of_isSome hbuilt
  obtain ⟨hpaths, -, hslots⟩ := buildDocument_slots rfl hd
  refine ⟨d, hd, fun path => ?_, fun m => ?_, fun op hop => ?_⟩
  · rw [hpaths, ← List.mem_map, hpath, List.mem_replicate]
    simp
  · rw [(hslots _ m).1]
    cases m <;> decide +kernel
  · obtain ⟨r, hr, hget⟩ := (hslots _ .get).2 op hop
    rw [hget] at hlast
    have hid : r.operation = op.id := congrArg Prod.fst (Except.ok.inj hr.name_eq)
    rw [← hid]
    exact Option.some.inj hlast

end Swagger
