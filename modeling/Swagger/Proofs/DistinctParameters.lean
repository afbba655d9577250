import Swagger.Proofs.Hoisting

/-! # Parameters that stand twice in one list
A route that declares a parameter twice is refused, so an operation has no two parameters of one name
and place. The list of a path joins what its service declares with what all its routes declare, and
nobody looks whether the two overlap, nor whether the service declares a parameter twice. So it can have
a parameter twice, and the conditions under which it has not are just those two.

* `ParameterKey.place` — the name and place that a declaration with a key comes out with.
* `Route.nodup_places` — the parameters of an operation are distinct.
* `PathGroup.nodup_places_iff` — when the parameters of a path are.
* `RouteSet.buildDocument_places` — the same for the lists of a document, once pointers are followed. -/

namespace Swagger

/-! ## Names and places -/

/-- The name and place of a parameter with a key. -/
def ParameterKey.place (k : ParameterKey) : String × String := (k.name, k.kind.location)

/-- Different keys are different places. -/
theorem ParameterKey.place_injective : Function.Injective ParameterKey.place := by
  rintro ⟨name, kind⟩ ⟨name', kind'⟩ h
  obtain ⟨hname, hlocation⟩ := Prod.mk.inj h
  obtain rfl : kind = kind' := ParameterKind.location_injective hlocation
  exact congrArg (ParameterKey.mk · kind) hname

namespace RouteParameter

variable {p : RouteParameter} {x : Parameter}

/-- A parameter outside the body stands in the place that its key names. -/
theorem place_of_buildSimple (h : p.buildSimple = .ok x) : x.place = p.key.place := by
  obtain ⟨hname, hlocation⟩ := name_location_of_buildSimple h
  rw [Parameter.place, hname, hlocation]
  rfl

/-- So does every parameter, the body included. -/
theorem place_of_parameterOf {c : Config} {body : Option String} (h : p.parameterOf c body = .ok x) :
    x.place = p.key.place := by
  obtain ⟨hname, hlocation⟩ := name_location_of_parameterOf h
  rw [Parameter.place, hname, hlocation]
  rfl

/-- Declarations have distinct keys exactly when they come out with distinct names and places. -/
theorem nodup_place_iff (ps : List RouteParameter) :
    (ps.map fun p => p.key.place).Nodup ↔ (ps.map key).Nodup := by
  rw [← List.nodup_map_iff ParameterKey.place_injective, List.map_map]
  rfl

end RouteParameter

/-! ## One path -/

/-- The parameters that a route without duplicates keeps for itself come out distinct. -/
theorem Route.nodup_places_of_mapM {c : Config} {common : Dict ParameterKey RouteParameter}
    {r : Route} {body : Option String} {xs : List Parameter}
    (h : (r.ownParameters common).mapM (RouteParameter.parameterOf c body) = .ok xs)
    (hn : (r.parameters.map RouteParameter.key).Nodup) : (xs.map Parameter.place).Nodup := by
  rw [Run.map_of_mapM_eq_ok h fun _ _ => RouteParameter.place_of_parameterOf,
    RouteParameter.nodup_place_iff]
  exact hn.sublist (List.filter_sublist.map _)

/-- So the parameters of its operation are distinct. -/
theorem Route.nodup_places {c : Config} {common : Dict ParameterKey RouteParameter} {r : Route}
    {op : Operation} (h : r.operationOf c common = .ok op)
    (hn : (r.parameters.map RouteParameter.key).Nodup) :
    (op.parameters.map Parameter.place).Nodup := by
  obtain ⟨name, xs, -, hxs, rfl⟩ := operationOf_eq_ok_iff.1 h
  rw [operationWith, ((Parameter.sort_perm xs).map Parameter.place).nodup_iff]
  exact nodup_places_of_mapM hxs hn

namespace PathGroup

variable {c : Config} {service : List RouteParameter} {g : PathGroup} {w : WorkedPath}

/-- What belongs to a path is stored under its keys. -/
theorem map_key_values_common (h : g.workedOut c service = .ok w) :
    g.common.values.map RouteParameter.key = g.common.keys := by
  rw [Dict.values, Dict.keys, List.map_map]
  refine List.map_congr_left fun e he => ?_
  have hfind := (Dict.mem_entries_iff (Route.sorted_common _) e.1 e.2).1 he
  exact ((Route.find?_common (nodup_keys_of_workedOut h) _ _).1 hfind).2.1

/-- The operations of a path have distinct parameters. -/
theorem nodup_places_slot (h : g.workedOut c service = .ok w) (m : Method) :
    ((w.item.parametersOf (some m)).map Parameter.place).Nodup := by
  cases hslot : w.item.slot m with
  | none => simp [PathItem.parametersOf, hslot]
  | some op =>
    obtain ⟨r, hop, hlast⟩ := (slot_eq_some_iff h m op).1 hslot
    have hr : r ∈ g.supported := (List.mem_filter.1 (List.mem_of_getLast? hlast)).1
    simpa [PathItem.parametersOf, hslot] using
      Route.nodup_places hop (nodup_keys_of_workedOut h r hr)

/-- **When the parameters of a path are distinct**: when its service declares none twice, and none that
all its routes declare. -/
theorem nodup_places_iff (h : g.workedOut c service = .ok w) (hne : g.supported ≠ []) :
    (w.item.parameters.map Parameter.place).Nodup ↔
      (service.map RouteParameter.key).Nodup ∧
        ∀ p ∈ service, ¬Route.AllDeclare g.supported p.key := by
  have hcommon : ∀ k, k ∈ g.common.keys ↔ Route.AllDeclare g.supported k := fun k => by
    rw [← Dict.contains_iff_mem_keys]
    exact Route.contains_common_iff hne (nodup_keys_of_workedOut h) k
  have hkeys := map_key_values_common h
  obtain ⟨inherited, shared, hinherited, hshared, hparameters⟩ := parameters_of_workedOut h
  rw [hparameters, ((Parameter.sort_perm _).map Parameter.place).nodup_iff,
    List.map_append, Run.map_of_mapM_eq_ok hinherited fun _ _ => RouteParameter.place_of_buildSimple,
    Run.map_of_mapM_eq_ok hshared fun _ _ => RouteParameter.place_of_buildSimple, ← List.map_append,
    RouteParameter.nodup_place_iff, List.map_append, hkeys, List.nodup_append]
  -- what the routes declare comes from a dictionary, where each key stands once
  have hnodup : g.common.keys.Nodup := (Route.sorted_common _).nodup_keys
  constructor
  · rintro ⟨hservice, -, hdisj⟩
    exact ⟨hservice, fun p hp hall =>
      hdisj _ (List.mem_map_of_mem hp) _ ((hcommon p.key).2 hall) rfl⟩
  · rintro ⟨hservice, hdisj⟩
    refine ⟨hservice, hnodup, fun k hk k' hk' heq => ?_⟩
    obtain ⟨p, hp, rfl⟩ := List.mem_map.1 hk
    exact hdisj p hp (heq ▸ (hcommon k').1 hk')

end PathGroup

/-! ## The whole document -/

/-- **Where a document has a parameter twice.** Once pointers are followed, the parameters of an
operation have distinct names and places. Those of a path have them exactly when its service declares
no parameter twice, and none that all surviving routes of the path declare. -/
theorem RouteSet.buildDocument_places {c : Config} (hc : c.complete = none) {sets : List RouteSet}
    {d : Document} (hd : RouteSet.buildDocument c sets = .ok d) :
    (∀ path item, d.inlinedPaths.find? path = some item → ∀ m : Method,
      ((item.parametersOf (some m)).map Parameter.place).Nodup) ∧
    ∀ s ∈ sets, ∀ r ∈ s.surviving c, ∃ item, d.inlinedPaths.find? r.documentPath = some item ∧
      (((item.parametersOf none).map Parameter.place).Nodup ↔
        (s.pathParameters.map RouteParameter.key).Nodup ∧
          ∀ p ∈ s.pathParameters, ¬Route.AllDeclare (c.routesOf sets r.documentPath) p.key) := by
  obtain ⟨work, draft, h, rfl⟩ := (buildDocument_eq_ok_iff hc sets d).1 hd
  have hpaths : (c.inlineDocument draft).shared.inlinedPaths = draft.paths := by
    rw [Document.inlinedPaths_shared h.isBuilt_of_parameterAt?, Config.inlineDocument,
      Config.secured_paths]
  rw [hpaths]
  refine ⟨fun path item hitem m => ?_, fun s hs r hr => ?_⟩
  · obtain ⟨s, hs, g, hg, w, hw, -, rfl⟩ := (h.find?_paths path item).1 hitem
    exact PathGroup.nodup_places_slot hw m
  · obtain ⟨g, hg, hmem, hpath⟩ := exists_live_of_mem_surviving hr
    obtain ⟨w, hw, hfind⟩ := h.exists_workedOut hs hg
    refine ⟨w.item, hpath ▸ hfind, ?_⟩
    rw [Config.routesOf, ← hpath, Config.filter_surviving h.livePaths_nodup hs hg]
    exact PathGroup.nodup_places_iff hw (List.ne_nil_of_mem hmem)

/-- A limit that may be asked for. -/
def RouteParameter.limit : RouteParameter := .declare .query "limit" "How many"

/-- List files, as many as are asked for. -/
def Route.listFiles : Route :=
  { method := "GET", path := "/files", operation := "listFiles", parameters := [.limit] }

/-- A service that declares the limit which its only route declares too. -/
def RouteSet.limited : RouteSet :=
  { rootPath := "/files", pathParameters := [.limit], routes := [.listFiles] }

/-- The path of that route has the limit twice; the operation there has nothing twice. -/
theorem RouteSet.buildDocument_places_limited :
    ∃ d item, RouteSet.buildDocument {} [RouteSet.limited] = .ok d ∧
      d.inlinedPaths.find? "/files" = some item ∧
      ¬((item.parametersOf none).map Parameter.place).Nodup ∧
      ((item.parametersOf (some .get)).map Parameter.place).Nodup := by
  have hbuilt : (RouteSet.buildDocument {} [RouteSet.limited]).toOption.isSome := by decide +kernel
  have hroutes : limited.surviving {} = [.listFiles] ∧
      Config.routesOf {} [limited] Route.listFiles.documentPath = [.listFiles] ∧
      Route.listFiles.documentPath = "/files" := by decide +kernel
  obtain ⟨hsurv, hroutes, hpath⟩ := hroutes
  have hmem : Route.listFiles ∈ limited.surviving {} := hsurv ▸ List.mem_singleton_self _
  obtain ⟨d, hd⟩ := Run.exists_of_isSome hbuilt
  obtain ⟨hslots, hpaths⟩ := buildDocument_places rfl hd
  obtain ⟨item, hitem, hiff⟩ := hpaths limited (List.mem_singleton_self _) _ hmem
  refine ⟨d, item, hd, hpath ▸ hitem, fun hn => ?_, hslots _ item hitem .get⟩
  -- the only route declares the limit, so all routes do
  refine (hiff.1 hn).2 .limit (List.mem_singleton_self _) ?_
  rw [hroutes]
  exact ⟨by decide, fun r hr => ⟨.limit, List.mem_singleton.1 hr ▸ List.mem_singleton_self _, rfl⟩⟩

/-- So a document may have a parameter twice in one list, though a route may not declare it twice. -/
theorem RouteSet.buildDocument_places_unchecked :
    ¬∀ (c : Config) (sets : List RouteSet) (d : Document), c.complete = none →
      RouteSet.buildDocument c sets = .ok d → ∀ path item, d.inlinedPaths.find? path = some item →
        ∀ m : Option Method, ((item.parametersOf m).map Parameter.place).Nodup := by
  intro hall
  have hbuilt : (RouteSet.buildDocument {} [RouteSet.limited]).toOption.map (fun d =>
      (d.inlinedPaths.find? "/files").map fun item => item.parameters.map Parameter.place)
        = some (some [("limit", "query"), ("limit", "query")]) := by decide +kernel
  obtain ⟨d, hd, hplaces⟩ := Run.exists_of_map_eq_some hbuilt
  obtain ⟨item, hitem, hplaces⟩ := Option.map_eq_some_iff.1 hplaces
  have hn := hall {} [.limited] d rfl hd "/files" item hitem none
  rw [PathItem.parametersOf, hplaces] at hn
  exact absurd hn (by decide)

end Swagger
