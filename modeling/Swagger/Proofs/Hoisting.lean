import Swagger.Proofs.Parameters

/-! # Whether operations have the parameters of their routes
A parameter that all routes of a path declare is written once, at the path, as the last route declares
it, beside the parameters of the service. The other routes' declarations are then not looked at any
more: they are not checked, and an operation shows a parameter as its route declares it just when the
last route and the service, where they have the key at all, declare it alike. Whatever stays with its
route is checked and shown as declared.

* `Parameter.override` — parameters together with those that they do not override.
* `Parameter.IsThe` — a parameter of a list that no other one with its name and place differs from.
* `PathGroup.isThe_iff` — when the parameters of one path show a declaration as it is.
* `Document.effectiveParameters` — what an operation takes once pointers are followed.
* `RouteSet.buildDocument_parameters` — when a document shows a declaration as it is. -/

namespace Swagger

/-! ## The parameters that count -/

namespace Parameter

/-- Parameters together with those of others that none of them has the name and place of. -/
def override (own others : List Parameter) : List Parameter :=
  own ++ others.filter fun q => !own.any fun p => p.name == q.name && p.location == q.location

/-- A parameter is there if it is an own one, or one of the others that no own one replaces. -/
theorem mem_override {own others : List Parameter} {x : Parameter} : x ∈ override own others ↔
    x ∈ own ∨ x ∈ others ∧ ∀ p ∈ own, p.name = x.name → p.location ≠ x.location := by
  simp [override]

/-- A parameter is the one of a list with its name and place. -/
def IsThe (x : Parameter) (ps : List Parameter) : Prop :=
  x ∈ ps ∧ ∀ q ∈ ps, q.name = x.name → q.location = x.location → q = x

end Parameter

/-! ## One path -/

namespace PathGroup

variable {c : Config} {service : List RouteParameter} {g : PathGroup} {w : WorkedPath} {r : Route}
  {op : Operation} {p : RouteParameter}

/-- A key that some route does not declare stays with the routes that do. -/
theorem contains_common_eq_false (hw : g.workedOut c service = .ok w) (hr : r ∈ g.supported)
    (hall : ¬Route.AllDeclare g.supported p.key) : g.common.contains p.key = false := by
  rw [← Bool.not_eq_true]
  intro hcommon
  exact hall ((Route.contains_common_iff (List.ne_nil_of_mem hr) (nodup_keys_of_workedOut hw)
    p.key).1 hcommon)

/-- What stays with its route is shown as declared: the operation has no other parameter with the key,
and overrides those of the path. -/
theorem isThe_of_own (hw : g.workedOut c service = .ok w) (hr : r ∈ g.supported)
    (hop : r.operationOf c g.common = .ok op) (hp : p ∈ r.parameters)
    (hown : g.common.contains p.key = false) : ∃ x, p.parameterOf c r.reads = .ok x ∧
      x.IsThe (Parameter.override op.parameters w.item.parameters) := by
  obtain ⟨x, hx⟩ := Route.exists_parameterOf hop hp hown
  obtain ⟨hname, hlocation⟩ := RouteParameter.name_location_of_parameterOf hx
  have hmem : x ∈ op.parameters := (Route.mem_parameters_iff hop x).2 ⟨p, hp, hown, hx⟩
  refine ⟨x, hx, Parameter.mem_override.2 (Or.inl hmem), fun q hq hqname hqlocation => ?_⟩
  rcases Parameter.mem_override.1 hq with hq | ⟨-, hnone⟩
  · -- a parameter of the operation comes from a declaration, of which there is one for the key
    obtain ⟨p', hp', -, hp'q⟩ := (Route.mem_parameters_iff hop q).1 hq
    obtain ⟨hname', hlocation'⟩ := RouteParameter.name_location_of_parameterOf hp'q
    have hkey : p'.key = p.key := RouteParameter.key_eq_of_name_location
      (hname'.symm.trans (hqname.trans hname)) (hlocation'.symm.trans (hqlocation.trans hlocation))
    obtain rfl := Route.eq_of_key_eq (nodup_keys_of_workedOut hw r hr) hp' hp hkey
    exact Except.ok.inj (hp'q.symm.trans hx)
  · exact absurd hqlocation.symm (hnone x hmem hqname.symm)

/-- An operation has nothing with a key that belongs to the path. -/
theorem location_ne_of_common (hop : r.operationOf c g.common = .ok op)
    (hcommon : g.common.contains p.key = true) {y : Parameter} (hy : y ∈ op.parameters)
    (hname : y.name = p.name) : y.location ≠ p.kind.location := by
  intro hlocation
  obtain ⟨q, -, hown, hq⟩ := (Route.mem_parameters_iff hop y).1 hy
  obtain ⟨hname', hlocation'⟩ := RouteParameter.name_location_of_parameterOf hq
  have hkey : q.key = p.key := RouteParameter.key_eq_of_name_location (hname'.symm.trans hname)
    (hlocation'.symm.trans hlocation)
  rw [hkey, hcommon] at hown
  exact nomatch hown

/-- For a key that belongs to the path, what counts are the declarations of the path with the key. -/
theorem mem_override_of_common (hw : g.workedOut c service = .ok w)
    (hop : r.operationOf c g.common = .ok op) (hcommon : g.common.contains p.key = true)
    (x : Parameter) :
    x ∈ Parameter.override op.parameters w.item.parameters ∧ x.name = p.name ∧
        x.location = p.kind.location ↔
      ∃ q, g.Declares service q ∧ q.key = p.key ∧ q.buildSimple = .ok x := by
  rw [Parameter.mem_override, mem_parameters_iff hw]
  constructor
  · rintro ⟨hx | ⟨⟨q, hq, hqx⟩, -⟩, hname, hlocation⟩
    · exact absurd hlocation (location_ne_of_common hop hcommon hx hname)
    · obtain ⟨hname', hlocation'⟩ := RouteParameter.name_location_of_buildSimple hqx
      exact ⟨q, hq, RouteParameter.key_eq_of_name_location (hname'.symm.trans hname)
        (hlocation'.symm.trans hlocation), hqx⟩
  · rintro ⟨q, hq, hkey, hqx⟩
    obtain ⟨hname, hlocation⟩ := RouteParameter.name_location_of_buildSimple hqx
    have hqname : q.name = p.name := congrArg ParameterKey.name hkey
    have hqkind : q.kind = p.kind := congrArg ParameterKey.kind hkey
    rw [hqname] at hname
    rw [hqkind] at hlocation
    refine ⟨Or.inr ⟨⟨q, hq, hqx⟩, fun y hy hyname => ?_⟩, hname, hlocation⟩
    rw [hlocation]
    exact location_ne_of_common hop hcommon hy (hyname.trans hname)

/-- A declaration whose key belongs to the path is shown as it is just when it looks like all the
declarations of the path with its key. -/
theorem isThe_iff_of_common (hw : g.workedOut c service = .ok w) (hr : r ∈ g.supported)
    (hop : r.operationOf c g.common = .ok op) (hall : Route.AllDeclare g.supported p.key) :
    (∃ x, p.parameterOf c r.reads = .ok x ∧
        x.IsThe (Parameter.override op.parameters w.item.parameters)) ↔
      ∀ q, g.Declares service q → q.key = p.key → p.LooksLike q := by
  have hcommon : g.common.contains p.key = true :=
    (Route.contains_common_iff (List.ne_nil_of_mem hr) (nodup_keys_of_workedOut hw) p.key).2 hall
  have hmem := mem_override_of_common hw hop hcommon
  rw [RouteParameter.parameterOf_of_kind_ne_body hall.1]
  constructor
  · rintro ⟨x, hx, -, hthe⟩ q hq hkey
    obtain ⟨y, hy⟩ := exists_buildSimple hw hq
    obtain ⟨hy', hname, hlocation⟩ := (hmem y).2 ⟨q, hq, hkey, hy⟩
    obtain ⟨hxname, hxlocation⟩ := RouteParameter.name_location_of_buildSimple hx
    -- the parameter of another declaration with the key can only be `x` again
    obtain rfl : y = x := hthe y hy' (hname.trans hxname.symm) (hlocation.trans hxlocation.symm)
    exact (RouteParameter.buildSimple_eq_iff_looksLike hkey.symm hy).1 hx
  · intro halike
    -- the last route has a declaration with the key, and its parameter stands at the path
    have hlast := List.getLast?_eq_some_getLast (List.ne_nil_of_mem hr)
    obtain ⟨q, hq, hkey⟩ := hall.2 _ (List.mem_of_getLast? hlast)
    have hdeclares : g.Declares service q := Or.inr ⟨by rwa [hkey], _, hlast, hq⟩
    obtain ⟨x, hx⟩ := exists_buildSimple hw hdeclares
    have hpx := (RouteParameter.buildSimple_eq_iff_looksLike hkey.symm hx).2
      (halike q hdeclares hkey)
    obtain ⟨hin, hname, hlocation⟩ := (hmem x).2 ⟨q, hdeclares, hkey, hx⟩
    refine ⟨x, hpx, hin, fun y hy hyname hylocation => ?_⟩
    obtain ⟨q', hq', hkey', hy'⟩ :=
      (hmem y).1 ⟨hy, hyname.trans hname, hylocation.trans hlocation⟩
    have hpy := (RouteParameter.buildSimple_eq_iff_looksLike hkey'.symm hy').2
      (halike q' hq' hkey')
    exact Except.ok.inj (hpy.symm.trans hpx)

/-- **When a path shows a declaration as it is**: always where the declaration stays with its route,
and else just when it looks like all the declarations of the path with its key. -/
theorem isThe_iff (hw : g.workedOut c service = .ok w) (hr : r ∈ g.supported)
    (hop : r.operationOf c g.common = .ok op) (hp : p ∈ r.parameters) :
    (∃ x, p.parameterOf c r.reads = .ok x ∧
        x.IsThe (Parameter.override op.parameters w.item.parameters)) ↔
      (Route.AllDeclare g.supported p.key →
        ∀ q, g.Declares service q → q.key = p.key → p.LooksLike q) := by
  by_cases hall : Route.AllDeclare g.supported p.key
  · rw [isThe_iff_of_common hw hr hop hall]
    exact ⟨fun h _ => h, fun h => h hall⟩
  · have hown := contains_common_eq_false hw hr hall
    exact ⟨fun _ h => absurd h hall, fun _ => isThe_of_own hw hr hop hp hown⟩

/-- What is declared is checked where not all routes declare the key, and in the last route. -/
theorem exists_parameterOf (hw : g.workedOut c service = .ok w) (hr : r ∈ g.supported)
    (hp : p ∈ r.parameters)
    (h : ¬Route.AllDeclare g.supported p.key ∨ g.supported.getLast? = some r) :
    ∃ x, p.parameterOf c r.reads = .ok x := by
  by_cases hall : Route.AllDeclare g.supported p.key
  · have hlast := h.resolve_left fun hnot => hnot hall
    rw [RouteParameter.parameterOf_of_kind_ne_body hall.1]
    exact exists_buildSimple hw (Or.inr ⟨hall, r, hlast, hp⟩)
  · obtain ⟨-, item, operations, -, hops, -⟩ := workedOut_eq_ok_iff.1 hw
    obtain ⟨op, -, hop⟩ := Run.exists_of_mapM_eq_ok hops hr
    exact Route.exists_parameterOf hop hp (contains_common_eq_false hw hr hall)

end PathGroup

/-! ## The whole document -/

namespace Document

/-- What the operation of a method at a path takes, its own parameters and those of the path that they
do not override, once pointers are followed. -/
def effectiveParameters (d : Document) (path : String) (m : Method) : List Parameter :=
  match d.paths.find? path with
  | none => []
  | some item => Parameter.override ((item.parametersOf (some m)).map d.inline)
      ((item.parametersOf none).map d.inline)

/-- Where the builder made all parameters of a document, those that count in its shared form are those
that counted before. -/
theorem effectiveParameters_shared {d : Document}
    (hd : ∀ s p, d.parameterAt? s = some p → p.IsBuilt) {path : String} {item : PathItem}
    (h : d.paths.find? path = some item) (m : Method) :
    d.shared.effectiveParameters path m
      = Parameter.override (item.parametersOf (some m)) (item.parametersOf none) := by
  -- in every list of the path, following the pointers undoes sharing
  have hinline : ∀ m, ((item.parametersOf m).map d.sharedParameters.replace).map d.shared.inline
      = item.parametersOf m := by
    intro m
    rw [List.map_map, List.map_congr_left fun p hp => ?_, List.map_id']
    obtain ⟨n, hn⟩ := List.mem_iff_getElem?.1 (Dict.mem_entries_of_find? h)
    obtain ⟨i, hi⟩ := List.mem_iff_getElem?.1 hp
    exact inline_replace hd (s := ⟨n, m, i⟩) (by simpa [parameterAt?, hn] using hi)
  simp only [effectiveParameters, shared_paths, Dict.find?_map, h, Option.map_some,
    PathItem.parametersOf_mapParameters, hinline]

end Document

/-- What counts for an operation of a document are its own parameters, and those of its path that they
do not override. -/
theorem Config.Assembled.effectiveParameters_eq {c : Config} {sets : List RouteSet}
    {work : List WorkedPath} {draft : Draft} (h : c.Assembled sets work draft) {path : String}
    {item : PathItem} (hitem : draft.paths.find? path = some item) {m : Method} {op : Operation}
    (hop : item.slot m = some op) :
    (c.inlineDocument draft).shared.effectiveParameters path m
      = Parameter.override op.parameters item.parameters := by
  have hfind : (c.inlineDocument draft).paths.find? path = some item := by
    rw [inlineDocument, secured_paths, hitem]
  rw [Document.effectiveParameters_shared h.isBuilt_of_parameterAt? hfind]
  simp [PathItem.parametersOf, hop]

/-- The surviving routes of a path. -/
def Config.routesOf (c : Config) (sets : List RouteSet) (path : String) : List Route :=
  (c.surviving sets).filter fun r => r.documentPath = path

/-- **When a document shows a declaration as it is.** Let a route fill a slot. The operation in the slot
has just the parameter that a declaration of the route stands for, unless all routes of the path
declare its key outside the body; and then it has it exactly when the last route and the service
declare the key alike. What is declared is checked where not all routes declare the key, or where the
route is the last of its path. -/
theorem RouteSet.buildDocument_parameters {c : Config} (hc : c.complete = none)
    {sets : List RouteSet} {d : Document} (hd : RouteSet.buildDocument c sets = .ok d) {s : RouteSet}
    (hs : s ∈ sets) {r : Route} (hr : r ∈ s.surviving c) {p : RouteParameter}
    (hp : p ∈ r.parameters) :
    (∀ m : Method, ((c.routesOf sets r.documentPath).filter fun r => m.Matches r.method).getLast?
        = some r →
      ((∃ x, p.parameterOf c r.reads = .ok x ∧
          x.IsThe (d.effectiveParameters r.documentPath m)) ↔
        (Route.AllDeclare (c.routesOf sets r.documentPath) p.key → ∀ q,
          (q ∈ s.pathParameters ∨
            ∃ last, (c.routesOf sets r.documentPath).getLast? = some last ∧ q ∈ last.parameters) →
          q.key = p.key → p.LooksLike q))) ∧
    (¬Route.AllDeclare (c.routesOf sets r.documentPath) p.key ∨
        (c.routesOf sets r.documentPath).getLast? = some r →
      ∃ x, p.parameterOf c r.reads = .ok x) := by
  obtain ⟨work, draft, h, rfl⟩ := (buildDocument_eq_ok_iff hc sets d).1 hd
  obtain ⟨g, hg, hmem, hpath⟩ := exists_live_of_mem_surviving hr
  obtain ⟨w, hw, hfind⟩ := h.exists_workedOut hs hg
  have hroutes : c.routesOf sets r.documentPath = g.supported := by
    rw [← hpath]
    exact Config.filter_surviving h.livePaths_nodup hs hg
  rw [hroutes]
  refine ⟨fun m hlast => ?_, PathGroup.exists_parameterOf hw hmem hp⟩
  obtain ⟨-, item, operations, -, hops, -⟩ := PathGroup.workedOut_eq_ok_iff.1 hw
  obtain ⟨op, -, hop⟩ := Run.exists_of_mapM_eq_ok hops hmem
  have hslot : w.item.slot m = some op := (PathGroup.slot_eq_some_iff hw m op).2 ⟨r, hop, hlast⟩
  rw [hpath] at hfind
  rw [h.effectiveParameters_eq hfind hslot, PathGroup.isThe_iff hw hmem hop hp]
  -- the declarations of the path are those of the service and of the last route
  refine forall_congr' fun hall => forall_congr' fun q => ?_
  constructor
  · rintro halike hq hkey
    exact halike (hq.imp_right fun hlast => ⟨by rwa [hkey], hlast⟩) hkey
  · rintro halike hq hkey
    exact halike (hq.imp_right And.right) hkey

/-- The parameter of a path that names an item. -/
def RouteParameter.itemId (required : Bool) : RouteParameter :=
  { RouteParameter.declare .path "id" "The item" with required := required }

/-- Reading an item, which does not ask for its name. -/
def Route.getItem : Route :=
  { method := "GET", path := "/items/\x7bid\x7d", operation := "getItem",
    parameters := [.itemId false] }

/-- Writing an item, which does. -/
def Route.putItem : Route :=
  { method := "PUT", path := "/items/\x7bid\x7d", operation := "putItem",
    parameters := [.itemId true] }

/-- Items that can be read and written. -/
def RouteSet.items : RouteSet := { rootPath := "/items", routes := [.getItem, .putItem] }

/-- Both routes for items survive, and they share a path. -/
theorem RouteSet.surviving_items :
    RouteSet.items.surviving {} = [.getItem, .putItem] ∧
      Config.routesOf {} [RouteSet.items] "/items/\x7bid\x7d" = [.getItem, .putItem] := by
  decide +kernel

/-- A document is built from them. -/
theorem RouteSet.exists_buildDocument_items :
    ∃ d, RouteSet.buildDocument {} [RouteSet.items] = .ok d :=
  Run.exists_of_isSome (by decide +kernel)

/-- Items can be written with the name that is asked for. They can be read with it too, though the
route that reads them does not ask for it, and could not have been built so. -/
theorem RouteSet.buildDocument_parameters_items :
    ∃ d, RouteSet.buildDocument {} [RouteSet.items] = .ok d ∧
      (∃ x, (RouteParameter.itemId true).parameterOf {} none = .ok x ∧
        x.IsThe (d.effectiveParameters "/items/\x7bid\x7d" .put)) ∧
      ¬∃ x, (RouteParameter.itemId false).parameterOf {} none = .ok x ∧
        x.IsThe (d.effectiveParameters "/items/\x7bid\x7d" .get) := by
  obtain ⟨d, hd⟩ := exists_buildDocument_items
  obtain ⟨hsurv, hroutes⟩ := surviving_items
  have hput := (buildDocument_parameters rfl hd (List.mem_singleton_self _)
    (hsurv ▸ List.mem_cons_of_mem _ List.mem_cons_self : Route.putItem ∈ items.surviving {})
    (List.mem_singleton_self (RouteParameter.itemId true))).1 .put
  have hget := (buildDocument_parameters rfl hd (List.mem_singleton_self _)
    (hsurv ▸ List.mem_cons_self : Route.getItem ∈ items.surviving {})
    (List.mem_singleton_self (RouteParameter.itemId false))).1 .get
  have hpaths : Route.getItem.documentPath = "/items/\x7bid\x7d" ∧
      Route.putItem.documentPath = "/items/\x7bid\x7d" := by decide +kernel
  rw [hpaths.2, hroutes] at hput
  rw [hpaths.1, hroutes] at hget
  refine ⟨d, hd, (hput (by decide +kernel)).2 fun _ q hq hkey => ?_, fun hshown => ?_⟩
  · obtain hq | ⟨last, hlast, hq⟩ := hq
    · cases hq
    · obtain rfl : Route.putItem = last := Option.some.inj hlast
      rw [List.mem_singleton.1 hq]
      exact ⟨rfl, rfl, rfl, rfl⟩
  · have hall : Route.AllDeclare [.getItem, .putItem] (RouteParameter.itemId false).key :=
      ⟨by decide, by simp [Route.getItem, Route.putItem, RouteParameter.itemId, RouteParameter.key]⟩
    have halike := (hget (by decide +kernel)).1 hshown hall (.itemId true)
      (Or.inr ⟨.putItem, rfl, List.mem_singleton_self _⟩) rfl
    exact absurd halike.required_eq Bool.false_ne_true

/-- An operation may lack what its route declares: that the name of an item may be missing is neither
refused nor shown, since another route of the path asks for the name. -/
theorem RouteSet.buildDocument_parameters_unchecked :
    ¬∀ (c : Config) (sets : List RouteSet) (d : Document), c.complete = none →
      RouteSet.buildDocument c sets = .ok d → ∀ s ∈ sets, ∀ r ∈ s.surviving c, ∀ m : Method,
        ((c.routesOf sets r.documentPath).filter fun r => m.Matches r.method).getLast? = some r →
        ∀ p ∈ r.parameters, ∃ x, p.parameterOf c r.reads = .ok x ∧
          x.IsThe (d.effectiveParameters r.documentPath m) := by
  intro hall
  obtain ⟨d, hd⟩ := exists_buildDocument_items
  obtain ⟨hsurv, hroutes⟩ := surviving_items
  have hget : Route.getItem ∈ items.surviving {} := hsurv ▸ List.mem_cons_self
  have hlast : ((Config.routesOf {} [RouteSet.items] "/items/\x7bid\x7d").filter fun r =>
      Method.get.Matches r.method).getLast? = some .getItem := by
    rw [hroutes]
    decide +kernel
  obtain ⟨x, hx, -⟩ := hall {} [items] d rfl hd items (List.mem_singleton_self _) .getItem hget .get
    hlast (.itemId false) (List.mem_singleton_self _)
  cases hx

end Swagger
