import Swagger.Proofs.DistinctParameters

/-! # How declared parameters are divided
What all routes of a path declare outside the body belongs to the path, and everything else stays with
its route. Every declaration goes to just one of the two, since both are told by the same condition; and
the builder only changes the order of what goes there.

* `Route.hoisted`, `Route.kept` — the declarations that go to the path, and those that stay.
* `PathItem.Divided` — the parameters of a path and its operations are these, in some order.
* `PathItem.Accounted` — none is lost, none is at both places, none comes from elsewhere.
* `RouteSet.buildDocument_partition` — both hold at every path of a document. -/

namespace Swagger

/-! ## The declarations of a path -/

namespace Route

instance (routes : List Route) (k : ParameterKey) : Decidable (AllDeclare routes k) :=
  inferInstanceAs (Decidable (_ ∧ _))

/-- What all routes of a path declare outside the body, as the last of them declares it. -/
def hoisted (routes : List Route) : List RouteParameter :=
  match routes.getLast? with
  | none => []
  | some last => last.parameters.filter fun p => AllDeclare routes p.key

/-- What one of the routes of a path keeps of what it declares. -/
def kept (routes : List Route) (r : Route) : List RouteParameter :=
  r.parameters.filter fun p => ¬AllDeclare routes p.key

variable {routes : List Route}

/-- A route keeps its bodies, and what some route does not declare. -/
theorem mem_kept_iff {r : Route} {p : RouteParameter} : p ∈ kept routes r ↔
    p ∈ r.parameters ∧ (p.kind = .body ∨ ∃ r' ∈ routes, ∀ q ∈ r'.parameters, q.key ≠ p.key) := by
  rw [kept, List.mem_filter, decide_eq_true_eq, AllDeclare, not_and_or, not_ne_iff]
  push Not
  rfl

/-- For each key that all routes declare, one declaration goes to the path, and no other one does. -/
theorem keys_hoisted (hne : routes ≠ [])
    (hn : ∀ r ∈ routes, (r.parameters.map RouteParameter.key).Nodup) :
    ((hoisted routes).map RouteParameter.key).Nodup ∧
      ∀ k, k ∈ (hoisted routes).map RouteParameter.key ↔ AllDeclare routes k := by
  have hlast := List.getLast?_eq_some_getLast hne
  have hmem := List.mem_of_getLast? hlast
  rw [hoisted, hlast]
  refine ⟨(hn _ hmem).sublist (List.filter_sublist.map _), fun k => ?_⟩
  rw [List.mem_map]
  constructor
  · rintro ⟨p, hp, rfl⟩
    exact of_decide_eq_true (List.mem_filter.1 hp).2
  · intro hall
    obtain ⟨p, hp, rfl⟩ := hall.2 _ hmem
    exact ⟨p, List.mem_filter.2 ⟨hp, decide_eq_true hall⟩, rfl⟩

/-- The dictionary of a path has just the declarations that go there. -/
theorem values_common_perm (hn : ∀ r ∈ routes, (r.parameters.map RouteParameter.key).Nodup) :
    (common routes).values.Perm (hoisted routes) := by
  unfold common hoisted
  cases hlast : routes.getLast? with
  | none => exact .rfl
  | some last =>
    have hfilter : (last.parameters.filter fun p =>
        p.kind != .body && routes.all fun r => r.declares p.key)
          = last.parameters.filter fun p => AllDeclare routes p.key := by
      refine List.filter_congr fun p _ => Bool.eq_iff_iff.2 ?_
      simp [AllDeclare, declares, RouteParameter.key]
    have hnodup := hn last (List.mem_of_getLast? hlast)
    show (Dict.ofList ((last.parameters.filter fun p =>
        p.kind != .body && routes.all fun r => r.declares p.key).map fun p => (p.key, p))).values.Perm
      (last.parameters.filter fun p => AllDeclare routes p.key)
    rw [hfilter]
    refine (Dict.values_ofList_perm ?_).trans ?_
    · rw [List.map_map]
      exact hnodup.sublist (List.filter_sublist.map _)
    · rw [List.map_map, Function.comp_def, List.map_id']

/-- What a route keeps is what the dictionary of its path does not have. -/
theorem ownParameters_common (hne : routes ≠ [])
    (hn : ∀ r ∈ routes, (r.parameters.map RouteParameter.key).Nodup) (r : Route) :
    r.ownParameters (common routes) = kept routes r := by
  refine List.filter_congr fun p _ => Bool.eq_iff_iff.2 ?_
  rw [Bool.not_eq_true', ← Bool.not_eq_true, contains_common_iff hne hn, decide_eq_true_eq]

end Route

/-- The parameters of an operation are those that its route keeps for itself, in some order. -/
theorem Route.exists_own_of_operationOf {c : Config} {common : Dict ParameterKey RouteParameter}
    {r : Route} {op : Operation} (h : r.operationOf c common = .ok op) :
    ∃ own, (r.ownParameters common).mapM (RouteParameter.parameterOf c r.reads) = .ok own ∧
      op.parameters.Perm own := by
  obtain ⟨name, own, -, hown, rfl⟩ := operationOf_eq_ok_iff.1 h
  exact ⟨own, hown, Parameter.sort_perm own⟩

namespace RouteParameter

/-- Where parameters have the names and places of declarations, one has those of a key exactly when
something with the key is declared. -/
theorem exists_place_iff {xs : List Parameter} {ps : List RouteParameter}
    (h : (xs.map Parameter.place).Perm (ps.map fun p => p.key.place)) (k : ParameterKey) :
    (∃ x ∈ xs, x.place = k.place) ↔ ∃ p ∈ ps, p.key = k := by
  rw [← List.mem_map, h.mem_iff, List.mem_map]
  simp only [ParameterKey.place_injective.eq_iff]

/-- A body is built with the schema of a model. -/
theorem exists_model_of_body {c : Config} {body : Option String} {p : RouteParameter} {x : Parameter}
    (hp : p.kind = .body) (h : p.parameterOf c body = .ok x) :
    ∃ model, body = some model ∧ p.bodyWith (c.schemaOf model) = x := by
  unfold parameterOf at h
  rw [hp] at h
  cases body with
  | some model => exact ⟨model, rfl, Except.ok.inj h⟩
  | none => exact absurd hp ((p.buildSimple_eq_ok_iff x).1 h).1

end RouteParameter

/-! ## The parameters of a path -/

namespace PathItem

/-- The parameters of a path and its operations are those declared there, in some order. -/
structure Divided (c : Config) (service : List RouteParameter) (routes : List Route)
    (item : PathItem) : Prop where
  /-- The path has what the service declares and what all routes declare, as the last one does. -/
  path_perm : ∃ inherited hoisted, service.mapM RouteParameter.buildSimple = .ok inherited ∧
    (Route.hoisted routes).mapM RouteParameter.buildSimple = .ok hoisted ∧
      item.parameters.Perm (inherited ++ hoisted)
  /-- For each key that all routes declare, one declaration goes to the path. -/
  hoisted_keys : ((Route.hoisted routes).map RouteParameter.key).Nodup ∧
    ∀ k, k ∈ (Route.hoisted routes).map RouteParameter.key ↔ Route.AllDeclare routes k
  /-- The operation of the last route with a method has what this keeps. -/
  slot_perm : ∀ (m : Method) r, (routes.filter fun r => m.Matches r.method).getLast? = some r →
    ∃ op own, item.slot m = some op ∧
      (Route.kept routes r).mapM (RouteParameter.parameterOf c r.reads) = .ok own ∧
        op.parameters.Perm own
  /-- Every operation is that of the last route with its method. -/
  exists_last : ∀ (m : Method) op, item.slot m = some op →
    ∃ r, (routes.filter fun r => m.Matches r.method).getLast? = some r

/-- Of what a route declares none is lost, none is at the path and in the operation on its account, and
nothing else is in either. -/
structure Accounted (c : Config) (service : List RouteParameter) (routes : List Route)
    (item : PathItem) (r : Route) (op : Operation) : Prop where
  /-- What all routes declare is at the path, and not in the operation. -/
  hoisted : ∀ p ∈ r.parameters, Route.AllDeclare routes p.key →
    (∃ x ∈ item.parameters, x.place = p.key.place) ∧ ∀ x ∈ op.parameters, x.place ≠ p.key.place
  /-- What some route does not declare is in the operation, and at the path only for the service. -/
  kept : ∀ p ∈ r.parameters, ¬Route.AllDeclare routes p.key →
    (∃ x ∈ op.parameters, x.place = p.key.place) ∧
      ∀ x ∈ item.parameters, x.place = p.key.place → ∃ q ∈ service, q.key = p.key
  /-- A body has the schema of the sample of the route. -/
  body : ∀ p ∈ r.parameters, p.kind = .body →
    ∃ model, r.reads = some model ∧ p.bodyWith (c.schemaOf model) ∈ op.parameters
  /-- What is in the operation is declared by its route. -/
  own_declared : ∀ x ∈ op.parameters, ∃ p ∈ r.parameters, x.place = p.key.place
  /-- What is at the path is declared by the service or by the route. -/
  path_declared : ∀ x ∈ item.parameters,
    (∃ q ∈ service, x.place = q.key.place) ∨ ∃ p ∈ r.parameters, x.place = p.key.place

variable {c : Config} {service : List RouteParameter} {routes : List Route} {item : PathItem}

/-- The names and places at a path are those of the declarations that go there. -/
theorem Divided.path_places (h : item.Divided c service routes) :
    (item.parameters.map Parameter.place).Perm
      ((service ++ Route.hoisted routes).map fun p => p.key.place) := by
  obtain ⟨inherited, hoisted, hinherited, hhoisted, hperm⟩ := h.path_perm
  refine (hperm.map Parameter.place).trans (List.Perm.of_eq ?_)
  rw [List.map_append, List.map_append,
    Run.map_of_mapM_eq_ok hinherited fun _ _ => RouteParameter.place_of_buildSimple,
    Run.map_of_mapM_eq_ok hhoisted fun _ _ => RouteParameter.place_of_buildSimple]

/-- A key stands at a path where its service declares it, or all its routes do. -/
theorem Divided.exists_at_path_iff (h : item.Divided c service routes) (k : ParameterKey) :
    (∃ x ∈ item.parameters, x.place = k.place) ↔
      (∃ q ∈ service, q.key = k) ∨ Route.AllDeclare routes k := by
  rw [RouteParameter.exists_place_iff h.path_places, ← h.hoisted_keys.2, List.mem_map]
  simp only [List.mem_append, or_and_right, exists_or]

variable {m : Method} {r : Route} {op : Operation}

/-- The operation of a route has what the route keeps. -/
theorem Divided.exists_own (h : item.Divided c service routes)
    (hr : (routes.filter fun r => m.Matches r.method).getLast? = some r)
    (hslot : item.slot m = some op) :
    ∃ own, (Route.kept routes r).mapM (RouteParameter.parameterOf c r.reads) = .ok own ∧
      op.parameters.Perm own := by
  obtain ⟨op', own, hslot', hown, hperm⟩ := h.slot_perm m r hr
  obtain rfl : op' = op := Option.some.inj (hslot'.symm.trans hslot)
  exact ⟨own, hown, hperm⟩

/-- The names and places in an operation are those of the declarations that its route keeps. -/
theorem Divided.slot_places (h : item.Divided c service routes)
    (hr : (routes.filter fun r => m.Matches r.method).getLast? = some r)
    (hslot : item.slot m = some op) :
    (op.parameters.map Parameter.place).Perm
      ((Route.kept routes r).map fun p => p.key.place) := by
  obtain ⟨own, hown, hperm⟩ := h.exists_own hr hslot
  refine (hperm.map Parameter.place).trans (List.Perm.of_eq ?_)
  exact Run.map_of_mapM_eq_ok hown fun _ _ => RouteParameter.place_of_parameterOf

/-- A key stands in an operation where its route declares it, and some route of the path does not, or
it is that of a body. -/
theorem Divided.exists_in_slot_iff (h : item.Divided c service routes)
    (hr : (routes.filter fun r => m.Matches r.method).getLast? = some r)
    (hslot : item.slot m = some op) (k : ParameterKey) :
    (∃ x ∈ op.parameters, x.place = k.place) ↔
      (∃ p ∈ r.parameters, p.key = k) ∧ ¬Route.AllDeclare routes k := by
  rw [RouteParameter.exists_place_iff (h.slot_places hr hslot)]
  constructor
  · rintro ⟨p, hp, rfl⟩
    obtain ⟨hp, hkept⟩ := List.mem_filter.1 hp
    exact ⟨⟨p, hp, rfl⟩, of_decide_eq_true hkept⟩
  · rintro ⟨⟨p, hp, rfl⟩, hkept⟩
    exact ⟨p, List.mem_filter.2 ⟨hp, decide_eq_true hkept⟩, rfl⟩

/-- **Divided declarations are accounted for.** -/
theorem Divided.accounted (h : item.Divided c service routes)
    (hr : (routes.filter fun r => m.Matches r.method).getLast? = some r)
    (hslot : item.slot m = some op) : item.Accounted c service routes r op where
  hoisted p _ hall := by
    refine ⟨(h.exists_at_path_iff p.key).2 (Or.inr hall), fun x hx hplace => ?_⟩
    exact ((h.exists_in_slot_iff hr hslot p.key).1 ⟨x, hx, hplace⟩).2 hall
  kept p hp hkept := by
    refine ⟨(h.exists_in_slot_iff hr hslot p.key).2 ⟨⟨p, hp, rfl⟩, hkept⟩, fun x hx hplace => ?_⟩
    exact ((h.exists_at_path_iff p.key).1 ⟨x, hx, hplace⟩).resolve_right hkept
  body p hp hbody := by
    obtain ⟨own, hown, hperm⟩ := h.exists_own hr hslot
    obtain ⟨x, hx, hpx⟩ := Run.exists_of_mapM_eq_ok hown (Route.mem_kept_iff.2 ⟨hp, Or.inl hbody⟩)
    obtain ⟨model, hmodel, rfl⟩ := RouteParameter.exists_model_of_body hbody hpx
    exact ⟨model, hmodel, hperm.mem_iff.2 hx⟩
  own_declared x hx := by
    obtain ⟨p, hp, hplace⟩ :=
      List.mem_map.1 ((h.slot_places hr hslot).mem_iff.1 (List.mem_map_of_mem hx))
    exact ⟨p, (List.mem_filter.1 hp).1, hplace.symm⟩
  path_declared x hx := by
    obtain ⟨q, hq, hplace⟩ := List.mem_map.1 (h.path_places.mem_iff.1 (List.mem_map_of_mem hx))
    rcases List.mem_append.1 hq with hq | hq
    · exact Or.inl ⟨q, hq, hplace.symm⟩
    · -- what all routes declare this one declares too
      have hall := (h.hoisted_keys.2 q.key).1 (List.mem_map_of_mem hq)
      obtain ⟨p, hp, hkey⟩ := hall.2 r (List.mem_filter.1 (List.mem_of_getLast? hr)).1
      exact Or.inr ⟨p, hp, by rw [hkey, hplace]⟩

end PathItem

/-- A path that was worked out has its parameters divided. -/
theorem PathGroup.divided_of_workedOut {c : Config} {service : List RouteParameter} {g : PathGroup}
    {w : WorkedPath} (hw : g.workedOut c service = .ok w) (hne : g.supported ≠ []) :
    w.item.Divided c service g.supported := by
  have hn := nodup_keys_of_workedOut hw
  refine ⟨?_, Route.keys_hoisted hne hn, fun m r hlast => ?_, fun m op hop => ?_⟩
  · obtain ⟨inherited, shared, hinherited, hshared, hparameters⟩ := parameters_of_workedOut hw
    -- what the dictionary holds is built in another order
    obtain ⟨hoisted, hhoisted, hperm⟩ :=
      Run.exists_mapM_of_perm (Route.values_common_perm hn) hshared
    refine ⟨inherited, hoisted, hinherited, hhoisted, ?_⟩
    rw [hparameters]
    exact (Parameter.sort_perm _).trans (hperm.append_left inherited)
  · obtain ⟨-, item, operations, -, hops, -⟩ := workedOut_eq_ok_iff.1 hw
    have hr : r ∈ g.supported := (List.mem_filter.1 (List.mem_of_getLast? hlast)).1
    obtain ⟨op, -, hop⟩ := Run.exists_of_mapM_eq_ok hops hr
    obtain ⟨own, hown, hperm⟩ := Route.exists_own_of_operationOf hop
    rw [common, Route.ownParameters_common hne hn] at hown
    exact ⟨op, own, (slot_eq_some_iff hw m op).2 ⟨r, hop, hlast⟩, hown, hperm⟩
  · obtain ⟨r, -, hlast⟩ := (slot_eq_some_iff hw m op).1 hop
    exact ⟨r, hlast⟩

/-- **The declarations of a path are divided.** In a document that was built, no surviving route declares
a key twice. Once pointers are followed, the parameters of a path are those that its service declares
and those that all its surviving routes declare, as the last one does; the parameters of an operation
are all the other ones of its route. So every declaration is accounted for. -/
theorem RouteSet.buildDocument_partition {c : Config} (hc : c.complete = none) {sets : List RouteSet}
    {d : Document} (hd : RouteSet.buildDocument c sets = .ok d) :
    (∀ r ∈ c.surviving sets, (r.parameters.map RouteParameter.key).Nodup) ∧
    ∀ path item, d.inlinedPaths.find? path = some item →
      c.routesOf sets path ≠ [] ∧ ∃ s ∈ sets,
        (s.surviving c).filter (fun r => r.documentPath = path) = c.routesOf sets path ∧
        item.Divided c s.pathParameters (c.routesOf sets path) ∧
        ∀ (m : Method) r op,
          ((c.routesOf sets path).filter fun r => m.Matches r.method).getLast? = some r →
          item.slot m = some op →
            item.Accounted c s.pathParameters (c.routesOf sets path) r op := by
  obtain ⟨work, draft, h, rfl⟩ := (buildDocument_eq_ok_iff hc sets d).1 hd
  rw [Document.inlinedPaths_shared h.isBuilt_of_parameterAt?, Config.inlineDocument,
    Config.secured_paths]
  refine ⟨fun r hr => ?_, fun path item hitem => ?_⟩
  · obtain ⟨s, hs, hr⟩ := (c.mem_surviving sets r).1 hr
    obtain ⟨g, hg, hmem, -⟩ := exists_live_of_mem_surviving hr
    obtain ⟨w, hw, -⟩ := h.exists_workedOut hs hg
    exact PathGroup.nodup_keys_of_workedOut hw r hmem
  · obtain ⟨s, hs, g, hg, w, hw, rfl, rfl⟩ := (h.find?_paths path item).1 hitem
    obtain ⟨-, -, hne, -⟩ := (s.mem_live c g).1 hg
    have hroutes : c.routesOf sets g.path = g.supported :=
      Config.filter_surviving h.livePaths_nodup hs hg
    have hn := h.livePaths_nodup
    rw [Config.livePaths_eq_flatMap, List.nodup_flatMap] at hn
    have hdivided := PathGroup.divided_of_workedOut hw hne
    rw [hroutes]
    exact ⟨hne, s, hs, filter_surviving (hn.1 s hs) hg, hdivided,
      fun m r op hlast hop => hdivided.accounted hlast hop⟩

/-- A label, which may be asked for. -/
def RouteParameter.label : RouteParameter := .declare .query "label" "A label"

/-- List the notes of a user, as many as are asked for, with a label. -/
def Route.listNotes : Route :=
  { method := "GET", path := "/notes/\x7buser\x7d", operation := "listNotes",
    parameters := [.label, .limit] }

/-- Import notes of a user, as many as are asked for. -/
def Route.importNotes : Route :=
  { method := "POST", path := "/notes/\x7buser\x7d", operation := "importNotes", reads := some "string",
    parameters := [.declare .body "note" "The notes", .limit] }

/-- The notes of users. -/
def RouteSet.notes : RouteSet :=
  { rootPath := "/notes", pathParameters := [.declare .path "user" "Whose notes"],
    routes := [.listNotes, .importNotes] }

/-- The user and the limit belong to the path, the label to the one operation and the notes to the
other. -/
theorem RouteSet.buildDocument_partition_notes :
    ∃ d item, RouteSet.buildDocument {} [RouteSet.notes] = .ok d ∧
      d.inlinedPaths.find? "/notes/\x7buser\x7d" = some item ∧
      (item.parameters.map Parameter.place).Perm [("user", "path"), ("limit", "query")] ∧
      (∃ op, item.slot .get = some op ∧ op.parameters.map Parameter.place = [("label", "query")]) ∧
      ∃ op, item.slot .post = some op ∧ op.parameters.map Parameter.place = [("note", "body")] := by
  have hbuilt : (RouteSet.buildDocument {} [RouteSet.notes]).toOption.map (fun d =>
      (d.inlinedPaths.find? "/notes/\x7buser\x7d").isSome) = some true := by decide +kernel
  obtain ⟨d, hd, hsome⟩ := Run.exists_of_map_eq_some hbuilt
  obtain ⟨item, hitem⟩ := Option.isSome_iff_exists.1 hsome
  obtain ⟨-, s, hs, -, hdivided, -⟩ := (buildDocument_partition rfl hd).2 _ item hitem
  obtain rfl := List.mem_singleton.1 hs
  have hroutes : Config.routesOf {} [notes] "/notes/\x7buser\x7d" = [.listNotes, .importNotes] := by
    decide +kernel
  rw [hroutes] at hdivided
  have hlast : ([Route.listNotes, .importNotes].filter fun r => Method.get.Matches r.method).getLast?
        = some .listNotes ∧
      ([Route.listNotes, .importNotes].filter fun r => Method.post.Matches r.method).getLast?
        = some .importNotes := by decide +kernel
  obtain ⟨list, -, hlist, -⟩ := hdivided.slot_perm .get _ hlast.1
  obtain ⟨import', -, himport, -⟩ := hdivided.slot_perm .post _ hlast.2
  refine ⟨d, item, hd, hitem, ?_, ⟨list, hlist, ?_⟩, ⟨import', himport, ?_⟩⟩
  · exact hdivided.path_places
  · exact List.perm_singleton.1 (hdivided.slot_places hlast.1 hlist)
  · exact List.perm_singleton.1 (hdivided.slot_places hlast.2 himport)

end Swagger
