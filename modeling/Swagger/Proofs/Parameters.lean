import Swagger.Proofs.Inlining
import Swagger.Proofs.Slots

/-! # The parameters of paths and operations
Which parameters stand at a path and at its operations, and which declarations they come from. A
parameter that all routes of a path declare belongs to the path, as the last route declares it; the
other ones stay with their routes.

* `Parameter.pairwise_sort`, `Parameter.sort_eq_of_perm` — sorted parameters are in order, which does not
  depend on how they stood before.
* `RouteParameter.LooksLike` — two declarations with one key that come out as one parameter.
* `Route.find?_common` — the declarations that belong to a path.
* `PathGroup.mem_parameters_iff`, `Route.mem_parameters_iff` — the parameters of a path and of an
  operation.
* `Config.Assembled.isBuilt_of_parameterAt?` — all parameters of a document are as the builder makes
  them. -/

namespace Swagger

/-! ## Order -/

/-- Keys of parameters are ordered by name, then by kind. -/
instance : Std.TransOrd ParameterKey :=
  inferInstanceAs (Std.TransCmp (compareLex (compareOn ParameterKey.name)
    (compareOn fun k => k.kind.rank)))

/-- Keys on one level are one key. -/
instance : Std.LawfulEqOrd ParameterKey where
  eq_of_compare {a b} h := by
    obtain ⟨hname, hkind⟩ := Ordering.then_eq_eq.1 h
    obtain ⟨name, kind⟩ := a
    obtain ⟨name', kind'⟩ := b
    obtain rfl : name = name' := Std.LawfulEqOrd.eq_of_compare hname
    obtain rfl : kind = kind' := ParameterKind.rank_injective (Std.LawfulEqOrd.eq_of_compare hkind)
    rfl

namespace Parameter

/-- A parameter is put in its place among the others. -/
theorem insertSorted_perm (p : Parameter) (ps : List Parameter) :
    (insertSorted p ps).Perm (p :: ps) := by
  induction ps with
  | nil => exact .rfl
  | cons q rest ih =>
    rw [insertSorted]
    split
    · exact .rfl
    · exact (ih.cons q).trans (.swap p q rest)

/-- Sorting only changes the order. -/
theorem sort_perm (ps : List Parameter) : (sort ps).Perm ps := by
  induction ps with
  | nil => exact .rfl
  | cons p rest ih => exact (insertSorted_perm p (sort rest)).trans (ih.cons p)

/-- Sorting neither makes nor loses a parameter. -/
@[simp] theorem mem_sort {p : Parameter} {ps : List Parameter} : p ∈ sort ps ↔ p ∈ ps :=
  (sort_perm ps).mem_iff

/-- The name of a parameter, and where it stands. -/
def place (p : Parameter) : String × String := (p.name, p.location)

/-- Parameters are ordered by name, then by where they stand. -/
def order (p q : Parameter) : Ordering := (compare p.name q.name).then (compare p.location q.location)

/-- The order of parameters is that of pairs. -/
instance : Std.TransCmp order :=
  inferInstanceAs (Std.TransCmp (compareLex (compareOn Parameter.name) (compareOn Parameter.location)))

/-- A parameter precedes those that do not come before it in the order. -/
theorem precedes_iff (p q : Parameter) : p.precedes q = true ↔ (p.order q).isLE := by
  unfold precedes order
  cases compare p.name q.name <;> cases compare p.location q.location <;> decide

/-- Two parameters are level if they have one place. -/
theorem order_eq_iff (p q : Parameter) : p.order q = .eq ↔ p.place = q.place := by
  rw [order, Ordering.then_eq_eq, Std.LawfulEqOrd.compare_eq_iff_eq,
    Std.LawfulEqOrd.compare_eq_iff_eq, place, place, Prod.mk.injEq]

/-- Putting a parameter in front of the first that it may precede keeps parameters in order. -/
theorem pairwise_insertSorted (p : Parameter) {ps : List Parameter}
    (h : ps.Pairwise fun a b => (a.order b).isLE) :
    (insertSorted p ps).Pairwise fun a b => (a.order b).isLE := by
  induction ps with
  | nil => exact List.pairwise_singleton _ _
  | cons q rest ih =>
    obtain ⟨hq, hrest⟩ := List.pairwise_cons.1 h
    rw [insertSorted]
    split
    · next hpq =>
      rw [precedes_iff] at hpq
      exact List.pairwise_cons.2 ⟨List.forall_mem_cons.2
        ⟨hpq, fun r hr => Std.TransCmp.isLE_trans hpq (hq r hr)⟩, h⟩
    · next hpq =>
      -- what may not stand before `q` may stand behind it
      rw [precedes_iff, Bool.not_eq_true, Ordering.isLE_eq_false, Std.OrientedCmp.gt_iff_lt] at hpq
      refine List.pairwise_cons.2 ⟨fun r hr => ?_, ih hrest⟩
      obtain rfl | hr := List.mem_cons.1 ((insertSorted_perm p rest).mem_iff.1 hr)
      · rw [hpq]
        rfl
      · exact hq r hr

/-- Sorted parameters are in order. -/
theorem pairwise_sort (ps : List Parameter) : (sort ps).Pairwise fun a b => (a.order b).isLE := by
  induction ps with
  | nil => exact List.Pairwise.nil
  | cons p rest ih => exact pairwise_insertSorted p ih

/-- Where no two parameters have one name and place, sorting does not depend on their order. -/
theorem sort_eq_of_perm {ps qs : List Parameter} (h : ps.Perm qs) (hn : (ps.map place).Nodup) :
    sort ps = sort qs := by
  have hperm : (sort ps).Perm (sort qs) := (sort_perm ps).trans (h.trans (sort_perm qs).symm)
  refine hperm.eq_of_pairwise (fun a b ha hb hab hba => ?_) (pairwise_sort ps) (pairwise_sort qs)
  have heq : a.place = b.place :=
    (order_eq_iff a b).1 (Std.OrientedCmp.isLE_antisymm hab hba)
  exact List.inj_on_of_nodup_map hn (mem_sort.1 ha) (h.mem_iff.2 (mem_sort.1 hb)) heq

end Parameter

/-! ## Declarations -/

namespace RouteParameter

/-- A declaration outside the body can be built when a parameter of the path is required and the type
is a simple one. -/
theorem buildSimple_eq_ok_iff (p : RouteParameter) (x : Parameter) :
    p.buildSimple = .ok x ↔ p.kind ≠ .body ∧ (p.kind = .path → p.required = true) ∧
      ∃ t, SimpleType.ofName? p.dataType = some t ∧
        x = { name := p.name, description := p.description, required := p.required,
              location := p.kind.location, type := t.type, format := t.format,
              uniqueItems := !p.allowMultiple } := by
  unfold buildSimple
  by_cases hbody : p.kind = .body
  · simp [hbody]
  · by_cases hpath : p.kind = .path ∧ p.required = false
    · simp [hpath]
    · have hrequired : p.kind = .path → p.required = true := by simpa using hpath
      rw [if_neg hbody, if_neg hpath]
      cases SimpleType.ofName? p.dataType with
      | none => simp
      | some t =>
        simp only [Except.ok.injEq, Option.some.injEq, exists_eq_left']
        exact ⟨fun h => ⟨hbody, hrequired, h.symm⟩, fun h => h.2.2.symm⟩

/-- Two declarations say the same about everything but the name and the place. -/
structure LooksLike (p q : RouteParameter) : Prop where
  /-- They have one description. -/
  description_eq : p.description = q.description
  /-- They are both required, or neither is. -/
  required_eq : p.required = q.required
  /-- Their types have one type and format in a document, or neither is a simple one. -/
  type_eq : SimpleType.ofName? p.dataType = SimpleType.ofName? q.dataType
  /-- They may both be given several times, or neither may. -/
  allowMultiple_eq : p.allowMultiple = q.allowMultiple

/-- Of two declarations with one key, one comes out as the other exactly when they look alike. -/
theorem buildSimple_eq_iff_looksLike {p q : RouteParameter} {x : Parameter} (hkey : p.key = q.key)
    (hq : q.buildSimple = .ok x) : p.buildSimple = .ok x ↔ p.LooksLike q := by
  obtain ⟨name, description, kind, dataType, required, allowMultiple⟩ := p
  obtain ⟨rfl, rfl⟩ := ParameterKey.mk.inj hkey
  constructor
  · intro hp
    obtain ⟨-, -, t, ht, rfl⟩ := (buildSimple_eq_ok_iff _ _).1 hp
    obtain ⟨-, -, t', ht', hx⟩ := (buildSimple_eq_ok_iff _ _).1 hq
    simp only [Parameter.mk.injEq, Bool.not_inj_iff] at hx
    obtain ⟨-, -, -, hmultiple, -, htype, hformat, -, -, -, hdescription, -, -, hrequired, -⟩ := hx
    -- the type that stands in the document is the whole simple type
    have htt : t = t' := by
      obtain ⟨type, format⟩ := t
      obtain ⟨type', format'⟩ := t'
      exact SimpleType.mk.injEq .. ▸ ⟨htype, hformat⟩
    exact ⟨hdescription, hrequired, by rw [ht', ← htt]; exact ht, hmultiple⟩
  · rintro ⟨hdescription, hrequired, htype, hmultiple⟩
    obtain ⟨hkind, hpath, t, ht, rfl⟩ := (buildSimple_eq_ok_iff _ _).1 hq
    simp only at hdescription hrequired htype hmultiple
    rw [buildSimple_eq_ok_iff]
    simp only [hdescription, hrequired, htype, hmultiple]
    exact ⟨hkind, hpath, t, ht, rfl⟩

/-- No parameter is found twice exactly when the keys differ from each other and from those seen. -/
theorem duplicateAmong?_eq_none_iff (seen : List ParameterKey) (ps : List RouteParameter) :
    duplicateAmong? seen ps = none ↔
      (ps.map RouteParameter.key).Nodup ∧ ∀ p ∈ ps, p.key ∉ seen := by
  induction ps generalizing seen with
  | nil => simp [duplicateAmong?]
  | cons p rest ih =>
    rw [duplicateAmong?]
    by_cases hp : p.key ∈ seen
    · simp [hp]
    · rw [if_neg (by simpa using hp), ih, List.map_cons, List.nodup_cons]
      simp only [List.mem_cons, not_or, List.mem_map, forall_eq_or_imp]
      constructor
      · rintro ⟨hnodup, hrest⟩
        exact ⟨⟨fun ⟨q, hq, hkey⟩ => (hrest q hq).1 hkey, hnodup⟩, hp, fun q hq => (hrest q hq).2⟩
      · rintro ⟨⟨hnew, hnodup⟩, -, hrest⟩
        exact ⟨hnodup, fun q hq => ⟨fun hkey => hnew ⟨q, hq, hkey⟩, hrest q hq⟩⟩

end RouteParameter

namespace Route

/-- Routes pass the check exactly when none declares a parameter twice. -/
theorem checkDuplicates_eq_ok_iff (routes : List Route) : checkDuplicates routes = .ok () ↔
    ∀ r ∈ routes, (r.parameters.map RouteParameter.key).Nodup := by
  induction routes with
  | nil => simp [checkDuplicates]
  | cons r rest ih =>
    have hr : r.duplicate? = none ↔ (r.parameters.map RouteParameter.key).Nodup := by
      simp [duplicate?, RouteParameter.duplicateAmong?_eq_none_iff]
    rw [checkDuplicates, List.forall_mem_cons, ← hr, ← ih]
    cases r.duplicate? <;> simp

/-- In a route without duplicates there is one declaration for each key. -/
theorem eq_of_key_eq {r : Route} (hn : (r.parameters.map RouteParameter.key).Nodup)
    {p q : RouteParameter} (hp : p ∈ r.parameters) (hq : q ∈ r.parameters) (h : p.key = q.key) :
    p = q :=
  List.inj_on_of_nodup_map hn hp hq h

/-- All routes declare a parameter outside the body with a key. -/
def AllDeclare (routes : List Route) (k : ParameterKey) : Prop :=
  k.kind ≠ .body ∧ ∀ r ∈ routes, ∃ p ∈ r.parameters, p.key = k

/-- The declarations that belong to a path are those of its last route with a key that all routes
declare. -/
theorem find?_common {routes : List Route}
    (hn : ∀ r ∈ routes, (r.parameters.map RouteParameter.key).Nodup) (k : ParameterKey)
    (p : RouteParameter) : (common routes).find? k = some p ↔
      AllDeclare routes k ∧ p.key = k ∧
        ∃ last, routes.getLast? = some last ∧ p ∈ last.parameters := by
  unfold common
  cases hlast : routes.getLast? with
  | none => simp
  | some last =>
    have hdeclares : ∀ (r : Route) k, r.declares k = true ↔ ∃ q ∈ r.parameters, q.key = k :=
      fun r k => by simp [declares]
    -- The declarations are taken from the last route, where no key stands twice.
    have hnodup := hn last (List.mem_of_getLast? hlast)
    have hkeys : (((last.parameters.filter fun p => p.kind != .body &&
        routes.all fun r => r.declares p.key).map fun p => (p.key, p)).map Prod.fst).Nodup := by
      rw [List.map_map]
      exact hnodup.sublist (List.filter_sublist.map _)
    rw [Dict.find?_ofList_eq_some_iff hkeys]
    simp only [List.mem_map, List.mem_filter, Bool.and_eq_true, bne_iff_ne, List.all_eq_true,
      hdeclares, Prod.mk.injEq, Option.some.injEq, exists_eq_left', AllDeclare]
    constructor
    · rintro ⟨p, ⟨hp, hbody, hall⟩, rfl, rfl⟩
      exact ⟨⟨hbody, hall⟩, rfl, hp⟩
    · rintro ⟨⟨hbody, hall⟩, rfl, hp⟩
      exact ⟨p, ⟨hp, hbody, hall⟩, rfl, rfl⟩

/-- A key belongs to a path exactly when all of its routes declare it. -/
theorem contains_common_iff {routes : List Route} (hne : routes ≠ [])
    (hn : ∀ r ∈ routes, (r.parameters.map RouteParameter.key).Nodup) (k : ParameterKey) :
    (common routes).contains k = true ↔ AllDeclare routes k := by
  rw [Dict.contains_iff]
  simp only [find?_common hn]
  constructor
  · rintro ⟨p, hall, -⟩
    exact hall
  · intro hall
    have hlast := List.getLast?_eq_some_getLast hne
    obtain ⟨p, hp, hkey⟩ := hall.2 _ (List.mem_of_getLast? hlast)
    exact ⟨p, hall, hkey, _, hlast, hp⟩

/-- The parameters that all routes declare stand in the order of their keys. -/
theorem sorted_common (routes : List Route) : (common routes).Sorted := by
  unfold common
  split
  · exact Dict.sorted_empty
  · exact Dict.sorted_ofList _

end Route

/-! ## The parameters that are built -/

namespace RouteParameter

variable {c : Config} {body : Option String} {p : RouteParameter} {x : Parameter}

/-- Outside the body a declaration is built without regard to a model. -/
theorem parameterOf_of_kind_ne_body (h : p.kind ≠ .body) : p.parameterOf c body = p.buildSimple := by
  unfold parameterOf
  split
  · next hkind => exact absurd hkind h
  · rfl

/-- A parameter outside the body has the name and the location that were declared. -/
theorem name_location_of_buildSimple (h : p.buildSimple = .ok x) :
    x.name = p.name ∧ x.location = p.kind.location := by
  obtain ⟨-, -, t, -, rfl⟩ := (p.buildSimple_eq_ok_iff x).1 h
  exact ⟨rfl, rfl⟩

/-- What is built has the name and place that were declared. -/
theorem name_location_of_parameterOf (h : p.parameterOf c body = .ok x) :
    x.name = p.name ∧ x.location = p.kind.location := by
  unfold parameterOf at h
  split at h
  · next hkind =>
    obtain rfl := Except.ok.inj h
    exact ⟨rfl, by rw [hkind]; rfl⟩
  · exact name_location_of_buildSimple h

/-- A parameter outside the body is simple. -/
theorem isSimple_of_buildSimple (h : p.buildSimple = .ok x) : x.IsSimple := by
  obtain ⟨-, -, t, -, rfl⟩ := (p.buildSimple_eq_ok_iff x).1 h
  rfl

/-- What a declaration becomes is a parameter as the builder makes them. -/
theorem isBuilt_of_parameterOf (h : p.parameterOf c body = .ok x) : x.IsBuilt := by
  unfold parameterOf at h
  split at h
  · obtain rfl := Except.ok.inj h
    exact Or.inr ⟨rfl, rfl⟩
  · exact Or.inl (isSimple_of_buildSimple h)

/-- Declarations come out with one name and place exactly when they have one key. -/
theorem key_eq_of_name_location {q : RouteParameter} (hname : p.name = q.name)
    (hlocation : p.kind.location = q.kind.location) : p.key = q.key := by
  rw [key, key, hname, ParameterKind.location_injective hlocation]

end RouteParameter

/-- The parameters of an operation are those that its route keeps for itself. -/
theorem Route.mem_parameters_iff {c : Config} {common : Dict ParameterKey RouteParameter} {r : Route}
    {op : Operation} (h : r.operationOf c common = .ok op) (x : Parameter) :
    x ∈ op.parameters ↔ ∃ p ∈ r.parameters, common.contains p.key = false ∧
      p.parameterOf c r.reads = .ok x := by
  obtain ⟨name, xs, -, hxs, rfl⟩ := operationOf_eq_ok_iff.1 h
  rw [operationWith, Parameter.mem_sort, Run.mem_iff_of_mapM_eq_ok hxs]
  simp [ownParameters, and_assoc]

/-- Every parameter that a route keeps for itself is built. -/
theorem Route.exists_parameterOf {c : Config} {common : Dict ParameterKey RouteParameter} {r : Route}
    {op : Operation} (h : r.operationOf c common = .ok op) {p : RouteParameter}
    (hp : p ∈ r.parameters) (hown : common.contains p.key = false) :
    ∃ x, p.parameterOf c r.reads = .ok x := by
  obtain ⟨name, xs, -, hxs, -⟩ := operationOf_eq_ok_iff.1 h
  obtain ⟨x, -, hx⟩ := Run.exists_of_mapM_eq_ok hxs
    (List.mem_filter.2 ⟨hp, by simpa using hown⟩ : p ∈ r.ownParameters common)
  exact ⟨x, hx⟩

namespace PathGroup

variable {c : Config} {service : List RouteParameter} {g : PathGroup} {w : WorkedPath}

/-- The routes of a worked-out group declare no parameter twice. -/
theorem nodup_keys_of_workedOut (h : g.workedOut c service = .ok w) :
    ∀ r ∈ g.supported, (r.parameters.map RouteParameter.key).Nodup :=
  (Route.checkDuplicates_eq_ok_iff _).1 (workedOut_eq_ok_iff.1 h).1

/-- The common parameters of a path are what the last route declares for keys that all routes declare. -/
theorem mem_values_common (h : g.workedOut c service = .ok w) (p : RouteParameter) :
    p ∈ g.common.values ↔ Route.AllDeclare g.supported p.key ∧
      ∃ last, g.supported.getLast? = some last ∧ p ∈ last.parameters := by
  rw [common, Dict.mem_values_iff (Route.sorted_common _)]
  simp only [Route.find?_common (nodup_keys_of_workedOut h)]
  constructor
  · rintro ⟨k, hall, hkey, hlast⟩
    exact ⟨hkey ▸ hall, hlast⟩
  · rintro ⟨hall, hlast⟩
    exact ⟨p.key, hall, rfl, hlast⟩

/-- The declarations behind the parameters of a path: those of its service, and those that the last
route makes for keys that all routes declare. -/
def Declares (g : PathGroup) (service : List RouteParameter) (p : RouteParameter) : Prop :=
  p ∈ service ∨ Route.AllDeclare g.supported p.key ∧
    ∃ last, g.supported.getLast? = some last ∧ p ∈ last.parameters

/-- The parameters of a path are those of its service and those that all routes declare. -/
theorem mem_parameters_iff (h : g.workedOut c service = .ok w) (x : Parameter) :
    x ∈ w.item.parameters ↔ ∃ p, g.Declares service p ∧ p.buildSimple = .ok x := by
  obtain ⟨inherited, shared, hinherited, hshared, hparameters⟩ := parameters_of_workedOut h
  simp only [hparameters, Parameter.mem_sort, List.mem_append, Declares, ← mem_values_common h,
    Run.mem_iff_of_mapM_eq_ok hinherited, Run.mem_iff_of_mapM_eq_ok hshared, or_and_right, exists_or]

/-- All declarations behind the parameters of a path are built. -/
theorem exists_buildSimple (h : g.workedOut c service = .ok w) {p : RouteParameter}
    (hp : g.Declares service p) : ∃ x, p.buildSimple = .ok x := by
  obtain ⟨inherited, shared, hinherited, hshared, -⟩ := parameters_of_workedOut h
  rcases hp with hp | hcommon
  · obtain ⟨x, -, hx⟩ := Run.exists_of_mapM_eq_ok hinherited hp
    exact ⟨x, hx⟩
  · obtain ⟨x, -, hx⟩ := Run.exists_of_mapM_eq_ok hshared ((mem_values_common h p).2 hcommon)
    exact ⟨x, hx⟩

/-- Each parameter of a worked-out path and its operations is a declared one as it is built. -/
theorem exists_parameterOf_of_mem (h : g.workedOut c service = .ok w) (m : Option Method)
    {x : Parameter} (hx : x ∈ w.item.parametersOf m) : ∃ p body,
      RouteParameter.parameterOf c body p = .ok x := by
  cases m with
  | none =>
    obtain ⟨p, -, hp⟩ := (mem_parameters_iff h x).1 hx
    -- without a model even a body is built as if it were none
    have hnone : p.parameterOf c none = p.buildSimple := by
      unfold RouteParameter.parameterOf
      cases p.kind <;> rfl
    exact ⟨p, none, hnone.trans hp⟩
  | some m =>
    obtain ⟨op, hslot, hx⟩ := PathItem.exists_slot_of_mem hx
    obtain ⟨r, hop, -⟩ := (slot_eq_some_iff h m op).1 hslot
    obtain ⟨p, -, -, hp⟩ := (Route.mem_parameters_iff hop x).1 hx
    exact ⟨p, r.reads, hp⟩

/-- All parameters of a worked-out path and its operations are as the builder makes them. -/
theorem isBuilt_of_mem (h : g.workedOut c service = .ok w) (m : Option Method) {x : Parameter}
    (hx : x ∈ w.item.parametersOf m) : x.IsBuilt := by
  obtain ⟨p, body, hp⟩ := exists_parameterOf_of_mem h m hx
  exact RouteParameter.isBuilt_of_parameterOf hp

end PathGroup

namespace Config.Assembled

variable {c : Config} {sets : List RouteSet} {work : List WorkedPath} {draft : Draft}

/-- What can be done at a path of a draft was worked out on its own. -/
theorem exists_workedOut_of_mem (h : c.Assembled sets work draft) {item : PathItem}
    (hitem : item ∈ draft.paths.values) :
    ∃ service g w, PathGroup.workedOut c service g = .ok w ∧ w.item = item := by
  obtain ⟨e, he, rfl⟩ := List.mem_map.1 hitem
  have hpaths : draft.paths = Dict.ofList (work.map WorkedPath.entry) := h.extended.paths_eq
  have hsorted : draft.paths.Sorted := hpaths ▸ Dict.sorted_ofList _
  have hfind := (Dict.mem_entries_iff hsorted e.1 e.2).1 he
  obtain ⟨s, -, g, -, w, hw, -, heq⟩ := (h.find?_paths e.1 e.2).1 hfind
  exact ⟨_, g, w, hw, heq⟩

/-- Each parameter of a document stands at a path that was worked out. -/
theorem exists_workedOut_of_parameterAt? (h : c.Assembled sets work draft) {site : ParameterSite}
    {x : Parameter} (hx : (c.inlineDocument draft).parameterAt? site = some x) :
    ∃ service g w, PathGroup.workedOut c service g = .ok w ∧
      x ∈ w.item.parametersOf site.method := by
  rw [Document.parameterAt?, inlineDocument, secured_paths, Option.bind_eq_some_iff] at hx
  obtain ⟨e, he, hx⟩ := hx
  obtain ⟨service, g, w, hw, hitem⟩ :=
    h.exists_workedOut_of_mem (List.mem_map_of_mem (List.mem_of_getElem? he))
  exact ⟨service, g, w, hw, hitem ▸ List.mem_of_getElem? hx⟩

/-- All parameters of a document are as the builder makes them. -/
theorem isBuilt_of_parameterAt? (h : c.Assembled sets work draft) (site : ParameterSite)
    (x : Parameter) (hx : (c.inlineDocument draft).parameterAt? site = some x) : x.IsBuilt := by
  obtain ⟨service, g, w, hw, hmem⟩ := h.exists_workedOut_of_parameterAt? hx
  exact PathGroup.isBuilt_of_mem hw site.method hmem

end Config.Assembled

end Swagger
