import Swagger.Proofs.DistinctParameters
import Swagger.Proofs.NeededModels
import Swagger.Proofs.OperationCount

/-! # Paths whose routes are rearranged
Routes are registered in some order, and each declares its parameters in some order. The order of the
routes of a path tells which of two operations keeps a slot, and which declaration of a common parameter
stands at the path; so it does not matter where no two routes have one place, and all routes of the path
declare a parameter alike. The order of the parameters does not matter, because they are sorted in the
end.

* `Route.Reordered`, `Route.Rearranged` — a route with its parameters in another order, and routes in
  another order, each of them reordered.
* `Route.Rearranged.common_eq` — rearranged routes that agree have the same parameters in common.
* `Route.Reordered.operationOf` — a reordered route has the same operation.
* `PathGroup.Reordered.workedOut` — rearranged routes come out as the same path. -/

namespace Swagger

/-- The names and labels of operations only depend on what their routes call them. -/
def Config.NamesByOperation (c : Config) : Prop :=
  ∀ r r' : Route, r.operation = r'.operation → c.operationName r = c.operationName r'

/-! ## Rearranged routes -/

namespace Route

/-- A route that declares its parameters in another order. -/
def Reordered (r r' : Route) : Prop :=
  ∃ parameters, r.parameters.Perm parameters ∧ r' = { r with parameters := parameters }

/-- The order of the parameters can be changed back. -/
theorem Reordered.symm {r r' : Route} (h : r.Reordered r') : r'.Reordered r := by
  obtain ⟨parameters, hperm, rfl⟩ := h
  exact ⟨r.parameters, hperm.symm, rfl⟩

/-- The parameters are the same up to their order. -/
theorem Reordered.perm {r r' : Route} (h : r.Reordered r') : r.parameters.Perm r'.parameters := by
  obtain ⟨parameters, hperm, rfl⟩ := h
  exact hperm

/-- The place of a route has nothing to do with the order of its parameters. -/
theorem Reordered.place_eq {r r' : Route} (h : r.Reordered r') : r.place = r'.place := by
  obtain ⟨parameters, -, rfl⟩ := h
  rfl

/-- Nor has the question whether their keys are distinct. -/
theorem Reordered.nodup_keys {r r' : Route} (h : r.Reordered r')
    (hn : (r.parameters.map RouteParameter.key).Nodup) :
    (r'.parameters.map RouteParameter.key).Nodup :=
  (h.perm.map RouteParameter.key).nodup_iff.1 hn

/-- The method of a route has nothing to do with the order of its parameters. -/
theorem Reordered.method_eq {r r' : Route} (h : r.Reordered r') : r.method = r'.method := by
  obtain ⟨parameters, -, rfl⟩ := h
  rfl

/-- Routes in another order, each of which may declare its parameters in another order. -/
def Rearranged (routes routes' : List Route) : Prop :=
  ∃ between, routes.Perm between ∧ List.Forall₂ Reordered between routes'

namespace Rearranged

variable {routes routes' : List Route}

/-- Routes can be rearranged back. -/
theorem symm (h : Rearranged routes routes') : Rearranged routes' routes := by
  obtain ⟨between, hperm, hforall⟩ := h
  -- the other way round the parameters come first, and then the routes
  have hflip : Relation.Comp (List.Forall₂ Reordered) List.Perm routes' routes :=
    ⟨between, hforall.flip.imp fun _ _ hr => Reordered.symm hr, hperm.symm⟩
  rwa [List.forall₂_comp_perm_eq_perm_comp_forall₂] at hflip

/-- Every route is there after routes were rearranged, with its parameters in some order. -/
theorem exists_right (h : Rearranged routes routes') {r : Route} (hr : r ∈ routes) :
    ∃ r' ∈ routes', r.Reordered r' := by
  obtain ⟨between, hperm, hforall⟩ := h
  exact Run.exists_of_forall₂_left hforall (hperm.mem_iff.1 hr)

/-- Every rearranged route was there before. -/
theorem exists_left (h : Rearranged routes routes') {r' : Route} (hr' : r' ∈ routes') :
    ∃ r ∈ routes, r.Reordered r' := by
  obtain ⟨r, hr, hreordered⟩ := h.symm.exists_right hr'
  exact ⟨r, hr, hreordered.symm⟩

/-- Two lists of routes can be rearranged one after the other. -/
theorem append {more more' : List Route} (h : Rearranged routes routes')
    (h' : Rearranged more more') : Rearranged (routes ++ more) (routes' ++ more') := by
  obtain ⟨between, hperm, hforall⟩ := h
  obtain ⟨between', hperm', hforall'⟩ := h'
  exact ⟨between ++ between', hperm.append hperm', List.rel_append hforall hforall'⟩

/-- Rearranging routes makes none and loses none. -/
theorem isEmpty_eq (h : Rearranged routes routes') : routes.isEmpty = routes'.isEmpty := by
  obtain ⟨between, hperm, hforall⟩ := h
  rw [hperm.isEmpty_eq]
  cases hforall <;> rfl

/-- What does not look at the order of parameters picks rearranged routes. -/
theorem filter (h : Rearranged routes routes') {p : Route → Bool}
    (hp : ∀ r r', r.Reordered r' → p r = p r') :
    Rearranged (routes.filter p) (routes'.filter p) := by
  obtain ⟨between, hperm, hforall⟩ := h
  refine ⟨between.filter p, hperm.filter p, List.rel_filter (fun r r' hr => ?_) hforall⟩
  exact iff_of_eq (congrArg (· = true) (hp r r' hr))

/-- What is made of rearranged routes is the same up to the order, if it is of each route. -/
theorem flatMap_perm {α : Type*} (h : Rearranged routes routes') {f : Route → List α}
    (hf : ∀ r r', r.Reordered r' → (f r).Perm (f r')) :
    (routes.flatMap f).Perm (routes'.flatMap f) := by
  obtain ⟨between, hperm, hforall⟩ := h
  refine (hperm.flatMap_right f).trans (List.Perm.flatten_congr ?_)
  rw [List.forall₂_map_left_iff, List.forall₂_map_right_iff]
  exact hforall.imp hf

/-- What does not look at the order of parameters has the same values for rearranged routes. -/
theorem map_perm {α : Type*} (h : Rearranged routes routes') {f : Route → α}
    (hf : ∀ r r', r.Reordered r' → f r = f r') : (routes.map f).Perm (routes'.map f) := by
  rw [List.map_eq_flatMap, List.map_eq_flatMap]
  exact h.flatMap_perm fun r r' hr => by rw [hf r r' hr]

/-- Steps whose result does not depend on the order of parameters give the same results, up to their
order. -/
theorem mapM {ε α : Type} (h : Rearranged routes routes') {f : Route → Except ε α} {xs : List α}
    (hxs : routes.mapM f = .ok xs)
    (hf : ∀ r ∈ routes, ∀ r' x, r.Reordered r' → f r = .ok x → f r' = .ok x) :
    ∃ xs', routes'.mapM f = .ok xs' ∧ xs.Perm xs' := by
  obtain ⟨between, hperm, hforall⟩ := h
  obtain ⟨xs', hxs', hperm'⟩ := Run.exists_mapM_of_perm hperm hxs
  obtain ⟨ys, hys, heq⟩ := Run.exists_mapM_of_forall₂ hforall hxs'
    (fun r hr r' x hr' hx => ⟨x, hf r (hperm.mem_iff.2 hr) r' x hr' hx, rfl⟩)
  rw [List.forall₂_eq_eq_eq] at heq
  obtain rfl : xs' = ys := heq
  exact ⟨xs', hys, hperm'⟩

end Rearranged

/-! ## What belongs to a path -/

/-- Routes declare parameters with one key alike. -/
def Agree (routes : List Route) : Prop :=
  ∀ r ∈ routes, ∀ r' ∈ routes, ∀ p ∈ r.parameters, ∀ q ∈ r'.parameters, p.key = q.key → p = q

section Common

variable {routes routes' : List Route}

/-- The parameters of rearranged routes have distinct keys if those of the routes have. -/
theorem Rearranged.nodup_keys (h : Rearranged routes routes')
    (hn : ∀ r ∈ routes, (r.parameters.map RouteParameter.key).Nodup) :
    ∀ r ∈ routes', (r.parameters.map RouteParameter.key).Nodup := by
  intro r' hr'
  obtain ⟨r, hr, hreordered⟩ := h.exists_left hr'
  exact hreordered.nodup_keys (hn r hr)

/-- Rearranged routes agree if the routes do. -/
theorem Rearranged.agree (h : Rearranged routes routes') (hagree : Agree routes) :
    Agree routes' := by
  intro r hr r' hr' p hp q hq hkey
  obtain ⟨r₀, hr₀, hreordered⟩ := h.exists_left hr
  obtain ⟨r₀', hr₀', hreordered'⟩ := h.exists_left hr'
  exact hagree r₀ hr₀ r₀' hr₀' p (hreordered.perm.mem_iff.2 hp) q
    (hreordered'.perm.mem_iff.2 hq) hkey

/-- A parameter that all routes declare is declared by all rearranged ones. -/
theorem Rearranged.allDeclare (h : Rearranged routes routes') {k : ParameterKey}
    (hall : AllDeclare routes k) : AllDeclare routes' k := by
  refine ⟨hall.1, fun r' hr' => ?_⟩
  obtain ⟨r, hr, hreordered⟩ := h.exists_left hr'
  obtain ⟨p, hp, hkey⟩ := hall.2 r hr
  exact ⟨p, hreordered.perm.mem_iff.1 hp, hkey⟩

/-- Where routes agree, it does not matter which of them the declarations of a path are taken from. -/
theorem find?_common_of_agree (hn : ∀ r ∈ routes, (r.parameters.map RouteParameter.key).Nodup)
    (hagree : Agree routes) (k : ParameterKey) (p : RouteParameter) :
    (common routes).find? k = some p ↔
      AllDeclare routes k ∧ p.key = k ∧ ∃ r ∈ routes, p ∈ r.parameters := by
  rw [find?_common hn]
  refine and_congr_right fun hall => and_congr_right fun hkey => ?_
  constructor
  · rintro ⟨last, hlast, hp⟩
    exact ⟨last, List.mem_of_getLast? hlast, hp⟩
  · rintro ⟨r, hr, hp⟩
    have hlast := List.getLast?_eq_some_getLast (List.ne_nil_of_mem hr)
    obtain ⟨q, hq, hqkey⟩ := hall.2 _ (List.mem_of_getLast? hlast)
    obtain rfl := hagree r hr _ (List.mem_of_getLast? hlast) p hp q hq (hkey.trans hqkey.symm)
    exact ⟨_, hlast, hq⟩

/-- Rearranged routes that agree have the same parameters in common. -/
theorem Rearranged.common_eq (h : Rearranged routes routes')
    (hn : ∀ r ∈ routes, (r.parameters.map RouteParameter.key).Nodup) (hagree : Agree routes) :
    common routes = common routes' := by
  refine (sorted_common routes).ext (sorted_common routes') fun k => Option.ext fun p => ?_
  rw [find?_common_of_agree hn hagree, find?_common_of_agree (h.nodup_keys hn) (h.agree hagree)]
  constructor
  · rintro ⟨hall, hkey, r, hr, hp⟩
    obtain ⟨r', hr', hreordered⟩ := h.exists_right hr
    exact ⟨h.allDeclare hall, hkey, r', hr', hreordered.perm.mem_iff.1 hp⟩
  · rintro ⟨hall, hkey, r', hr', hp⟩
    obtain ⟨r, hr, hreordered⟩ := h.exists_left hr'
    exact ⟨h.symm.allDeclare hall, hkey, r, hr, hreordered.perm.mem_iff.2 hp⟩

end Common

/-! ## Operations -/

/-- The order in which a route declares its parameters does not show in its operation. -/
theorem Reordered.operationOf {c : Config} (hnames : c.NamesByOperation) {r r' : Route}
    (h : r.Reordered r') (hn : (r.parameters.map RouteParameter.key).Nodup)
    {common : Dict ParameterKey RouteParameter} {op : Operation}
    (hop : r.operationOf c common = .ok op) : r'.operationOf c common = .ok op := by
  obtain ⟨parameters, hperm, rfl⟩ := h
  obtain ⟨name, xs, hname, hxs, rfl⟩ := operationOf_eq_ok_iff.1 hop
  have hown : (r.ownParameters common).Perm
      ({ r with parameters := parameters }.ownParameters common) := hperm.filter _
  obtain ⟨xs', hxs', hperm'⟩ := Run.exists_mapM_of_perm hown hxs
  refine operationOf_eq_ok_iff.2
    ⟨name, xs', (hnames { r with parameters := parameters } r rfl).trans hname, hxs', ?_⟩
  -- the parameters come out in another order, and are sorted
  have hsort : Parameter.sort xs = Parameter.sort xs' :=
    Parameter.sort_eq_of_perm hperm' (nodup_places_of_mapM hxs hn)
  rw [operationWith, operationWith, hsort]
  rfl

/-- A route uses the same models whatever the order of its parameters. -/
theorem Reordered.usedModels_perm {r r' : Route} (h : r.Reordered r') :
    r.usedModels.Perm r'.usedModels := by
  obtain ⟨parameters, hperm, rfl⟩ := h
  exact (hperm.flatMap_right _).append_left r.responseModels

end Route

/-! ## Paths -/

/-- The same path worked out, up to the order of what it adds to a document. -/
structure WorkedPath.Reordered (w w' : WorkedPath) : Prop where
  /-- The entry among the paths is the same. -/
  entry_eq : w.entry = w'.entry
  /-- The operations are the same ones. -/
  operations_perm : w.operations.Perm w'.operations
  /-- The models are the same ones. -/
  models_perm : w.models.Perm w'.models

/-- A reordered path has the same operations, with the same paths. -/
theorem WorkedPath.Reordered.operationPaths_perm {w w' : WorkedPath} (h : w.Reordered w') :
    w.operationPaths.Perm w'.operationPaths := by
  have hpath : w.path = w'.path := congrArg Prod.fst h.entry_eq
  rw [operationPaths, operationPaths, hpath]
  exact h.operations_perm.map _

/-- What reordered paths add to a document is the same up to the order, if it is for each path. -/
theorem WorkedPath.flatMap_perm {α : Type*} {work work' : List WorkedPath}
    (h : List.Forall₂ WorkedPath.Reordered work work') {f : WorkedPath → List α}
    (hf : ∀ w w', w.Reordered w' → (f w).Perm (f w')) : (work.flatMap f).Perm (work'.flatMap f) := by
  refine List.Perm.flatten_congr ?_
  rw [List.forall₂_map_left_iff, List.forall₂_map_right_iff]
  exact h.imp hf

namespace PathGroup

/-- A path with its routes rearranged. -/
structure Reordered (g g' : PathGroup) : Prop where
  /-- The path is the same. -/
  path_eq : g.path = g'.path
  /-- Its routes are rearranged. -/
  supported : Route.Rearranged g.supported g'.supported

variable {c : Config} {service : List RouteParameter} {g g' : PathGroup} {w w' : WorkedPath}

/-- Where no two routes of a path have one place, a slot holds the operation of the route with its
method. -/
theorem slot_eq_some_iff_of_nodup (hw : g.workedOut c service = .ok w) (hg : g.Uniform)
    (hn : (g.supported.map Route.place).Nodup) (m : Method) (op : Operation) :
    w.item.slot m = some op ↔
      ∃ r ∈ g.supported, m.Matches r.method ∧ r.operationOf c g.common = .ok op := by
  rw [slot_eq_some_iff hw]
  constructor
  · rintro ⟨r, hop, hlast⟩
    obtain ⟨hr, hm⟩ := List.mem_filter.1 (List.mem_of_getLast? hlast)
    exact ⟨r, hr, of_decide_eq_true hm, hop⟩
  · rintro ⟨r, hr, hm, hop⟩
    -- the last route with the method has the place of `r`, so it is `r`
    obtain ⟨last, hr', hm', hlast⟩ := Route.exists_last hr hm
    have hplace : ∀ r ∈ g.supported, m.Matches r.method → r.place = (g.path, some m) :=
      fun r hr hm => Prod.ext (hg r hr) ((Method.slot?_eq_some_iff (List.mem_filter.1 hr).2 m).2 hm)
    have heq := List.inj_on_of_nodup_map hn hr hr'
      ((hplace r hr hm).trans (hplace last hr' hm').symm)
    exact ⟨r, hop, heq ▸ hlast⟩

/-- The routes of a path can be told apart by their places, and agree. -/
structure OrderFree (g : PathGroup) : Prop where
  /-- The routes have the path of the group. -/
  uniform : g.Uniform
  /-- No two routes have one place. -/
  nodup_places : (g.supported.map Route.place).Nodup
  /-- Routes declare parameters with one key alike. -/
  agree : Route.Agree g.supported

/-- The routes of a group have its path in any order. -/
theorem Reordered.uniform (h : g.Reordered g') (hg : g.Uniform) : g'.Uniform := by
  intro r' hr'
  obtain ⟨r, hr, hreordered⟩ := h.supported.exists_left hr'
  have hpath : r.documentPath = r'.documentPath := congrArg Prod.fst hreordered.place_eq
  rw [← hpath, hg r hr, h.path_eq]

/-- The slots of a path do not depend on the order of its routes. -/
theorem Reordered.slot_eq (h : g.Reordered g') (hnames : c.NamesByOperation)
    (hfree : g.OrderFree) (hw : g.workedOut c service = .ok w)
    (hw' : g'.workedOut c service = .ok w') (m : Method) : w.item.slot m = w'.item.slot m := by
  have hn := nodup_keys_of_workedOut hw
  have hcommon : g.common = g'.common := h.supported.common_eq hn hfree.agree
  have hplaces : (g'.supported.map Route.place).Nodup :=
    (h.supported.map_perm fun _ _ hr => hr.place_eq).nodup_iff.1 hfree.nodup_places
  refine Option.ext fun op => ?_
  rw [slot_eq_some_iff_of_nodup hw hfree.uniform hfree.nodup_places,
    slot_eq_some_iff_of_nodup hw' (h.uniform hfree.uniform) hplaces, ← hcommon]
  constructor
  · rintro ⟨r, hr, hm, hop⟩
    obtain ⟨r', hr', hreordered⟩ := h.supported.exists_right hr
    exact ⟨r', hr', hreordered.method_eq ▸ hm, hreordered.operationOf hnames (hn r hr) hop⟩
  · rintro ⟨r', hr', hm, hop⟩
    obtain ⟨r, hr, hreordered⟩ := h.supported.exists_left hr'
    exact ⟨r, hr, hreordered.method_eq ▸ hm, hreordered.symm.operationOf hnames
      (nodup_keys_of_workedOut hw' r' hr') hop⟩

/-- **A path does not depend on the order of its routes**, nor on the order of their parameters. -/
theorem Reordered.workedOut (h : g.Reordered g') (hnames : c.NamesByOperation) (hfree : g.OrderFree)
    (hw : g.workedOut c service = .ok w) : ∃ w', g'.workedOut c service = .ok w' ∧ w.Reordered w' := by
  have hn := nodup_keys_of_workedOut hw
  have hcommon : g.common = g'.common := h.supported.common_eq hn hfree.agree
  obtain ⟨-, item, operations, hitem, hops, rfl⟩ := workedOut_eq_ok_iff.1 hw
  obtain ⟨operations', hops', hperm⟩ := h.supported.mapM hops fun r hr r' op hr' hop =>
    hr'.operationOf hnames (hn r hr) hop
  have hw' := workedOut_eq_ok_iff.2 ⟨(Route.checkDuplicates_eq_ok_iff _).2 (h.supported.nodup_keys hn),
    item, operations', hcommon ▸ hitem, hcommon ▸ hops', rfl⟩
  refine ⟨_, hw', ?_⟩
  constructor
  case entry_eq =>
    refine Prod.ext h.path_eq (PathItem.eq_of_slot_eq (h.slot_eq hnames hfree hw hw') ?_ ?_)
    · exact (PathItem.parameters_fill _ _).trans (PathItem.parameters_fill _ _).symm
    · exact (PathItem.extensions_fill _ _).trans (PathItem.extensions_fill _ _).symm
  case operations_perm =>
    exact hperm
  case models_perm =>
    rw [models_of_workedOut hw, models_of_workedOut hw']
    exact h.supported.flatMap_perm fun r r' hr => hr.usedModels_perm

end PathGroup

end Swagger
