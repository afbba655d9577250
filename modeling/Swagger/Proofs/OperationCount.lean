import Mathlib.Data.List.Dedup
import Swagger.Proofs.OperationNames

/-! # How many operations a document has
A slot holds one operation, so of several surviving routes with one path and one method only the last
is described. A document therefore has one operation for each *place* — a path and a method — that some
surviving route has, and has as many operations as there are surviving routes only where no two of them
share a place.

* `Document.operations`, `Document.filledSlots` — the operations of a document and where they stand.
* `Route.place` — the path and the slot of a route.
* `Config.Assembled.filledSlots_perm` — the filled slots of a document are the places of the surviving
  routes.
* `RouteSet.buildDocument_operations` — the number of operations, and which routes are described. -/

namespace Swagger

/-! ## Operations and filled slots -/

namespace PathItem

/-- The methods whose slots are filled, in order. -/
def filled (item : PathItem) : List Method := Method.all.filter fun m => (item.slot m).isSome

/-- A path has as many operations as filled slots. -/
theorem length_operations (item : PathItem) : item.operations.length = item.filled.length := by
  rw [operations, filled, List.length_filterMap_eq_countP, List.countP_eq_length_filter]

end PathItem

namespace Document

/-- The operations of a document, path by path. -/
def operations (d : Document) : List Operation := d.paths.values.flatMap PathItem.operations

/-- The slots of a document that are filled, each with its path. -/
def filledSlots (d : Document) : List (String × Method) :=
  d.paths.entries.flatMap fun e => e.2.filled.map (Prod.mk e.1)

/-- A document has as many operations as filled slots. -/
theorem length_operations (d : Document) : d.operations.length = d.filledSlots.length := by
  rw [operations, filledSlots, Dict.values, List.flatMap_map, List.length_flatMap,
    List.length_flatMap]
  simp only [PathItem.length_operations, List.length_map]

variable {d : Document}

/-- The operations of a document are those in its slots. -/
theorem mem_operations_iff (hn : d.paths.keys.Nodup) (op : Operation) :
    op ∈ d.operations ↔ ∃ path m, d.operationAt? path m = some op := by
  simp only [operations, Dict.values, PathItem.operations, List.mem_flatMap, List.mem_map,
    List.mem_filterMap, operationAt?, Option.bind_eq_some_iff]
  constructor
  · rintro ⟨item, ⟨⟨path, item'⟩, he, rfl⟩, m, -, hslot⟩
    exact ⟨path, m, item', (Dict.mem_iff_lookup hn path item').1 he, hslot⟩
  · rintro ⟨path, m, item, hfind, hslot⟩
    exact ⟨item, ⟨(path, item), Dict.mem_entries_of_find? hfind, rfl⟩, m, Method.mem_all m, hslot⟩

/-- A slot is filled if there is an operation in it. -/
theorem mem_filledSlots_iff (hn : d.paths.keys.Nodup) (path : String) (m : Method) :
    (path, m) ∈ d.filledSlots ↔ (d.operationAt? path m).isSome := by
  simp only [filledSlots, PathItem.filled, List.mem_flatMap, List.mem_map, List.mem_filter,
    Method.mem_all, true_and, Prod.mk.injEq]
  constructor
  · rintro ⟨⟨path', item⟩, he, m', hslot, rfl, rfl⟩
    have hfind : d.paths.find? path' = some item := (Dict.mem_iff_lookup hn path' item).1 he
    rwa [operationAt?, hfind]
  · intro h
    obtain ⟨op, hop⟩ := Option.isSome_iff_exists.1 h
    obtain ⟨item, hfind, hslot⟩ := Option.bind_eq_some_iff.1 hop
    exact ⟨(path, item), Dict.mem_entries_of_find? hfind, m, by rw [hslot]; rfl, rfl, rfl⟩

/-- Where each path stands once, so does each filled slot. -/
theorem nodup_filledSlots (hn : d.paths.keys.Nodup) : d.filledSlots.Nodup := by
  have hall : Method.all.Nodup := by decide
  rw [filledSlots, List.nodup_flatMap]
  constructor
  · intro e _
    exact (hall.filter _).map fun m m' h => (Prod.mk.inj h).2
  · rw [Dict.keys, List.Nodup, List.pairwise_map] at hn
    refine hn.imp fun {e e'} hne x hx hx' => hne ?_
    -- a slot tells the path that it belongs to
    obtain ⟨m, -, rfl⟩ := List.mem_map.1 hx
    obtain ⟨m', -, heq⟩ := List.mem_map.1 hx'
    exact (Prod.mk.inj heq).1.symm

end Document

/-! ## The places of routes -/

/-- Where the operation of a route belongs: its path, and the slot of its method. -/
def Route.place (r : Route) : String × Option Method := (r.documentPath, Method.slot? r.method)

namespace Config

variable {c : Config} {sets : List RouteSet} {r : Route}

/-- The method of a surviving route is supported. -/
theorem isSupported_of_mem_surviving (hr : r ∈ c.surviving sets) :
    Method.isSupported r.method = true := by
  obtain ⟨s, -, hrs⟩ := (c.mem_surviving sets r).1 hr
  obtain ⟨-, -, hmethod⟩ := of_decide_eq_true (List.mem_filter.1 hrs).2
  exact hmethod

/-- The place of a surviving route. -/
theorem place_eq_iff (hr : r ∈ c.surviving sets) (path : String) (m : Method) :
    r.place = (path, some m) ↔ r.documentPath = path ∧ m.Matches r.method := by
  rw [Route.place, Prod.mk.injEq, Method.slot?_eq_some_iff (isSupported_of_mem_surviving hr)]

/-- A surviving route has a place with a slot. -/
theorem exists_place_eq (hr : r ∈ c.surviving sets) : ∃ m, r.place = (r.documentPath, some m) := by
  obtain ⟨m, hm⟩ := (Method.isSupported_iff r.method).1 (isSupported_of_mem_surviving hr)
  exact ⟨m, (place_eq_iff hr _ m).2 ⟨rfl, hm⟩⟩

namespace Assembled

variable {c : Config} {sets : List RouteSet} {work : List WorkedPath} {draft : Draft}

/-- No path of a document stands there twice. -/
theorem nodup_keys_paths (h : c.Assembled sets work draft) :
    (c.inlineDocument draft).shared.paths.keys.Nodup := by
  have hpaths : draft.paths = Dict.ofList (work.map WorkedPath.entry) := h.extended.paths_eq
  rw [Document.shared_paths, Dict.keys_map, inlineDocument, secured_paths, hpaths]
  exact (Dict.sorted_ofList _).nodup_keys

/-- A slot is filled when it is in the place of some surviving route. -/
theorem isSome_operationAt?_iff_place (h : c.Assembled sets work draft) (path : String) (m : Method) :
    ((c.inlineDocument draft).shared.operationAt? path m).isSome ↔
      ∃ r ∈ c.surviving sets, r.place = (path, some m) := by
  rw [Document.operationAt?_shared, Option.isSome_map, h.isSome_operationAt?_iff]
  exact exists_congr fun r => and_congr_right fun hr => (place_eq_iff hr path m).symm

/-- An operation describes the last of the surviving routes of its place. -/
theorem exists_last_of_operationAt? (h : c.Assembled sets work draft) {path : String} {m : Method}
    {op : Operation} (hop : (c.inlineDocument draft).shared.operationAt? path m = some op) :
    ∃ r, r.DescribedBy c op ∧
      ((c.surviving sets).filter fun r => r.place = (path, some m)).getLast? = some r := by
  rw [Document.operationAt?_shared] at hop
  obtain ⟨op, hinline, rfl⟩ := Option.map_eq_some_iff.1 hop
  obtain ⟨-, -, g, -, r, -, hr, hlast⟩ := (h.operationAt?_eq_some_iff path m op).1 hinline
  refine ⟨r, (Route.describedBy_of_operationOf hr).withParameters _, ?_⟩
  rw [← hlast]
  exact congrArg List.getLast?
    (List.filter_congr fun r hr => decide_eq_decide.2 (place_eq_iff hr path m))

/-- **The filled slots of a document** are the places of the surviving routes, each of them once. -/
theorem filledSlots_perm (h : c.Assembled sets work draft) :
    ((c.inlineDocument draft).shared.filledSlots.map fun x => (x.1, some x.2)).Perm
      ((c.surviving sets).map Route.place).dedup := by
  have hn := Document.nodup_filledSlots h.nodup_keys_paths
  have hinj : Function.Injective fun x : String × Method => (x.1, some x.2) := by
    rintro ⟨path, m⟩ ⟨path', m'⟩ heq
    simpa using heq
  -- neither list has anything twice, so it is enough to compare their members
  refine (List.perm_ext_iff_of_nodup (hn.map hinj) (List.nodup_dedup _)).2 ?_
  rintro ⟨path, slot⟩
  rw [List.mem_dedup, List.mem_map, List.mem_map]
  constructor
  · rintro ⟨⟨path', m⟩, hx, heq⟩
    rw [Document.mem_filledSlots_iff h.nodup_keys_paths, h.isSome_operationAt?_iff_place] at hx
    exact heq ▸ hx
  · rintro ⟨r, hr, hplace⟩
    obtain ⟨m, hm⟩ := exists_place_eq hr
    refine ⟨(r.documentPath, m), ?_, hm.symm.trans hplace⟩
    rw [Document.mem_filledSlots_iff h.nodup_keys_paths, h.isSome_operationAt?_iff_place]
    exact ⟨r, hr, hm⟩

/-- **A route is described** by an operation of the document exactly when no later route has its
place. -/
theorem exists_describedBy_iff (h : c.Assembled sets work draft) {before after : List Route}
    {r : Route} (hsplit : c.surviving sets = before ++ r :: after) :
    (∃ op ∈ (c.inlineDocument draft).shared.operations, r.DescribedBy c op) ↔
      ∀ r' ∈ after, r'.place ≠ r.place := by
  have hr : r ∈ c.surviving sets := hsplit ▸ List.mem_append_right _ List.mem_cons_self
  simp only [Document.mem_operations_iff h.nodup_keys_paths]
  constructor
  · rintro ⟨op, ⟨path, m, hop⟩, hdescribed⟩ r' hr' hplace'
    obtain ⟨last, hlast, hget⟩ := h.exists_last_of_operationAt? hop
    obtain ⟨hmem, hcond⟩ := List.mem_filter.1 (List.mem_of_getLast? hget)
    -- the operation has the name of both routes, so they are one
    have hsame : r.SameName c last := ⟨op.id, op.tags, op.tags, hdescribed.name_eq, hlast.name_eq⟩
    have hnames := h.pairwise_not_sameName
    obtain rfl : r = last := by
      by_contra hne
      exact hnames.forall hr hmem hne hsame
    have hplace : r.place = (path, some m) := of_decide_eq_true hcond
    -- but the last route of the place stands behind it
    have hlater : r' ∈ after.filter fun r => r.place = (path, some m) :=
      List.mem_filter.2 ⟨hr', decide_eq_true (hplace'.trans hplace)⟩
    rw [hsplit, List.append_cons, List.filter_append,
      List.getLast?_append_of_ne_nil _ (List.ne_nil_of_mem hlater)] at hget
    have hafter : r ∈ after := List.mem_of_mem_filter (List.mem_of_getLast? hget)
    rw [hsplit, List.pairwise_append, List.pairwise_cons] at hnames
    exact hnames.2.1.1 r hafter hsame
  · intro hlater
    obtain ⟨m, hm⟩ := exists_place_eq hr
    obtain ⟨op, hop⟩ := Option.isSome_iff_exists.1
      ((h.isSome_operationAt?_iff_place r.documentPath m).2 ⟨r, hr, hm⟩)
    obtain ⟨last, hlast, hget⟩ := h.exists_last_of_operationAt? hop
    -- the route is the last of its place
    have hnone : after.filter (fun r' => r'.place = (r.documentPath, some m)) = [] := by
      rw [List.filter_eq_nil_iff]
      exact fun r' hr' hplace => hlater r' hr' ((of_decide_eq_true hplace).trans hm.symm)
    rw [hsplit, List.append_cons, List.filter_append, hnone, List.append_nil, List.filter_append,
      List.filter_singleton, decide_eq_true hm, cond_true, List.getLast?_concat] at hget
    obtain rfl : r = last := Option.some.inj hget
    exact ⟨op, ⟨r.documentPath, m, hop⟩, hlast⟩

end Assembled

end Config

/-- **How many operations a document has**: as many as the surviving routes have places. So each route
has an operation of its own exactly when no two have one place, and where they do, of the routes of one
place just the last is described. -/
theorem RouteSet.buildDocument_operations {c : Config} (hc : c.complete = none) {sets : List RouteSet}
    {d : Document} (hd : RouteSet.buildDocument c sets = .ok d) :
    d.operations.length = ((c.surviving sets).map Route.place).dedup.length ∧
    (d.operations.length = (c.surviving sets).length ↔
      ((c.surviving sets).map Route.place).Nodup) ∧
    ∀ before r after, c.surviving sets = before ++ r :: after →
      ((∃ op ∈ d.operations, r.DescribedBy c op) ↔ ∀ r' ∈ after, r'.place ≠ r.place) := by
  obtain ⟨work, draft, h, rfl⟩ := (buildDocument_eq_ok_iff hc sets d).1 hd
  have hcount : (c.inlineDocument draft).shared.operations.length
      = ((c.surviving sets).map Route.place).dedup.length := by
    rw [Document.length_operations, ← h.filledSlots_perm.length_eq, List.length_map]
  refine ⟨hcount, ?_, fun before r after hsplit => h.exists_describedBy_iff hsplit⟩
  rw [hcount, ← List.dedup_eq_self]
  constructor
  · intro hlength
    -- what is left when repetitions go is the whole list if it is as long
    exact (List.dedup_sublist _).eq_of_length (hlength.trans (List.length_map _).symm)
  · intro hdedup
    rw [hdedup, List.length_map]

/-- List all items. -/
def Route.listItems : Route := { method := "GET", path := "/items", operation := "listItems" }

/-- Find some of the items, with the path and the method of listing them all. -/
def Route.findItems : Route := { method := "GET", path := "/items", operation := "findItems" }

/-- A service with both. -/
def RouteSet.lookups : List RouteSet :=
  [{ rootPath := "/items", routes := [Route.listItems, Route.findItems] }]

/-- Of both routes the document only has the second. -/
theorem RouteSet.buildDocument_operations_lookups :
    ∃ d, RouteSet.buildDocument {} RouteSet.lookups = .ok d ∧ d.operations.length = 1 ∧
      (¬∃ op ∈ d.operations, Route.listItems.DescribedBy {} op) ∧
      ∃ op ∈ d.operations, Route.findItems.DescribedBy {} op := by
  have hbuilt : (RouteSet.buildDocument {} RouteSet.lookups).toOption.isSome := by decide +kernel
  have hsurviving : Config.surviving {} RouteSet.lookups = [Route.listItems, Route.findItems] := by
    decide +kernel
  obtain ⟨d, hd⟩ := Run.exists_of_isSome hbuilt
  obtain ⟨hcount, -, hdescribed⟩ := buildDocument_operations rfl hd
  have hplaces : ([Route.listItems, Route.findItems].map Route.place).dedup.length = 1 := by
    decide +kernel
  rw [hsurviving] at hcount hdescribed
  refine ⟨d, hd, hcount.trans hplaces, ?_, ?_⟩
  · rw [hdescribed [] Route.listItems [Route.findItems] rfl]
    exact fun hlater => hlater Route.findItems List.mem_cons_self (by decide +kernel)
  · rw [hdescribed [Route.listItems] Route.findItems [] rfl]
    exact fun r hr => nomatch hr

/-- Of two surviving routes that share a place one is dropped, and the build does not fail. -/
theorem RouteSet.buildDocument_operations_dropped :
    ¬∀ (c : Config) (sets : List RouteSet) (d : Document), c.complete = none →
      RouteSet.buildDocument c sets = .ok d → d.operations.length = (c.surviving sets).length := by
  intro h
  have hbuilt : (RouteSet.buildDocument {} RouteSet.lookups).toOption.map (fun d =>
      d.operations.length) = some 1 := by decide +kernel
  have hsurviving : (Config.surviving {} RouteSet.lookups).length = 2 := by decide +kernel
  cases hd : RouteSet.buildDocument {} RouteSet.lookups with
  | error e => rw [hd] at hbuilt; exact nomatch hbuilt
  | ok d =>
    rw [hd] at hbuilt
    have hone : d.operations.length = 1 := Option.some.inj hbuilt
    have htwo := h {} RouteSet.lookups d rfl hd
    rw [hone, hsurviving] at htwo
    exact absurd htwo (by decide)

end Swagger
