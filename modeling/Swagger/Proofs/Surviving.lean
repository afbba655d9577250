import Mathlib.Data.List.Flatten
import Mathlib.Data.List.Nodup
import Swagger.Proofs.Paths
import Swagger.Proofs.PrefixTree
import Swagger.Proofs.Sharing

/-! # The routes that survive
Services and paths under an ignored prefix are left out, and so are routes whose method has no slot.
The other routes *survive*. They are grouped by the path under which they were registered, and each
such group becomes one path of the document.

* `Route.Survives`, `RouteSet.surviving`, `Config.surviving` — the routes that are not left out.
* `RouteSet.live`, `Config.live` — the groups with a surviving route, with the parameters of their
  service.
* `RouteSet.buildDocument_eq_ok_iff` — a document is built exactly when the parameters of all services
  are sound, and the live groups can be worked out and put together.
* `Config.filter_surviving` — in a document the surviving routes of a path are those of one group. -/

namespace Swagger

/-! ## Routes and groups -/

/-- Whether a path begins with a prefix that is left out. -/
def Config.ignores (c : Config) (path : String) : Bool :=
  c.ignoredPrefixes.any fun w => (PrefixTree.bytes w).isPrefixOf (PrefixTree.bytes path)

/-- The tree of the ignored prefixes finds the paths that begin with one. -/
theorem Config.beginsWith_ignoredPrefixes (c : Config) (path : String) :
    (PrefixTree.ofWords c.ignoredPrefixes).beginsWith path = c.ignores path := by
  rw [Bool.eq_iff_iff, PrefixTree.beginsWith_ofWords_iff]
  simp [ignores]

namespace Route

/-- The path of a route as it stands in a document. -/
def documentPath (r : Route) : String := Path.withoutWildcard r.path

/-- A route of a service is not left out. -/
def Survives (c : Config) (s : RouteSet) (r : Route) : Prop :=
  c.ignores s.rootPath = false ∧ c.ignores r.documentPath = false ∧
    Method.isSupported r.method = true

instance (c : Config) (s : RouteSet) (r : Route) : Decidable (r.Survives c s) :=
  inferInstanceAs (Decidable (_ ∧ _))

end Route

namespace RouteSet

/-- The routes of a service that are not left out. -/
def surviving (c : Config) (s : RouteSet) : List Route := s.routes.filter fun r => r.Survives c s

/-- The routes that were registered under a path. -/
def routesAt (s : RouteSet) (path : String) : List Route := s.routes.filter fun r => r.path = path

/-- The group of the routes that were registered under a path. -/
def groupAt (s : RouteSet) (path : String) : PathGroup :=
  ⟨Path.withoutWildcard path, s.routesAt path⟩

/-- Under each path the routes that were registered there are found, if there are any. -/
theorem find?_groups (s : RouteSet) (path : String) :
    s.groups.find? path
      = if (s.routesAt path).isEmpty then none else some (s.routesAt path) := by
  suffices h : ∀ routes : List Route,
      (routes.foldl (fun (d : Dict String (List Route)) r =>
          d.insert r.path ((d.find? r.path).getD [] ++ [r])) ∅).find? path
        = if (routes.filter fun r => r.path = path).isEmpty then none
          else some (routes.filter fun r => r.path = path) from h s.routes
  intro routes
  induction routes using List.reverseRecOn with
  | nil => simp
  | append_singleton routes r ih =>
    rw [List.foldl_append, List.foldl_cons, List.foldl_nil, Dict.find?_insert, List.filter_append,
      List.filter_singleton]
    by_cases h : path = r.path
    · -- the last route is put behind those that were there
      subst h
      rw [ih]
      cases routes.filter fun r' => r'.path = r.path <;> simp
    · rw [if_neg h, ih]
      simp [Ne.symm h]

/-- The groups of routes stand in the order of their paths. -/
theorem sorted_groups (s : RouteSet) : s.groups.Sorted := by
  refine List.foldlRecOn s.routes _ Dict.sorted_empty ?_
  exact fun _ hsorted r _ => hsorted.insert r.path _

/-- There is a group for every path of a route. -/
theorem mem_keys_groups (s : RouteSet) (path : String) :
    path ∈ s.groups.keys ↔ ∃ r ∈ s.routes, r.path = path := by
  rw [Dict.mem_keys_iff, ← Option.isSome_iff_exists, find?_groups]
  simp [routesAt]

/-- The groups as they are worked on: the routes registered under each path, by its form in the
document. -/
theorem map_groups_eq (s : RouteSet) :
    (s.groups.entries.map fun e => PathGroup.mk (Path.withoutWildcard e.1) e.2)
      = s.groups.keys.map s.groupAt := by
  rw [Dict.keys, List.map_map]
  refine List.map_congr_left fun e he => ?_
  have hfind := (Dict.mem_entries_iff s.sorted_groups e.1 e.2).1 he
  rw [find?_groups] at hfind
  split at hfind
  · cases hfind
  · simp [groupAt, Option.some.inj hfind]

/-- The groups of a service that have a surviving route. -/
def live (c : Config) (s : RouteSet) : List PathGroup :=
  if c.ignores s.rootPath then []
  else (s.groups.keys.map s.groupAt).filter fun g => !c.ignores g.path && !g.supported.isEmpty

/-- A live group is one that is not left out and has a route whose method is supported. -/
theorem mem_live (c : Config) (s : RouteSet) (g : PathGroup) :
    g ∈ s.live c ↔ c.ignores s.rootPath = false ∧ c.ignores g.path = false ∧ g.supported ≠ [] ∧
      ∃ path, g = s.groupAt path := by
  unfold live
  by_cases hroot : c.ignores s.rootPath = true
  · simp [hroot]
  · simp only [hroot, Bool.false_eq_true, if_false, List.mem_filter, List.mem_map, mem_keys_groups,
      Bool.and_eq_true, Bool.not_eq_true', List.isEmpty_eq_false_iff, true_and]
    constructor
    · rintro ⟨⟨path, -, rfl⟩, hpath, hne⟩
      exact ⟨hpath, hne, path, rfl⟩
    · rintro ⟨hpath, hne, path, rfl⟩
      obtain ⟨r, hr⟩ := List.exists_mem_of_ne_nil _ hne
      have hmem := List.mem_filter.1 (List.mem_filter.1 hr).1
      exact ⟨⟨path, ⟨r, hmem.1, by simpa using hmem.2⟩, rfl⟩, hpath, hne⟩

/-- The routes of a group that have a slot are those of the service registered under its path. -/
theorem mem_supported_groupAt (s : RouteSet) (path : String) (r : Route) :
    r ∈ (s.groupAt path).supported ↔
      r ∈ s.routes ∧ r.path = path ∧ Method.isSupported r.method = true := by
  simp only [groupAt, PathGroup.supported, routesAt, List.mem_filter, decide_eq_true_eq, and_assoc]

/-- A route survives exactly when it stands in a live group, which is then that of its path. -/
theorem mem_surviving_iff (c : Config) (s : RouteSet) (r : Route) :
    r ∈ s.surviving c ↔ s.groupAt r.path ∈ s.live c ∧ r ∈ (s.groupAt r.path).supported := by
  rw [surviving, List.mem_filter, mem_live, mem_supported_groupAt]
  constructor
  · rintro ⟨hr, hs⟩
    obtain ⟨hroot, hpath, hmethod⟩ := of_decide_eq_true hs
    have hmem := (s.mem_supported_groupAt r.path r).2 ⟨hr, rfl, hmethod⟩
    exact ⟨⟨hroot, hpath, List.ne_nil_of_mem hmem, r.path, rfl⟩, hr, rfl, hmethod⟩
  · rintro ⟨⟨hroot, hpath, -⟩, hr, -, hmethod⟩
    exact ⟨hr, decide_eq_true ⟨hroot, hpath, hmethod⟩⟩

/-- A surviving route stands in a live group of its path. -/
theorem exists_live_of_mem_surviving {c : Config} {s : RouteSet} {r : Route}
    (hr : r ∈ s.surviving c) : ∃ g ∈ s.live c, r ∈ g.supported ∧ g.path = r.documentPath :=
  ⟨_, ((s.mem_surviving_iff c r).1 hr).1, ((s.mem_surviving_iff c r).1 hr).2, rfl⟩

/-- The routes of a live group survive, and have its path. -/
theorem mem_surviving_of_live {c : Config} {s : RouteSet} {g : PathGroup} (hg : g ∈ s.live c)
    {r : Route} (hr : r ∈ g.supported) : r ∈ s.surviving c ∧ r.documentPath = g.path := by
  obtain ⟨hroot, hpath, hne, path, rfl⟩ := (s.mem_live c _).1 hg
  obtain ⟨hmem, rfl, hmethod⟩ := (s.mem_supported_groupAt path r).1 hr
  exact ⟨(s.mem_surviving_iff c r).2 ⟨hg, hr⟩, rfl⟩

/-- Where no two live groups of a service have one path, the surviving routes of a path are those of
its group. -/
theorem filter_surviving {c : Config} {s : RouteSet} (hn : ((s.live c).map PathGroup.path).Nodup)
    {g : PathGroup} (hg : g ∈ s.live c) :
    (s.surviving c).filter (fun r => r.documentPath = g.path) = g.supported := by
  obtain ⟨-, -, -, path, hgroup⟩ := (s.mem_live c g).1 hg
  have hsupported : g.supported
      = s.routes.filter fun r => Method.isSupported r.method && decide (r.path = path) := by
    rw [hgroup, PathGroup.supported, groupAt, routesAt, List.filter_filter]
  rw [hsupported, surviving, List.filter_filter]
  refine List.filter_congr fun r hr => Bool.eq_iff_iff.2 ?_
  simp only [Bool.and_eq_true, decide_eq_true_eq]
  constructor
  · rintro ⟨hpath, hs⟩
    obtain ⟨g', hg', hmem, hpath'⟩ :=
      exists_live_of_mem_surviving (List.mem_filter.2 ⟨hr, decide_eq_true hs⟩)
    -- both groups have the path of the route, so they are one
    obtain rfl : g' = g := List.inj_on_of_nodup_map hn hg' hg (hpath'.trans hpath)
    rw [hgroup, mem_supported_groupAt] at hmem
    exact ⟨hmem.2.2, hmem.2.1⟩
  · rintro ⟨hmethod, hpath⟩
    have hmem : r ∈ g.supported := by
      rw [hgroup, mem_supported_groupAt]
      exact ⟨hr, hpath, hmethod⟩
    obtain ⟨hs, hpath'⟩ := mem_surviving_of_live hg hmem
    exact ⟨hpath', of_decide_eq_true (List.mem_filter.1 hs).2⟩

end RouteSet

/-! ## All services -/

namespace Config

/-- The routes that are not left out, service by service. -/
def surviving (c : Config) (sets : List RouteSet) : List Route := sets.flatMap (RouteSet.surviving c)

/-- The groups that have a surviving route, each with the parameters of its service. -/
def live (c : Config) (sets : List RouteSet) : List (List RouteParameter × PathGroup) :=
  sets.flatMap fun s => (s.live c).map (Prod.mk s.pathParameters)

/-- The paths of the live groups. -/
def livePaths (c : Config) (sets : List RouteSet) : List String :=
  (c.live sets).map fun x => x.2.path

/-- The surviving routes are those of each service. -/
theorem mem_surviving (c : Config) (sets : List RouteSet) (r : Route) :
    r ∈ c.surviving sets ↔ ∃ s ∈ sets, r ∈ s.surviving c :=
  List.mem_flatMap

/-- The live paths are those of each service. -/
theorem livePaths_eq_flatMap (c : Config) (sets : List RouteSet) :
    c.livePaths sets = sets.flatMap fun s => (s.live c).map PathGroup.path := by
  rw [livePaths, live, List.map_flatMap]
  simp [Function.comp_def]

/-- The paths of the live groups are those of the surviving routes. -/
theorem mem_livePaths (c : Config) (sets : List RouteSet) (path : String) :
    path ∈ c.livePaths sets ↔ ∃ r ∈ c.surviving sets, r.documentPath = path := by
  simp only [livePaths_eq_flatMap, List.mem_flatMap, List.mem_map, mem_surviving]
  constructor
  · rintro ⟨s, hs, g, hg, rfl⟩
    obtain ⟨-, -, hne, -⟩ := (s.mem_live c g).1 hg
    obtain ⟨r, hr⟩ := List.exists_mem_of_ne_nil _ hne
    obtain ⟨hsurv, hpath⟩ := RouteSet.mem_surviving_of_live hg hr
    exact ⟨r, ⟨s, hs, hsurv⟩, hpath⟩
  · rintro ⟨r, ⟨s, hs, hr⟩, rfl⟩
    obtain ⟨g, hg, -, hpath⟩ := RouteSet.exists_live_of_mem_surviving hr
    exact ⟨s, hs, g, hg, hpath⟩

/-- Where no two live groups have one path, the surviving routes of a path are those of its group. -/
theorem filter_surviving {c : Config} {sets : List RouteSet} (hn : (c.livePaths sets).Nodup)
    {s : RouteSet} (hs : s ∈ sets) {g : PathGroup} (hg : g ∈ s.live c) :
    (c.surviving sets).filter (fun r => r.documentPath = g.path) = g.supported := by
  induction sets with
  | nil => exact nomatch hs
  | cons t rest ih =>
    -- services without a live group of the path have no surviving route of it
    have hforeign : ∀ sets : List RouteSet, g.path ∉ c.livePaths sets →
        (c.surviving sets).filter (fun r => r.documentPath = g.path) = [] := by
      intro sets h
      rw [List.filter_eq_nil_iff]
      intro r hr hpath
      exact h ((c.mem_livePaths sets g.path).2 ⟨r, hr, of_decide_eq_true hpath⟩)
    rw [livePaths_eq_flatMap, List.flatMap_cons, List.nodup_append, ← livePaths_eq_flatMap] at hn
    obtain ⟨ht, hrest, hdisj⟩ := hn
    have hpath : g.path ∈ (s.live c).map PathGroup.path := List.mem_map_of_mem hg
    rw [surviving, List.flatMap_cons, List.filter_append, ← surviving]
    rcases List.mem_cons.1 hs with rfl | hs
    · rw [RouteSet.filter_surviving ht hg, hforeign rest fun h => hdisj _ hpath _ h rfl,
        List.append_nil]
    · have hmem : g.path ∈ c.livePaths rest := by
        rw [livePaths_eq_flatMap]
        exact List.mem_flatMap.2 ⟨s, hs, hpath⟩
      have hnil := hforeign [t] fun h => by
        rw [livePaths_eq_flatMap, List.flatMap_cons, List.flatMap_nil, List.append_nil] at h
        exact hdisj _ h _ hmem rfl
      rw [surviving, List.flatMap_cons, List.flatMap_nil, List.append_nil] at hnil
      rw [hnil, ih hrest hs, List.nil_append]

/-- Where no two live groups have one path, the surviving routes of a path come from one service, and
were registered under one path. -/
theorem eq_of_documentPath_eq {c : Config} {sets : List RouteSet} (hn : (c.livePaths sets).Nodup)
    {i j : Nat} {s t : RouteSet} (hi : sets[i]? = some s) (hj : sets[j]? = some t) {r r' : Route}
    (hr : r ∈ s.surviving c) (hr' : r' ∈ t.surviving c) (h : r.documentPath = r'.documentPath) :
    i = j ∧ r.path = r'.path := by
  obtain ⟨g, hg, hmem, hpath⟩ := RouteSet.exists_live_of_mem_surviving hr
  obtain ⟨g', hg', hmem', hpath'⟩ := RouteSet.exists_live_of_mem_surviving hr'
  have hmap : r.documentPath ∈ (s.live c).map PathGroup.path := hpath ▸ List.mem_map_of_mem hg
  have hmap' : r.documentPath ∈ (t.live c).map PathGroup.path :=
    h.trans hpath'.symm ▸ List.mem_map_of_mem hg'
  rw [livePaths_eq_flatMap, List.nodup_flatMap, List.pairwise_iff_getElem] at hn
  obtain ⟨hilt, rfl⟩ := List.getElem?_eq_some_iff.1 hi
  obtain ⟨hjlt, rfl⟩ := List.getElem?_eq_some_iff.1 hj
  -- Two services would have two live groups of one path, and so would two registered paths of one.
  rcases Nat.lt_trichotomy i j with hlt | rfl | hgt
  · exact absurd hmap' (hn.2 i j hilt hjlt hlt hmap)
  · refine ⟨rfl, ?_⟩
    obtain rfl : g = g' := List.inj_on_of_nodup_map (hn.1 _ (List.getElem_mem hilt)) hg hg'
      (hpath.trans (h.trans hpath'.symm))
    obtain ⟨-, -, -, path, rfl⟩ := (RouteSet.mem_live c _ _).1 hg
    rw [RouteSet.mem_supported_groupAt] at hmem hmem'
    rw [hmem.2.1, hmem'.2.1]
  · exact absurd hmap (hn.2 j i hjlt hilt hgt hmap')

end Config

/-! ## From units of work to a document -/

namespace Stage

/-- The group of a path that has a route with a slot, with the parameters of its service. -/
def live? : Stage → Option (List RouteParameter × PathGroup)
  | .service _ => none
  | .path parameters g => if g.supported.isEmpty then none else some (parameters, g)

/-- The paths that units of work give are that of the first, if it gives one, and those of the rest. -/
theorem mapM_workedOut_cons_iff (c : Config) (stage : Stage) (rest : List Stage)
    (work : List WorkedPath) :
    (∃ results, (stage :: rest).mapM (workedOut c) = .ok results ∧
        results.flatMap Option.toList = work) ↔
      ∃ w more, stage.workedOut c = .ok w ∧
        (∃ results, rest.mapM (workedOut c) = .ok results ∧ results.flatMap Option.toList = more) ∧
        w.toList ++ more = work := by
  simp only [List.mapM_cons, Run.bind_eq_ok]
  constructor
  · rintro ⟨_, ⟨w, hw, results, hresults, h⟩, rfl⟩
    obtain rfl := Run.pure_eq_ok.1 h
    exact ⟨w, _, hw, ⟨results, hresults, rfl⟩, rfl⟩
  · rintro ⟨w, _, hw, ⟨results, hresults, rfl⟩, rfl⟩
    exact ⟨w :: results, ⟨w, hw, results, hresults, rfl⟩, rfl⟩

/-- Units of work can be worked out when the parameters of the services are sound, and each live group
can be worked out. -/
theorem mapM_workedOut_iff (c : Config) (stages : List Stage) (work : List WorkedPath) :
    (∃ results, stages.mapM (workedOut c) = .ok results ∧ results.flatMap Option.toList = work) ↔
      (∀ ps, .service ps ∈ stages → ∃ xs, ps.mapM RouteParameter.buildSimple = .ok xs) ∧
        (stages.filterMap live?).mapM (fun x => x.2.workedOut c x.1) = .ok work := by
  induction stages generalizing work with
  | nil => simp [Run.pure_eq_ok]
  | cons stage rest ih =>
    simp only [mapM_workedOut_cons_iff, ih]
    cases stage with
    | service parameters =>
      simp only [workedOut, Run.bind_eq_ok, Run.pure_eq_ok, live?, List.filterMap_cons,
        List.mem_cons, service.injEq]
      constructor
      · rintro ⟨_, more, ⟨xs, hxs, rfl⟩, ⟨hsound, hmore⟩, rfl⟩
        exact ⟨fun ps hps => hps.elim (fun h => ⟨xs, h ▸ hxs⟩) (hsound ps), hmore⟩
      · rintro ⟨hsound, hwork⟩
        obtain ⟨xs, hxs⟩ := hsound parameters (Or.inl rfl)
        exact ⟨none, work, ⟨xs, hxs, rfl⟩, ⟨fun ps hps => hsound ps (Or.inr hps), hwork⟩, rfl⟩
    | path parameters g =>
      simp only [workedOut, live?, List.filterMap_cons, List.mem_cons, reduceCtorEq, false_or]
      split
      · simp [Run.pure_eq_ok]
      · simp only [List.mapM_cons, Run.bind_eq_ok, Run.pure_eq_ok]
        constructor
        · rintro ⟨_, more, ⟨w, hw, rfl⟩, ⟨hsound, hmore⟩, rfl⟩
          exact ⟨hsound, w, hw, more, hmore, rfl⟩
        · rintro ⟨hsound, w, hw, more, hmore, rfl⟩
          exact ⟨some w, more, ⟨w, hw, rfl⟩, ⟨hsound, hmore⟩, rfl⟩

end Stage

namespace RouteSet

/-- The live groups are those of the units of work of a service. -/
theorem filterMap_live?_stages (c : Config) (s : RouteSet) :
    (s.stages (PrefixTree.ofWords c.ignoredPrefixes)).filterMap Stage.live?
      = (s.live c).map (Prod.mk s.pathParameters) := by
  rw [stages, live, c.beginsWith_ignoredPrefixes, map_groups_eq]
  split
  · rfl
  · simp only [c.beginsWith_ignoredPrefixes, List.filterMap_cons, Stage.live?]
    induction s.groups.keys.map s.groupAt with
    | nil => rfl
    | cons g rest ih =>
      cases hpath : c.ignores g.path <;> cases hempty : g.supported.isEmpty <;>
        simp [hpath, hempty, Stage.live?, ih]

/-- The parameters of a service are checked unless it is left out. -/
theorem service_mem_stages_iff (c : Config) (s : RouteSet) (ps : List RouteParameter) :
    .service ps ∈ s.stages (PrefixTree.ofWords c.ignoredPrefixes) ↔
      c.ignores s.rootPath = false ∧ ps = s.pathParameters := by
  rw [stages, c.beginsWith_ignoredPrefixes]
  split
  · next h => simp [h]
  · next h => simp [h]

end RouteSet

/-- The live groups are those of the units of work. -/
theorem Config.filterMap_live?_stages (c : Config) (sets : List RouteSet) :
    (c.stages sets).filterMap Stage.live? = c.live sets := by
  rw [stages, List.filterMap_flatMap]
  simp only [RouteSet.filterMap_live?_stages]
  rfl

/-- What a document is put together from: the live groups, worked out on their own, and the draft that
they extend the empty one to. -/
structure Config.Assembled (c : Config) (sets : List RouteSet) (work : List WorkedPath)
    (draft : Draft) : Prop where
  /-- The parameters of every service can stand in a document. -/
  services_sound : ∀ s ∈ sets, c.ignores s.rootPath = false →
    ∃ xs, s.pathParameters.mapM RouteParameter.buildSimple = .ok xs
  /-- The live groups are worked out. -/
  worked_out : (c.live sets).mapM (fun x => x.2.workedOut c x.1) = .ok work
  /-- They are put together. -/
  extended : Draft.ExtendedBy c c.resolvedDefinitions {} work draft

/-- The document without pointers that a draft is completed to. -/
def Config.inlineDocument (c : Config) (draft : Draft) : Document :=
  c.secured { c.blank with paths := draft.paths, definitions := draft.definitions }

/-- Besides its paths and definitions nothing of it depends on the draft. -/
theorem Config.inlineDocument_eq (c : Config) (draft : Draft) : c.inlineDocument draft =
    { c.secured c.blank with paths := draft.paths, definitions := draft.definitions } := by
  unfold inlineDocument secured
  split <;> rfl

/-- A document has the definitions of its draft. -/
@[simp] theorem Config.inlineDocument_definitions (c : Config) (draft : Draft) :
    (c.inlineDocument draft).definitions = draft.definitions := by
  rw [inlineDocument_eq]

/-- **What a build does**: it succeeds exactly when the services are sound, and the live groups can be
worked out and put together; the document shares the parameters of what comes out. -/
theorem RouteSet.buildDocument_eq_ok_iff {c : Config} (hc : c.complete = none)
    (sets : List RouteSet) (d : Document) :
    RouteSet.buildDocument c sets = .ok d ↔
      ∃ work draft, c.Assembled sets work draft ∧ (c.inlineDocument draft).shared = d := by
  have hlive := c.filterMap_live?_stages sets
  have hsound : (∀ ps, .service ps ∈ c.stages sets →
      ∃ xs, ps.mapM RouteParameter.buildSimple = .ok xs) ↔
      ∀ s ∈ sets, c.ignores s.rootPath = false →
        ∃ xs, s.pathParameters.mapM RouteParameter.buildSimple = .ok xs := by
    simp only [Config.stages, List.mem_flatMap, service_mem_stages_iff]
    constructor
    · exact fun h s hs hroot => h _ ⟨s, hs, hroot, rfl⟩
    · rintro h ps ⟨s, hs, hroot, rfl⟩
      exact h s hs hroot
  rw [buildDocument, Run.bind_eq_ok]
  simp only [Draft.foldlM_run_eq_ok_iff]
  constructor
  · rintro ⟨draft, ⟨results, hresults, hext⟩, hfinish⟩
    obtain ⟨hservices, hwork⟩ := (Stage.mapM_workedOut_iff c _ _).1 ⟨results, hresults, rfl⟩
    rw [Config.finish_eq_shared hc rfl] at hfinish
    exact ⟨_, draft, ⟨hsound.1 hservices, hlive ▸ hwork, hext⟩, Except.ok.inj hfinish⟩
  · rintro ⟨work, draft, ⟨hservices, hwork, hext⟩, rfl⟩
    obtain ⟨results, hresults, rfl⟩ :=
      (Stage.mapM_workedOut_iff c (c.stages sets) work).2 ⟨hsound.2 hservices, hlive.symm ▸ hwork⟩
    exact ⟨draft, ⟨results, hresults, hext⟩, Config.finish_eq_shared hc rfl⟩

end Swagger
