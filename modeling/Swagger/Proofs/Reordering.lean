import Swagger.Proofs.Composition
import Swagger.Proofs.RearrangedRoutes

/-! # The order of declarations
A document does not tell in which order the routes of a service were registered, nor in which order a
route declared its parameters, unless the order was needed to decide between two of them. Paths come out
the same and stand in the order of their names. Names of operations are kept in another order, which
does not show; definitions are told by the models that are needed.

* `RouteSet.Reordered` — a service with its routes rearranged.
* `Config.OrderFree` — services of which the order of declarations tells nothing.
* `Config.Assembled.reordered` — rearranged services make the same draft.
* `RouteSet.buildDocument_reordered` — rearranged services have the same document. -/

namespace Swagger

/-! ## Services -/

namespace RouteSet

/-- A service with its routes rearranged. -/
structure Reordered (s s' : RouteSet) : Prop where
  /-- The root path is the same. -/
  rootPath_eq : s.rootPath = s'.rootPath
  /-- The parameters of all routes are the same. -/
  pathParameters_eq : s.pathParameters = s'.pathParameters
  /-- The routes are rearranged. -/
  routes : Route.Rearranged s.routes s'.routes

variable {c : Config} {s s' : RouteSet}

/-- The order of the routes can be changed back. -/
theorem Reordered.symm (h : s.Reordered s') : s'.Reordered s :=
  ⟨h.rootPath_eq.symm, h.pathParameters_eq.symm, h.routes.symm⟩

/-- The surviving routes are rearranged. -/
theorem Reordered.surviving (h : s.Reordered s') :
    Route.Rearranged (s.surviving c) (s'.surviving c) := by
  have hsurvives : ∀ r : Route, r.Survives c s' ↔ r.Survives c s := fun r => by
    rw [Route.Survives, Route.Survives, h.rootPath_eq]
  rw [RouteSet.surviving, RouteSet.surviving]
  simp only [hsurvives]
  refine h.routes.filter fun r r' hr => ?_
  obtain ⟨parameters, -, rfl⟩ := hr
  rfl

/-- Under each path the routes are rearranged. -/
theorem Reordered.groupAt (h : s.Reordered s') (path : String) :
    (s.groupAt path).Reordered (s'.groupAt path) := by
  refine ⟨rfl, (h.routes.filter fun r r' hr => ?_).filter fun r r' hr => ?_⟩
  all_goals
    obtain ⟨parameters, -, rfl⟩ := hr
    rfl

/-- The paths of the groups increase. -/
theorem pairwise_keys_groups (s : RouteSet) :
    s.groups.keys.Pairwise fun p q => compare p q = .lt := by
  rw [Dict.keys, List.pairwise_map]
  exact s.sorted_groups

/-- Routes are registered under the same paths. -/
theorem Reordered.keys_groups_eq (h : s.Reordered s') : s.groups.keys = s'.groups.keys := by
  refine Dict.eq_of_mem_iff_of_increasing id s.pairwise_keys_groups s'.pairwise_keys_groups
    fun path => ?_
  rw [mem_keys_groups, mem_keys_groups]
  constructor
  · rintro ⟨r, hr, rfl⟩
    obtain ⟨r', hr', parameters, -, rfl⟩ := h.routes.exists_right hr
    exact ⟨_, hr', rfl⟩
  · rintro ⟨r', hr', rfl⟩
    obtain ⟨r, hr, parameters, -, rfl⟩ := h.routes.exists_left hr'
    exact ⟨r, hr, rfl⟩

/-- The live groups have the same paths, and their routes are rearranged. -/
theorem Reordered.live (h : s.Reordered s') :
    List.Forall₂ PathGroup.Reordered (s.live c) (s'.live c) := by
  unfold RouteSet.live
  rw [← h.rootPath_eq, ← h.keys_groups_eq]
  split
  · exact .nil
  · refine List.rel_filter (fun g g' hg => ?_) ?_
    · have hsame : (!c.ignores g.path && !g.supported.isEmpty)
          = (!c.ignores g'.path && !g'.supported.isEmpty) := by
        rw [hg.path_eq, hg.supported.isEmpty_eq]
      exact iff_of_eq (congrArg (· = true) hsame)
    · rw [List.forall₂_map_left_iff, List.forall₂_map_right_iff, List.forall₂_same]
      exact fun path _ => h.groupAt path

end RouteSet

namespace Config

variable {c : Config} {sets sets' : List RouteSet}

/-- The surviving routes of reordered services are rearranged. -/
theorem rearranged_surviving (h : List.Forall₂ RouteSet.Reordered sets sets') :
    Route.Rearranged (c.surviving sets) (c.surviving sets') := by
  induction h with
  | nil => exact ⟨[], .refl _, .nil⟩
  | cons hs _ ih => exact hs.surviving.append ih

/-- The live groups of rearranged services, each with the parameters of its service. -/
theorem forall₂_live (h : List.Forall₂ RouteSet.Reordered sets sets') :
    List.Forall₂ (fun x x' => x.1 = x'.1 ∧ x.2.Reordered x'.2) (c.live sets) (c.live sets') := by
  refine List.rel_flatMap h fun s s' hs => ?_
  rw [List.forall₂_map_left_iff, List.forall₂_map_right_iff]
  exact hs.live.imp fun g g' hg => ⟨hs.pathParameters_eq, hg⟩

/-- Rearranged services need the same models. -/
theorem neededBy_iff_of_reordered (h : List.Forall₂ RouteSet.Reordered sets sets') (n : String) :
    c.NeededBy sets n ↔ c.NeededBy sets' n := by
  have hmodels := (rearranged_surviving (c := c) h).flatMap_perm fun r r' hr => hr.usedModels_perm
  simp only [NeededBy, Needed, hmodels.mem_iff]

/-- The order of declarations tells nothing: the needed models and the surviving routes can be told apart
by their names and places, the names of operations are told by what the routes call them, and two
routes of one path declare a parameter alike. -/
structure OrderFree (c : Config) (sets : List RouteSet) : Prop where
  /-- No two needed models share the name of a definition. -/
  injOn_definitionName : Set.InjOn (fun n => (c.definitionName n).1) {n | c.NeededBy sets n}
  /-- Names and labels of operations only depend on what their routes call them. -/
  namesByOperation : c.NamesByOperation
  /-- No two surviving routes share path and method. -/
  nodup_places : ((c.surviving sets).map Route.place).Nodup
  /-- Two surviving routes of one path that declare a parameter with one key declare it alike. -/
  parameter_eq : ∀ r ∈ c.surviving sets, ∀ r' ∈ c.surviving sets, r ≠ r' →
    r.documentPath = r'.documentPath → ∀ p ∈ r.parameters, ∀ q ∈ r'.parameters, p.key = q.key → p = q

/-- Of rearranged services the order of declarations tells nothing either. -/
theorem OrderFree.reordered (hfree : c.OrderFree sets)
    (h : List.Forall₂ RouteSet.Reordered sets sets') : c.OrderFree sets' := by
  have hsurviving := rearranged_surviving (c := c) h
  have hplaces := hsurviving.map_perm fun _ _ hr => hr.place_eq
  constructor
  case injOn_definitionName =>
    simpa only [neededBy_iff_of_reordered h] using hfree.injOn_definitionName
  case namesByOperation =>
    exact hfree.namesByOperation
  case nodup_places =>
    exact hplaces.nodup_iff.1 hfree.nodup_places
  case parameter_eq =>
    intro r hr r' hr' hne hpath p hp q hq hkey
    obtain ⟨r₀, hr₀, hreordered⟩ := hsurviving.exists_left hr
    obtain ⟨r₀', hr₀', hreordered'⟩ := hsurviving.exists_left hr'
    have hpath₀ : r₀.documentPath = r₀'.documentPath :=
      (congrArg Prod.fst hreordered.place_eq).trans
        (hpath.trans (congrArg Prod.fst hreordered'.place_eq).symm)
    refine hfree.parameter_eq r₀ hr₀ r₀' hr₀' (fun heq => hne ?_) hpath₀ p
      (hreordered.perm.mem_iff.2 hp) q (hreordered'.perm.mem_iff.2 hq) hkey
    -- routes that were one would have one place still
    refine List.inj_on_of_nodup_map (hplaces.nodup_iff.1 hfree.nodup_places) hr hr' ?_
    rw [← hreordered.place_eq, heq, hreordered'.place_eq]

namespace Assembled

variable {work : List WorkedPath} {draft : Draft}

/-- In a live group of a document the order of the routes tells nothing. -/
theorem orderFree (h : c.Assembled sets work draft) (hfree : c.OrderFree sets) {s : RouteSet}
    (hs : s ∈ sets) {g : PathGroup} (hg : g ∈ s.live c) : g.OrderFree := by
  have huniform : g.Uniform := fun r hr => (RouteSet.mem_surviving_of_live hg hr).2
  have hsublist : g.supported.Sublist (c.surviving sets) := by
    rw [← filter_surviving h.livePaths_nodup hs hg]
    exact List.filter_sublist
  obtain ⟨w, hw, -⟩ := h.exists_workedOut hs hg
  refine ⟨huniform, hfree.nodup_places.sublist (hsublist.map _), ?_⟩
  intro r hr r' hr' p hp q hq hkey
  by_cases heq : r = r'
  · subst heq
    exact Route.eq_of_key_eq (PathGroup.nodup_keys_of_workedOut hw r hr) hp hq hkey
  · exact hfree.parameter_eq r (hsublist.subset hr) r' (hsublist.subset hr') heq
      ((huniform r hr).trans (huniform r' hr').symm) p hp q hq hkey

/-- Rearranged services are worked out to the same paths. -/
theorem exists_work (h : c.Assembled sets work draft) (hfree : c.OrderFree sets)
    (hsets : List.Forall₂ RouteSet.Reordered sets sets') :
    ∃ work', (c.live sets').mapM (fun x => x.2.workedOut c x.1) = .ok work' ∧
      List.Forall₂ WorkedPath.Reordered work work' := by
  refine Run.exists_mapM_of_forall₂ (forall₂_live hsets) h.worked_out ?_
  rintro ⟨service, g⟩ hmem ⟨service', g'⟩ w ⟨rfl, hg⟩ hw
  obtain ⟨s, hs, hmem⟩ := List.mem_flatMap.1 hmem
  obtain ⟨g, hlive, heq⟩ := List.mem_map.1 hmem
  obtain ⟨-, rfl⟩ := Prod.mk.inj heq
  exact hg.workedOut hfree.namesByOperation (h.orderFree hfree hs hlive) hw

/-- **Rearranged services make the same draft.** -/
theorem reordered (h : c.Assembled sets work draft) (hfree : c.OrderFree sets)
    (hsets : List.Forall₂ RouteSet.Reordered sets sets') :
    ∃ work' draft', c.Assembled sets' work' draft' ∧ c.inlineDocument draft = c.inlineDocument draft' := by
  obtain ⟨work', hwork', hforall⟩ := h.exists_work hfree hsets
  -- the entries stay in their order, and the names and models do not
  have hentries : work.map WorkedPath.entry = work'.map WorkedPath.entry := by
    rw [← List.forall₂_eq_eq_eq, List.forall₂_map_left_iff, List.forall₂_map_right_iff]
    exact hforall.imp fun w w' hw => hw.entry_eq
  have hnames := WorkedPath.flatMap_perm hforall fun _ _ hw => hw.operationPaths_perm
  have hmodels := WorkedPath.flatMap_perm hforall fun _ _ hw => hw.models_perm
  obtain ⟨built, hbuilt⟩ : ∃ built, Definitions.addAll c c.resolvedDefinitions ∅
      (work'.flatMap WorkedPath.models) = .ok built := by
    rw [Definitions.addAll_eq_visit]
    refine Definitions.exists_visit ∅ fun n hn => ?_
    rw [ledTo_filter_iff, Needed] at hn
    simp only [← hmodels.mem_iff] at hn
    exact h.exists_definition hfree.injOn_definitionName ((h.needed_iff n).1 hn)
  have h' : c.Assembled sets' work' ⟨draft.paths, built,
      Dict.ofList (work'.flatMap WorkedPath.operationPaths)⟩ := by
    constructor
    case services_sound =>
      intro s' hs' hroot
      obtain ⟨s, hs, hreordered⟩ := Run.exists_of_forall₂_left hsets.flip hs'
      rw [← hreordered.pathParameters_eq]
      exact h.services_sound s hs (hreordered.rootPath_eq ▸ hroot)
    case worked_out =>
      exact hwork'
    case extended =>
      exact ⟨hentries ▸ h.extended.fresh_paths,
        ⟨(hnames.map Prod.fst).nodup_iff.1 h.extended.fresh_operations.1, fun _ _ => rfl⟩, hbuilt,
        hentries ▸ h.extended.paths_eq, rfl⟩
  have hdefinitions : draft.definitions = built := by
    refine h.sorted_definitions.ext h'.sorted_definitions fun k => Option.ext fun schema => ?_
    rw [h.find?_definitions_iff hfree.injOn_definitionName,
      h'.find?_definitions_iff (hfree.reordered hsets).injOn_definitionName]
    simp only [neededBy_iff_of_reordered hsets]
  exact ⟨work', _, h', by rw [inlineDocument_eq, inlineDocument_eq, hdefinitions]⟩

end Assembled

end Config

/-! ## Documents -/

/-- **The order of declarations does not matter** where it tells nothing: services whose routes are
rearranged, and declare their parameters in another order, are refused or have the same document. -/
theorem RouteSet.buildDocument_reordered {c : Config} (hc : c.complete = none)
    {sets sets' : List RouteSet} (h : List.Forall₂ RouteSet.Reordered sets sets')
    (hfree : c.OrderFree sets) (d : Document) :
    RouteSet.buildDocument c sets = .ok d ↔ RouteSet.buildDocument c sets' = .ok d := by
  -- it is enough to go one way, since the other way is a rearrangement too
  have hone : ∀ {sets sets' : List RouteSet}, List.Forall₂ RouteSet.Reordered sets sets' →
      c.OrderFree sets → RouteSet.buildDocument c sets = .ok d →
        RouteSet.buildDocument c sets' = .ok d := by
    intro sets sets' h hfree hd
    obtain ⟨work, draft, hassembled, rfl⟩ := (buildDocument_eq_ok_iff hc sets d).1 hd
    obtain ⟨work', draft', hassembled', heq⟩ := hassembled.reordered hfree h
    exact (buildDocument_eq_ok_iff hc sets' _).2
      ⟨work', draft', hassembled', congrArg Document.shared heq.symm⟩
  exact ⟨hone h hfree, hone (h.flip.imp fun _ _ hs => hs.symm) (hfree.reordered h)⟩

/-- List files, a few at a time. -/
def Route.pageFiles : Route :=
  { method := "GET", path := "/files", operation := "pageFiles", writes := some "a",
    parameters := [.limit, .declare .query "offset" "Where to begin"] }

/-- Remove files, not too many at a time. -/
def Route.removeFiles : Route :=
  { method := "DELETE", path := "/files", operation := "removeFiles", writes := some "b",
    parameters := [.limit] }

/-- The two routes can be registered either way round, and the parameters of the first declared so. -/
theorem RouteSet.buildDocument_reordered_files : ∃ d,
    RouteSet.buildDocument Config.ring [{ routes := [.pageFiles, .removeFiles] }] = .ok d ∧
    RouteSet.buildDocument Config.ring [{ routes :=
      [.removeFiles, { Route.pageFiles with parameters := Route.pageFiles.parameters.reverse }] }]
        = .ok d := by
  have hbuilt : (RouteSet.buildDocument Config.ring
      [{ routes := [.pageFiles, .removeFiles] }]).toOption.isSome := by decide +kernel
  have hsurviving : Config.ring.surviving [{ routes := [.pageFiles, .removeFiles] }]
      = [.pageFiles, .removeFiles] := by decide +kernel
  obtain ⟨d, hd⟩ := Run.exists_of_isSome hbuilt
  refine ⟨d, hd, (buildDocument_reordered rfl ?_ ?_ d).1 hd⟩
  · refine .cons ⟨rfl, rfl, [.removeFiles, .pageFiles], .swap _ _ _, ?_⟩ .nil
    exact .cons ⟨_, .refl _, rfl⟩ (.cons ⟨_, (List.reverse_perm _).symm, rfl⟩ .nil)
  · constructor
    case injOn_definitionName =>
      exact fun _ _ _ _ h => h
    case namesByOperation =>
      exact fun r r' heq => congrArg (fun id => Except.ok (id, [])) heq
    case nodup_places =>
      rw [hsurviving]
      decide +kernel
    case parameter_eq =>
      rw [hsurviving]
      decide +kernel

end Swagger
