import Swagger.Proofs.NeededModels
import Swagger.Proofs.OperationNames

/-! # Documents of several lists of services
Two lists of services that share no path and no name of an operation do not get in each other's way:
what is built for both is what is built for each. Only the names of shared parameters are given anew,
which following the pointers undoes. The paths of a document are put together without a clash and its
definitions without a conflict, so the order of the lists does not matter either.

* `Config.Independent` — lists of services that share no path and no name.
* `Config.Assembled.find?_definitions_iff` — the definitions of a draft, told by the needed models.
* `Config.Assembled.append` — drafts of independent services are put together.
* `RouteSet.buildDocument_append` — the document of both lists, in either order. -/

namespace Swagger

namespace Config

/-! ## Independent services -/

/-- Two lists of services share no path, and no name of an operation. -/
structure Independent (c : Config) (sets sets' : List RouteSet) : Prop where
  /-- No surviving route of the one has the path of one of the other. -/
  documentPath_ne : ∀ r ∈ c.surviving sets, ∀ r' ∈ c.surviving sets',
    r.documentPath ≠ r'.documentPath
  /-- No surviving route of the one gets the name of one of the other. -/
  not_sameName : ∀ r ∈ c.surviving sets, ∀ r' ∈ c.surviving sets', ¬r.SameName c r'

variable {c : Config} {sets sets' : List RouteSet}

/-- Independence goes both ways. -/
theorem Independent.symm (h : c.Independent sets sets') : c.Independent sets' sets where
  documentPath_ne r hr r' hr' e := h.documentPath_ne r' hr' r hr e.symm
  not_sameName r hr r' hr' hsame := h.not_sameName r' hr' r hr hsame.symm

/-- Each list needs no more than both do. -/
theorem setOf_neededBy_subset : {n | c.NeededBy sets n} ⊆ {n | c.NeededBy (sets ++ sets') n} ∧
    {n | c.NeededBy sets' n} ⊆ {n | c.NeededBy (sets ++ sets') n} :=
  ⟨fun n hn => (c.neededBy_append sets sets' n).2 (Or.inl hn),
    fun n hn => (c.neededBy_append sets sets' n).2 (Or.inr hn)⟩

/-- The live groups of two lists of services are those of the first, and then those of the second. -/
theorem live_append : c.live (sets ++ sets') = c.live sets ++ c.live sets' :=
  List.flatMap_append

namespace Assembled

variable {work work' : List WorkedPath} {draft draft' : Draft}

/-! ## One draft -/

/-- The paths of a draft are in order. -/
theorem sorted_paths (h : c.Assembled sets work draft) : draft.paths.Sorted := by
  rw [h.extended.paths_eq]
  exact Dict.sorted_empty.insertAll _

/-- So are its definitions. -/
theorem sorted_definitions (h : c.Assembled sets work draft) : draft.definitions.Sorted :=
  Definitions.sorted_of_visit Dict.sorted_empty h.visit_eq

/-- The needed models, told by what the models that have been added lead to. -/
theorem setOf_ledTo (h : c.Assembled sets work draft) :
    {n | Definitions.LedTo c.resolvedDefinitions
      ((work.flatMap WorkedPath.models).filter fun m => (SimpleType.ofName? m).isNone) n}
        = {n | c.NeededBy sets n} :=
  Set.ext h.ledTo_iff

/-- Where no two needed models share a name, the definitions of a draft are theirs. -/
theorem find?_definitions_iff (h : c.Assembled sets work draft)
    (hinj : Set.InjOn (fun n => (c.definitionName n).1) {n | c.NeededBy sets n}) (k : String)
    (s : Schema) :
    draft.definitions.find? k = some s ↔ ∃ n d, c.NeededBy sets n ∧
      c.resolvedDefinitions.find? n = some d ∧ k = (c.definitionName n).1 ∧
      s = d.schema.published (c.definitionName n).2 := by
  rw [← h.setOf_ledTo] at hinj
  rw [Definitions.find?_visit_iff hinj h.visit_eq]
  simp only [h.ledTo_iff]

/-- Where no two needed models share a name, each has a definition. -/
theorem exists_definition (h : c.Assembled sets work draft)
    (hinj : Set.InjOn (fun n => (c.definitionName n).1) {n | c.NeededBy sets n}) {n : String}
    (hn : c.NeededBy sets n) : ∃ d, c.resolvedDefinitions.find? n = some d := by
  rw [← h.setOf_ledTo] at hinj
  obtain ⟨d, hd, -⟩ := Definitions.visit_closure hinj h.visit_eq ((h.ledTo_iff n).2 hn)
  exact ⟨d, hd⟩

/-! ## Two drafts -/

/-- The paths of independent services can all be stored. -/
theorem nodup_paths_append (h : c.Assembled sets work draft) (h' : c.Assembled sets' work' draft')
    (hind : c.Independent sets sets') :
    (((work ++ work').map WorkedPath.entry).map Prod.fst).Nodup := by
  have hpaths : ((work ++ work').map WorkedPath.entry).map Prod.fst
      = c.livePaths sets ++ c.livePaths sets' := by
    rw [← h.map_path_work, ← h'.map_path_work, ← List.map_append, List.map_map]
    rfl
  rw [hpaths, List.nodup_append]
  refine ⟨h.livePaths_nodup, h'.livePaths_nodup, fun path hpath path' hpath' => ?_⟩
  -- each path is that of a surviving route
  obtain ⟨r, hr, rfl⟩ := (c.mem_livePaths sets path).1 hpath
  obtain ⟨r', hr', rfl⟩ := (c.mem_livePaths sets' path').1 hpath'
  exact hind.documentPath_ne r hr r' hr'

/-- What is kept of an operation is the name of a surviving route. -/
theorem exists_registers (h : c.Assembled sets work draft) {e : String × String}
    (he : e ∈ work.flatMap WorkedPath.operationPaths) :
    ∃ r ∈ c.surviving sets, r.Registers c e := by
  obtain ⟨r, hr, hreg⟩ := Run.exists_of_forall₂_left h.forall₂_registers.flip he
  exact ⟨r, (c.inOrder_perm sets).mem_iff.1 hr, hreg⟩

/-- The names of independent services can all be kept. -/
theorem nodup_names_append (h : c.Assembled sets work draft) (h' : c.Assembled sets' work' draft')
    (hind : c.Independent sets sets') :
    (((work ++ work').flatMap WorkedPath.operationPaths).map Prod.fst).Nodup := by
  rw [List.flatMap_append, List.map_append, List.nodup_append]
  refine ⟨h.extended.fresh_operations.1, h'.extended.fresh_operations.1,
    fun id hid id' hid' heq => ?_⟩
  -- each name is that of a surviving route
  obtain ⟨e, he, rfl⟩ := List.mem_map.1 hid
  obtain ⟨e', he', rfl⟩ := List.mem_map.1 hid'
  obtain ⟨r, hr, ⟨tags, hname⟩, -⟩ := h.exists_registers he
  obtain ⟨r', hr', ⟨tags', hname'⟩, -⟩ := h'.exists_registers he'
  exact hind.not_sameName r hr r' hr' ⟨e.1, tags, tags', hname, heq ▸ hname'⟩

/-- What both lists of services need can be added. -/
theorem exists_addAll_append (h : c.Assembled sets work draft)
    (h' : c.Assembled sets' work' draft')
    (hinj : Set.InjOn (fun n => (c.definitionName n).1) {n | c.NeededBy (sets ++ sets') n}) :
    ∃ built, Definitions.addAll c c.resolvedDefinitions ∅
      ((work ++ work').flatMap WorkedPath.models) = .ok built := by
  rw [Definitions.addAll_eq_visit]
  refine Definitions.exists_visit ∅ fun n hn => ?_
  rw [ledTo_filter_iff, List.flatMap_append, needed_append, h.needed_iff, h'.needed_iff] at hn
  obtain hn | hn := hn
  · exact h.exists_definition (hinj.mono setOf_neededBy_subset.1) hn
  · exact h'.exists_definition (hinj.mono setOf_neededBy_subset.2) hn

/-- **Independent services are put together**: what was worked out for each is worked out for both, and
makes a draft. -/
theorem append (h : c.Assembled sets work draft) (h' : c.Assembled sets' work' draft')
    (hind : c.Independent sets sets')
    (hinj : Set.InjOn (fun n => (c.definitionName n).1) {n | c.NeededBy (sets ++ sets') n}) :
    ∃ both, c.Assembled (sets ++ sets') (work ++ work') both := by
  obtain ⟨built, hbuilt⟩ := h.exists_addAll_append h' hinj
  refine ⟨⟨Dict.ofList ((work ++ work').map WorkedPath.entry), built,
    Dict.ofList ((work ++ work').flatMap WorkedPath.operationPaths)⟩, ?_⟩
  constructor
  case services_sound =>
    exact List.forall_mem_append.2 ⟨h.services_sound, h'.services_sound⟩
  case worked_out =>
    rw [live_append]
    exact Run.mapM_eq_ok.2
      (List.rel_append (Run.mapM_eq_ok.1 h.worked_out) (Run.mapM_eq_ok.1 h'.worked_out))
  case extended =>
    exact ⟨⟨h.nodup_paths_append h' hind, fun _ _ => rfl⟩,
      ⟨h.nodup_names_append h' hind, fun _ _ => rfl⟩, hbuilt, rfl, rfl⟩

variable {both : Draft}

/-- The paths of both lists are those of each. -/
theorem paths_append (h : c.Assembled sets work draft) (h' : c.Assembled sets' work' draft')
    (hboth : c.Assembled (sets ++ sets') (work ++ work') both) :
    both.paths = draft.paths.union draft'.paths := by
  rw [hboth.extended.paths_eq, List.map_append, Dict.insertAll_append, ← h.extended.paths_eq,
    Dict.insertAll_eq_union h.sorted_paths h'.extended.fresh_paths.1, h'.extended.paths_eq]
  rfl

/-- The definitions of both lists are those of each, which agree. -/
theorem definitions_append (h : c.Assembled sets work draft)
    (h' : c.Assembled sets' work' draft')
    (hboth : c.Assembled (sets ++ sets') (work ++ work') both)
    (hinj : Set.InjOn (fun n => (c.definitionName n).1) {n | c.NeededBy (sets ++ sets') n}) :
    both.definitions = draft.definitions.union draft'.definitions ∧
      draft.definitions.Agree draft'.definitions := by
  refine Dict.eq_union_of_find?_iff h.sorted_definitions h'.sorted_definitions
    hboth.sorted_definitions fun k s => ?_
  rw [hboth.find?_definitions_iff hinj,
    h.find?_definitions_iff (hinj.mono setOf_neededBy_subset.1),
    h'.find?_definitions_iff (hinj.mono setOf_neededBy_subset.2)]
  simp only [neededBy_append, or_and_right, exists_or]

/-- Of independent services no path is there twice. -/
theorem disjoint_keys_paths (h : c.Assembled sets work draft)
    (h' : c.Assembled sets' work' draft') (hind : c.Independent sets sets') :
    draft.paths.keys.Disjoint draft'.paths.keys := by
  intro path hpath hpath'
  obtain ⟨r, hr, rfl⟩ := (h.mem_keys_paths_iff path).1 hpath
  obtain ⟨r', hr', heq⟩ := (h'.mem_keys_paths_iff _).1 hpath'
  exact hind.documentPath_ne r hr r' hr' heq.symm

/-- Following the pointers of the finished document gives the paths of the draft. -/
theorem inlinedPaths_eq (h : c.Assembled sets work draft) :
    (c.inlineDocument draft).shared.inlinedPaths = draft.paths := by
  rw [Document.inlinedPaths_shared h.isBuilt_of_parameterAt?, inlineDocument_eq]

end Assembled

end Config

/-! ## The documents -/

/-- **Documents are put together as services are.** Where two lists of services share no path and no
name, and no two models that they need share a name, the document of both is built if that of each is.
With all pointers followed it has the paths of each, which are distinct, and it has the definitions of
each, which agree; everything else is as for each. The order of the lists does not matter. -/
theorem RouteSet.buildDocument_append {c : Config} (hc : c.complete = none)
    {sets sets' : List RouteSet} {d d' : Document} (hd : RouteSet.buildDocument c sets = .ok d)
    (hd' : RouteSet.buildDocument c sets' = .ok d') (hind : c.Independent sets sets')
    (hinj : Set.InjOn (fun n => (c.definitionName n).1) {n | c.NeededBy (sets ++ sets') n}) :
    ∃ both, RouteSet.buildDocument c (sets ++ sets') = .ok both ∧
      RouteSet.buildDocument c (sets' ++ sets) = .ok both ∧
      d.inlinedPaths.keys.Disjoint d'.inlinedPaths.keys ∧
      both.inlinedPaths = d.inlinedPaths.union d'.inlinedPaths ∧
      d.definitions.Agree d'.definitions ∧
      both.definitions = d.definitions.union d'.definitions ∧
      both.info = d.info ∧ both.responses = d.responses ∧
      both.securityDefinitions = d.securityDefinitions ∧ both.security = d.security := by
  obtain ⟨work, draft, h, rfl⟩ := (buildDocument_eq_ok_iff hc sets d).1 hd
  obtain ⟨work', draft', h', rfl⟩ := (buildDocument_eq_ok_iff hc sets' d').1 hd'
  have hinj' : Set.InjOn (fun n => (c.definitionName n).1) {n | c.NeededBy (sets' ++ sets) n} := by
    simpa only [Config.neededBy_append, or_comm] using hinj
  obtain ⟨both, hboth⟩ := h.append h' hind hinj
  obtain ⟨both', hboth'⟩ := h'.append h hind.symm hinj'
  obtain ⟨hdefinitions, hagree⟩ := h.definitions_append h' hboth hinj
  -- In the other order the unions are taken the other way round, which makes no difference.
  have hpaths' : both'.paths = both.paths := by
    rw [h.paths_append h' hboth, h'.paths_append h hboth',
      Dict.union_comm h.sorted_paths h'.sorted_paths
        (Dict.agree_of_disjoint (h.disjoint_keys_paths h' hind))]
  have hdefinitions' : both'.definitions = both.definitions := by
    rw [hdefinitions, (h'.definitions_append h hboth' hinj').1,
      Dict.union_comm h.sorted_definitions h'.sorted_definitions hagree]
  have hsame : c.inlineDocument both' = c.inlineDocument both := by
    rw [Config.inlineDocument_eq, Config.inlineDocument_eq, hpaths', hdefinitions']
  refine ⟨(c.inlineDocument both).shared, (buildDocument_eq_ok_iff hc _ _).2 ⟨_, both, hboth, rfl⟩,
    (buildDocument_eq_ok_iff hc _ _).2 ⟨_, both', hboth', congrArg Document.shared hsame⟩, ?_⟩
  simp only [h.inlinedPaths_eq, h'.inlinedPaths_eq, hboth.inlinedPaths_eq,
    Document.shared_definitions, Config.inlineDocument_definitions]
  refine ⟨h.disjoint_keys_paths h' hind, h.paths_append h' hboth, hagree, hdefinitions, ?_⟩
  simp only [Config.inlineDocument_eq, Document.shared, and_self]

/-- The service that lists a model, a few at a time. -/
def RouteSet.listing (model : String) : RouteSet where
  rootPath := "/" ++ model
  routes :=
    [{ method := "GET", path := "/" ++ model, operation := "list-" ++ model, writes := some model,
       parameters := [RouteParameter.declare .query "limit" "How many"] }]

/-- Both halves of a ring are put together, each with the definitions of the whole ring. -/
theorem RouteSet.buildDocument_append_ring : ∃ d d' both,
    RouteSet.buildDocument Config.ring [RouteSet.listing "a"] = .ok d ∧
      RouteSet.buildDocument Config.ring [RouteSet.listing "b"] = .ok d' ∧
      RouteSet.buildDocument Config.ring [RouteSet.listing "a", RouteSet.listing "b"] = .ok both ∧
      RouteSet.buildDocument Config.ring [RouteSet.listing "b", RouteSet.listing "a"] = .ok both ∧
      both.inlinedPaths = d.inlinedPaths.union d'.inlinedPaths ∧
      both.definitions = d.definitions.union d'.definitions := by
  have hfirst : (RouteSet.buildDocument Config.ring [RouteSet.listing "a"]).toOption.isSome := by
    decide +kernel
  have hsecond : (RouteSet.buildDocument Config.ring [RouteSet.listing "b"]).toOption.isSome := by
    decide +kernel
  have hroutes : ∀ r ∈ Config.ring.surviving [RouteSet.listing "a"],
      ∀ r' ∈ Config.ring.surviving [RouteSet.listing "b"],
        r.documentPath ≠ r'.documentPath ∧ r.operation ≠ r'.operation := by decide +kernel
  have hind : Config.ring.Independent [RouteSet.listing "a"] [RouteSet.listing "b"] := by
    refine ⟨fun r hr r' hr' => (hroutes r hr r' hr').1, fun r hr r' hr' hsame => ?_⟩
    obtain ⟨id, tags, tags', hid, hid'⟩ := hsame
    have hname : r.operation = id := congrArg Prod.fst (Except.ok.inj hid)
    have hname' : r'.operation = id := congrArg Prod.fst (Except.ok.inj hid')
    exact (hroutes r hr r' hr').2 (hname.trans hname'.symm)
  obtain ⟨d, hd⟩ := Run.exists_of_isSome hfirst
  obtain ⟨d', hd'⟩ := Run.exists_of_isSome hsecond
  obtain ⟨both, hboth, hboth', -, hpaths, -, hdefinitions, -⟩ :=
    buildDocument_append rfl hd hd' hind fun _ _ _ _ h => h
  exact ⟨d, d', both, hd, hd', hboth, hboth', hpaths, hdefinitions⟩

end Swagger
