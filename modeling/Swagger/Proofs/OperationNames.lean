import Mathlib.Data.List.Pairwise
import Swagger.Proofs.Failures
import Swagger.Proofs.Slots
import Swagger.Proofs.WorkingOrder

/-! # The names of operations
While a document is built, the name of every operation is kept with its path, whether the operation
stays in its slot or not. So the names that are kept are those of the surviving routes, one for each, in
the order in which the routes are worked on, and a build that succeeds has given no name twice.

* `Route.SameName` — two routes whose operations get one name.
* `Route.Registers` — what is kept of a route.
* `Config.Assembled.pairwise_not_sameName` — in a document no two surviving routes have one name.
* `Config.exists_sameName_of_foldlM_run` — the two routes behind the error that a name is taken.
* `RouteSet.buildDocument_names` — names are unique, and only two routes with one name are refused for
  it. -/

namespace Swagger

namespace Route

/-- The operations of two routes get one name. -/
def SameName (c : Config) (r r' : Route) : Prop :=
  ∃ id tags tags', c.operationName r = .ok (id, tags) ∧ c.operationName r' = .ok (id, tags')

/-- Having one name goes both ways. -/
theorem SameName.symm {c : Config} {r r' : Route} (h : r.SameName c r') : r'.SameName c r := by
  obtain ⟨id, tags, tags', hr, hr'⟩ := h
  exact ⟨id, tags', tags, hr', hr⟩

/-- Having different names goes both ways. -/
instance (c : Config) : Std.Symm fun r r' : Route => ¬r.SameName c r' where
  symm _ _ h h' := h h'.symm

/-- A route has its operation named and kept with its path. -/
def Registers (c : Config) (r : Route) (e : String × String) : Prop :=
  (∃ tags, c.operationName r = .ok (e.1, tags)) ∧ r.documentPath = e.2

variable {c : Config}

/-- Where all names that are kept differ, no two routes have one. -/
theorem pairwise_not_sameName {routes : List Route} {entries : List (String × String)}
    (h : List.Forall₂ (Registers c) routes entries) (hn : (entries.map Prod.fst).Nodup) :
    routes.Pairwise fun r r' => ¬r.SameName c r' := by
  induction h with
  | nil => exact List.Pairwise.nil
  | @cons r e routes entries hr hrest ih =>
    rw [List.map_cons, List.nodup_cons] at hn
    refine List.pairwise_cons.2 ⟨fun r' hr' hsame => hn.1 ?_, ih hn.2⟩
    -- the name of the later route is kept among those of the other routes
    obtain ⟨e', he', hreg⟩ := Run.exists_of_forall₂_left hrest hr'
    obtain ⟨id, tags, tags', hid, hid'⟩ := hsame
    obtain ⟨⟨t, ht⟩, -⟩ := hr
    obtain ⟨⟨t', ht'⟩, -⟩ := hreg
    have hfirst : id = e.1 := congrArg Prod.fst (Except.ok.inj (hid.symm.trans ht))
    have hsecond : id = e'.1 := congrArg Prod.fst (Except.ok.inj (hid'.symm.trans ht'))
    rw [← hfirst, hsecond]
    exact List.mem_map_of_mem he'

/-- The routes of a path are kept under it. -/
theorem forall₂_registers {common : Dict ParameterKey RouteParameter} {path : String}
    {routes : List Route} {operations : List Operation}
    (h : routes.mapM (Route.operationOf c common) = .ok operations)
    (hpath : ∀ r ∈ routes, r.documentPath = path) :
    List.Forall₂ (Registers c) routes (operations.map fun op => (op.id, path)) := by
  rw [List.forall₂_map_right_iff]
  refine ((List.forall₂_and_left _ _).2 ⟨hpath, Run.mapM_eq_ok.1 h⟩).imp fun r op hr => ?_
  exact ⟨⟨op.tags, (describedBy_of_operationOf hr.2).name_eq⟩, hr.1⟩

end Route

namespace PathGroup

/-- All routes of a group have its path. -/
def Uniform (g : PathGroup) : Prop := ∀ r ∈ g.supported, r.documentPath = g.path

/-- The routes of worked-out groups are kept under their paths, in the order of the groups. -/
theorem forall₂_registers {c : Config} {groups : List (List RouteParameter × PathGroup)}
    {work : List WorkedPath} (h : groups.mapM (fun x => x.2.workedOut c x.1) = .ok work)
    (hgroups : ∀ x ∈ groups, x.2.Uniform) :
    List.Forall₂ (Route.Registers c) (groups.flatMap fun x => x.2.supported)
      (work.flatMap WorkedPath.operationPaths) := by
  -- group by group: the operations of a worked-out group are those of its routes in their order
  refine List.rel_flatMap ((List.forall₂_and_left _ _).2 ⟨hgroups, Run.mapM_eq_ok.1 h⟩) ?_
  rintro ⟨service, g⟩ w ⟨huniform, hw⟩
  obtain ⟨-, item, operations, -, hops, rfl⟩ := workedOut_eq_ok_iff.1 hw
  exact Route.forall₂_registers hops huniform

end PathGroup

/-! ## A build that succeeds -/

namespace Config

/-- The routes of a live group have its path. -/
theorem uniform_of_mem_live {c : Config} {sets : List RouteSet}
    {x : List RouteParameter × PathGroup} (hx : x ∈ c.live sets) : x.2.Uniform := by
  obtain ⟨s, -, hx⟩ := List.mem_flatMap.1 hx
  obtain ⟨g, hg, rfl⟩ := List.mem_map.1 hx
  exact fun r hr => (RouteSet.mem_surviving_of_live hg hr).2

variable {c : Config} {sets : List RouteSet} {work : List WorkedPath} {draft : Draft}

/-- What is kept of a document's routes, in the order in which they are worked on. -/
theorem Assembled.forall₂_registers (h : c.Assembled sets work draft) :
    List.Forall₂ (Route.Registers c) (c.inOrder sets) (work.flatMap WorkedPath.operationPaths) := by
  rw [c.inOrder_eq_flatMap]
  exact PathGroup.forall₂_registers h.worked_out fun x hx => uniform_of_mem_live hx

/-- No two surviving routes of a document have one name. -/
theorem Assembled.pairwise_not_sameName (h : c.Assembled sets work draft) :
    (c.surviving sets).Pairwise fun r r' => ¬r.SameName c r' := by
  -- having one name is symmetric, so the order of the routes does not matter
  have hnames := Route.pairwise_not_sameName h.forall₂_registers h.extended.fresh_operations.1
  exact ((c.inOrder_perm sets).pairwise_iff fun h h' => h h'.symm).1 hnames

/-- Of the operations of a document no two have one name. -/
theorem Assembled.eq_of_id_eq (h : c.Assembled sets work draft) {path path' : String}
    {m m' : Method} {op op' : Operation}
    (hop : (c.inlineDocument draft).operationAt? path m = some op)
    (hop' : (c.inlineDocument draft).operationAt? path' m' = some op') (hid : op.id = op'.id) :
    path = path' ∧ m = m' := by
  obtain ⟨-, -, g, -, r, -, hr, hlast⟩ := (h.operationAt?_eq_some_iff path m op).1 hop
  obtain ⟨-, -, g', -, r', -, hr', hlast'⟩ := (h.operationAt?_eq_some_iff path' m' op').1 hop'
  obtain ⟨hmem, hcond⟩ := List.mem_filter.1 (List.mem_of_getLast? hlast)
  obtain ⟨hmem', hcond'⟩ := List.mem_filter.1 (List.mem_of_getLast? hlast')
  obtain ⟨hpath, hm⟩ := of_decide_eq_true hcond
  obtain ⟨hpath', hm'⟩ := of_decide_eq_true hcond'
  have hsame : r.SameName c r' := ⟨op.id, op.tags, op'.tags,
    (Route.describedBy_of_operationOf hr).name_eq,
    hid ▸ (Route.describedBy_of_operationOf hr').name_eq⟩
  -- the routes of both operations have one name, so they are one
  obtain rfl : r = r' := by
    by_contra hne
    exact h.pairwise_not_sameName.forall hmem hmem' hne hsame
  exact ⟨hpath.symm.trans hpath', hm.unique hm'⟩

end Config

/-! ## A build that fails -/

namespace Config

variable {c : Config} {sets : List RouteSet}

/-- The live groups before and after a path with a route are those of the units of work before and
after it. -/
theorem live_eq_of_stages_eq {done rest : List Stage} {service : List RouteParameter}
    {g : PathGroup} (h : c.stages sets = done ++ .path service g :: rest) (hne : g.supported ≠ []) :
    c.live sets = done.filterMap Stage.live? ++ (service, g) :: rest.filterMap Stage.live? := by
  have hlive : Stage.live? (.path service g) = some (service, g) := by
    rw [Stage.live?, if_neg (by simpa using hne)]
  rw [← c.filterMap_live?_stages, h, List.filterMap_append, List.filterMap_cons_some hlive]

/-- **When the run comes to a route**, just the routes that are worked on earlier have been kept. -/
theorem exists_registers_of_reached {known : Dict String Definition} {done rest : List Stage}
    {service : List RouteParameter} {g : PathGroup} {before after : List Route} {r : Route}
    {d d₁ : Draft} {item item₁ : PathItem}
    (hstages : c.stages sets = done ++ .path service g :: rest)
    (hroutes : g.supported = before ++ r :: after)
    (hdone : done.foldlM (Draft.run c known) {} = .ok d)
    (hbefore : before.foldlM (Draft.addRoute c known g.common g.path) (d, item) = .ok (d₁, item₁)) :
    ∃ earlier later entries, c.inOrder sets = earlier ++ r :: later ∧ r.documentPath = g.path ∧
      List.Forall₂ (Route.Registers c) earlier entries ∧ (entries.map Prod.fst).Nodup ∧
      d₁.operationPaths = Dict.ofList entries := by
  have hlive := live_eq_of_stages_eq hstages (hroutes ▸ List.append_ne_nil_of_right_ne_nil _ nofun)
  have huniform : ∀ x ∈ c.live sets, x.2.Uniform := fun x hx => uniform_of_mem_live hx
  rw [hlive, List.forall_mem_append, List.forall_mem_cons] at huniform
  obtain ⟨hearlier, hg, -⟩ := huniform
  -- the paths before it, and the routes before it on its own path, have all been worked out
  obtain ⟨results, hresults, hext⟩ := (Draft.foldlM_run_eq_ok_iff _ _ _).1 hdone
  obtain ⟨-, hwork⟩ := (Stage.mapM_workedOut_iff c done _).1 ⟨results, hresults, rfl⟩
  obtain ⟨operations, hops, hext₁, -⟩ :=
    (Draft.foldlM_addRoute_eq_ok_iff _ _ _ _ _ _ _).1 hbefore
  have hall := (Draft.extended_append_iff _ _ _ _ _ _ _ _).2 ⟨d, hext, hext₁⟩
  have hpath : ∀ r' ∈ before, r'.documentPath = g.path := fun r' hr' =>
    hg r' (hroutes ▸ List.mem_append_left _ hr')
  refine ⟨_, after ++ (rest.filterMap Stage.live?).flatMap fun x => x.2.supported, _, ?_,
    hg r (hroutes ▸ List.mem_append_right _ List.mem_cons_self),
    List.rel_append (PathGroup.forall₂_registers hwork hearlier)
      (Route.forall₂_registers hops hpath),
    hall.fresh_operations.1, hall.operationPaths_eq⟩
  rw [c.inOrder_eq_flatMap, hlive, List.flatMap_append, List.flatMap_cons, hroutes]
  simp only [List.append_assoc, List.cons_append]

/-- **Behind the error that a name is taken** there are two surviving routes with that name, the path
of the one that is worked on earlier, and that of the later one. -/
theorem exists_sameName_of_foldlM_run {known : Dict String Definition} {id first second : String}
    (hname : ∀ r ∈ c.surviving sets,
      c.operationName r ≠ .error (.duplicateOperationId id first second))
    (h : (c.stages sets).foldlM (Draft.run c known) {}
      = .error (.duplicateOperationId id first second)) :
    ∃ earlier r r' later tags tags', c.inOrder sets = earlier ++ r' :: later ∧ r ∈ earlier ∧
      c.operationName r = .ok (id, tags) ∧ c.operationName r' = .ok (id, tags') ∧
      r.documentPath = first ∧ r'.documentPath = second := by
  -- the run stops at a path, and there at a route
  obtain ⟨done, stage, rest, d, hstages, hdone, hstage⟩ := Run.exists_of_foldlM_eq_error h
  obtain hfault | ⟨service, g, rfl, hpath⟩ := Draft.run_error hstage
  · exact absurd rfl (hfault.ne_duplicateOperationId id first second)
  obtain hfault | hdup | ⟨before, r', after, item, d₁, item₁, hroutes, hbefore, hr'⟩ :=
    Draft.addPath_error hpath
  · exact absurd rfl (hfault.ne_duplicateOperationId id first second)
  · exact nomatch hdup
  obtain ⟨earlier, later, entries, horder, hr'path, hkept, hn, hnames⟩ :=
    exists_registers_of_reached hstages hroutes hdone hbefore
  -- the route is refused for the name of an earlier one
  obtain herror | hfault | ⟨id', tags', first', hid', hfirst, he⟩ := Draft.addRoute_error hr'
  · have hmem : r' ∈ c.inOrder sets := horder ▸ List.mem_append_right _ List.mem_cons_self
    exact absurd herror (hname r' ((c.inOrder_perm sets).mem_iff.1 hmem))
  · exact absurd rfl (hfault.ne_duplicateOperationId id first second)
  obtain ⟨rfl, rfl, rfl⟩ := BuildError.duplicateOperationId.inj he
  rw [hnames, Dict.find?_ofList_eq_some_iff hn] at hfirst
  obtain ⟨r, hr, ⟨tags, hid⟩, hrpath⟩ := Run.exists_of_forall₂_left hkept.flip hfirst
  exact ⟨earlier, r, r', later, tags, tags', horder, hr, hid, hid', hrpath, hr'path⟩

end Config

/-- **Names of operations are unique.** In a document no two operations have one name, and no two of the
surviving routes that it was built from got one. A build is refused for a name only when two surviving
routes got it: the error tells the path of the one that is worked on first, and then that of the
other. -/
theorem RouteSet.buildDocument_names {c : Config} (hc : c.complete = none) (sets : List RouteSet) :
    (∀ d, RouteSet.buildDocument c sets = .ok d →
      (∀ path m op path' m' op', d.operationAt? path m = some op →
        d.operationAt? path' m' = some op' → op.id = op'.id → path = path' ∧ m = m') ∧
      (c.surviving sets).Pairwise fun r r' => ¬r.SameName c r') ∧
    ∀ id first second,
      (∀ r ∈ c.surviving sets, c.operationName r ≠ .error (.duplicateOperationId id first second)) →
      RouteSet.buildDocument c sets = .error (.duplicateOperationId id first second) →
      ∃ earlier r r' later tags tags', c.inOrder sets = earlier ++ r' :: later ∧ r ∈ earlier ∧
        c.operationName r = .ok (id, tags) ∧ c.operationName r' = .ok (id, tags') ∧
        r.documentPath = first ∧ r'.documentPath = second := by
  constructor
  · intro d hd
    obtain ⟨work, draft, h, rfl⟩ := (buildDocument_eq_ok_iff hc sets d).1 hd
    refine ⟨fun path m op path' m' op' hop hop' hid => ?_, h.pairwise_not_sameName⟩
    -- sharing leaves the names alone
    rw [Document.operationAt?_shared] at hop hop'
    obtain ⟨op₁, hop₁, rfl⟩ := Option.map_eq_some_iff.1 hop
    obtain ⟨op₂, hop₂, rfl⟩ := Option.map_eq_some_iff.1 hop'
    exact h.eq_of_id_eq hop₁ hop₂ hid
  · intro id first second hname h
    rcases Run.bind_eq_error.1 h with hrun | ⟨draft, -, hfinish⟩
    · exact Config.exists_sameName_of_foldlM_run hname hrun
    · -- without anything to complete the document it is always finished
      rw [Config.finish_eq_shared hc rfl] at hfinish
      exact nomatch hfinish

/-- A configuration that names operations by their paths. -/
def Config.namedByPath : Config where
  operationNaming := some fun r => .ok (r.path, [])

/-- Two services, each of which lists what it has. -/
def RouteSet.listings : List RouteSet :=
  [{ rootPath := "/news", routes := [{ method := "GET", path := "/news", operation := "list" }] },
    { rootPath := "/files", routes := [{ method := "GET", path := "/files", operation := "list" }] }]

/-- Both listings stand in a document under names of their own, and are refused under one name. -/
theorem RouteSet.buildDocument_names_listings :
    (∃ d, RouteSet.buildDocument Config.namedByPath RouteSet.listings = .ok d ∧
      ∃ op op', d.operationAt? "/news" .get = some op ∧ d.operationAt? "/files" .get = some op' ∧
        op.id ≠ op'.id) ∧
    RouteSet.buildDocument {} RouteSet.listings
        = .error (.duplicateOperationId "list" "/news" "/files") ∧
      ∃ earlier r r' later, Config.inOrder {} RouteSet.listings = earlier ++ r' :: later ∧
        r ∈ earlier ∧ r.operation = r'.operation ∧ r.documentPath = "/news" ∧
        r'.documentPath = "/files" := by
  constructor
  · have hslots : (RouteSet.buildDocument Config.namedByPath RouteSet.listings).toOption.map (fun d =>
        ((d.operationAt? "/news" .get).isSome, (d.operationAt? "/files" .get).isSome))
          = some (true, true) := by decide +kernel
    have hbuilt : (RouteSet.buildDocument Config.namedByPath RouteSet.listings).toOption.isSome := by
      decide +kernel
    obtain ⟨d, hd⟩ := Run.exists_of_isSome hbuilt
    rw [hd] at hslots
    obtain ⟨hnews, hfiles⟩ := Prod.mk.inj (Option.some.inj hslots)
    obtain ⟨op, hop⟩ := Option.isSome_iff_exists.1 hnews
    obtain ⟨op', hop'⟩ := Option.isSome_iff_exists.1 hfiles
    refine ⟨d, hd, op, op', hop, hop', fun hid => ?_⟩
    obtain ⟨hunique, -⟩ := (buildDocument_names rfl RouteSet.listings).1 d hd
    obtain ⟨hpath, -⟩ := hunique _ _ _ _ _ _ hop hop' hid
    exact absurd hpath (by decide)
  · have hbuild : RouteSet.buildDocument {} RouteSet.listings
        = .error (.duplicateOperationId "list" "/news" "/files") := by decide +kernel
    obtain ⟨earlier, r, r', later, tags, tags', horder, hr, hid, hid', hpath, hpath'⟩ :=
      (buildDocument_names rfl RouteSet.listings).2 "list" "/news" "/files"
        (fun r _ => by simp [Config.operationName]) hbuild
    have hname : r.operation = "list" := congrArg Prod.fst (Except.ok.inj hid)
    have hname' : r'.operation = "list" := congrArg Prod.fst (Except.ok.inj hid')
    exact ⟨hbuild, earlier, r, r', later, horder, hr, hname.trans hname'.symm, hpath, hpath'⟩

end Swagger
