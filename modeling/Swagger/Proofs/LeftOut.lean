import Swagger.Proofs.WorkingOrder

/-! # What is left out has no influence
Services and paths under an ignored prefix are left out, and so are routes without a slot. To leave them
out beforehand changes nothing: the units of work are then the same but for the routes that no step
looks at, and so the document comes out the same, or the same error does.

* `Config.kept` — sets of routes without those that are left out.
* `Stage.trimmed?` — a unit of work without the routes that no step looks at;
  `Draft.foldlM_run_trimmed` — a run does not miss them.
* `RouteSet.exists_map_trimmed_live` — the trimmed live groups of a service are told by its surviving
  routes.
* `RouteSet.buildDocument_kept` — the document, or the error, of what is kept. -/

namespace Swagger

/-! ## Leaving out -/

/-- A service without the routes that are left out. -/
def RouteSet.kept (c : Config) (s : RouteSet) : RouteSet := { s with routes := s.surviving c }

/-- The services that are not left out, without the routes that are. -/
def Config.kept (c : Config) (sets : List RouteSet) : List RouteSet :=
  (sets.filter fun s => !c.ignores s.rootPath).map (RouteSet.kept c)

/-- What survives survives among itself. -/
theorem RouteSet.surviving_kept (c : Config) (s : RouteSet) :
    (s.kept c).surviving c = s.surviving c :=
  List.filter_eq_self.2 fun _ hr => (List.mem_filter.1 hr).2

/-! ## Units of work -/

/-- A group without the routes that have no slot. -/
def PathGroup.trimmed (g : PathGroup) : PathGroup := { g with routes := g.supported }

/-- A trimmed group has the same supported routes. -/
@[simp] theorem PathGroup.supported_trimmed (g : PathGroup) : g.trimmed.supported = g.supported :=
  List.filter_eq_self.2 fun _ hr => (List.mem_filter.1 hr).2

/-- A unit of work without the routes that have no slot, if there is something left to do. -/
def Stage.trimmed? : Stage → Option Stage
  | .service parameters => some (.service parameters)
  | .path parameters g => (live? (.path parameters g)).map fun x => .path x.1 x.2.trimmed

namespace Draft

variable (c : Config) (known : Dict String Definition)

/-- Only the routes with a slot are looked at when a path is added. -/
theorem addPath_trimmed (service : List RouteParameter) (g : PathGroup) (d : Draft) :
    d.addPath c known service g.trimmed = d.addPath c known service g := by
  simp only [addPath, PathGroup.supported_trimmed]
  rfl

/-- **A run does not miss the routes that have no slot.** -/
theorem foldlM_run_trimmed (stages : List Stage) (d : Draft) :
    (stages.filterMap Stage.trimmed?).foldlM (run c known) d = stages.foldlM (run c known) d := by
  induction stages generalizing d with
  | nil => rfl
  | cons stage rest ih =>
    cases stage with
    | service parameters =>
      have hsome : Stage.trimmed? (.service parameters) = some (.service parameters) := rfl
      rw [List.filterMap_cons_some hsome, List.foldlM_cons, List.foldlM_cons]
      exact congrArg _ (funext ih)
    | path parameters g =>
      cases hempty : g.supported.isEmpty with
      | true =>
        -- a path without a route that has a slot is passed over
        have hnone : Stage.trimmed? (.path parameters g) = none := by
          simp only [Stage.trimmed?, Stage.live?, hempty, if_true, Option.map_none]
        have hrun : d.run c known (.path parameters g) = .ok d := by
          simp only [run, addPath, hempty, if_true]
          rfl
        rw [List.filterMap_cons_none hnone, ih, List.foldlM_cons, hrun]
        rfl
      | false =>
        have hsome : Stage.trimmed? (.path parameters g) = some (.path parameters g.trimmed) := by
          simp only [Stage.trimmed?, Stage.live?, hempty, Bool.false_eq_true, if_false,
            Option.map_some]
        rw [List.filterMap_cons_some hsome, List.foldlM_cons, List.foldlM_cons, run,
          addPath_trimmed, run]
        exact congrArg _ (funext ih)

end Draft

namespace RouteSet

/-- The trimmed units of work of a service are its parameters and its trimmed live groups. -/
theorem filterMap_trimmed?_stages (c : Config) (s : RouteSet) :
    (s.stages (PrefixTree.ofWords c.ignoredPrefixes)).filterMap Stage.trimmed?
      = if c.ignores s.rootPath then []
        else .service s.pathParameters ::
          ((s.live c).map PathGroup.trimmed).map (.path s.pathParameters) := by
  have hlive := s.filterMap_live?_stages c
  rw [stages, c.beginsWith_ignoredPrefixes] at hlive ⊢
  split at hlive
  · next h => rw [if_pos h, if_pos h]; rfl
  · next h =>
    rw [if_neg h, if_neg h]
    -- the parameters of the service come first, and among the paths what is trimmed is what is live
    refine congrArg (List.cons _) ?_
    change List.filterMap _ (List.map _ _) = _ at hlive
    generalize hgroups : ((s.groups.entries.map fun e =>
      PathGroup.mk (Path.withoutWildcard e.1) e.2).filter fun g =>
        !(PrefixTree.ofWords c.ignoredPrefixes).beginsWith g.path) = groups at hlive ⊢
    have htrim : (groups.map (Stage.path s.pathParameters)).filterMap Stage.trimmed?
        = ((groups.map (Stage.path s.pathParameters)).filterMap Stage.live?).map
            fun x => .path x.1 x.2.trimmed := by
      rw [List.filterMap_map, List.filterMap_map, List.map_filterMap]
      rfl
    rw [htrim, hlive, List.map_map, List.map_map]
    rfl

/-- **The trimmed live groups are told by the surviving routes**: there is one for each path under which
some of them were registered, in the order of the paths, and it has just these. -/
theorem exists_map_trimmed_live (c : Config) (s : RouteSet) : ∃ paths : List String,
    (s.live c).map PathGroup.trimmed = paths.map (fun path =>
      ⟨Path.withoutWildcard path, (s.surviving c).filter fun r => r.path = path⟩) ∧
    (paths.Pairwise fun p q => compare p q = .lt) ∧
    ∀ path, path ∈ paths ↔ ∃ r ∈ s.surviving c, r.path = path := by
  obtain ⟨paths, hlive, hsorted⟩ := s.exists_live_eq_map c
  have hmem : ∀ path ∈ paths, s.groupAt path ∈ s.live c := fun path hpath =>
    hlive ▸ List.mem_map_of_mem hpath
  refine ⟨paths, ?_, hsorted, fun path => ⟨fun hpath => ?_, ?_⟩⟩
  · rw [hlive, List.map_map]
    refine List.map_congr_left fun path hpath => ?_
    rw [filter_path_of_live (hmem path hpath)]
    rfl
  · -- a live group has a route, which was registered under the path of the group
    obtain ⟨r, hr⟩ := List.exists_mem_of_ne_nil _ ((s.mem_live c _).1 (hmem path hpath)).2.2.1
    exact ⟨r, (mem_surviving_of_live (hmem path hpath) hr).1,
      ((s.mem_supported_groupAt path r).1 hr).2.1⟩
  · rintro ⟨r, hr, rfl⟩
    obtain ⟨hgroup, hsupported⟩ := (s.mem_surviving_iff c r).1 hr
    obtain ⟨path, hpath, heq⟩ := List.mem_map.1 (hlive ▸ hgroup)
    obtain rfl : r.path = path := ((s.mem_supported_groupAt path r).1 (heq ▸ hsupported)).2.1
    exact hpath

/-- So they are the same when routes are left out. -/
theorem map_trimmed_live_kept (c : Config) (s : RouteSet) :
    ((s.kept c).live c).map PathGroup.trimmed = (s.live c).map PathGroup.trimmed := by
  obtain ⟨paths, hlive, hsorted, hmem⟩ := s.exists_map_trimmed_live c
  obtain ⟨paths', hlive', hsorted', hmem'⟩ := (s.kept c).exists_map_trimmed_live c
  rw [surviving_kept] at hlive' hmem'
  obtain rfl : paths' = paths := Dict.eq_of_mem_iff_of_increasing id hsorted' hsorted fun path =>
    (hmem' path).trans (hmem path).symm
  rw [hlive, hlive']

end RouteSet

/-- The trimmed units of work are the same when services and routes are left out. -/
theorem Config.filterMap_trimmed?_stages_kept (c : Config) (sets : List RouteSet) :
    (c.stages (c.kept sets)).filterMap Stage.trimmed? = (c.stages sets).filterMap Stage.trimmed? := by
  rw [stages, stages, List.filterMap_flatMap, List.filterMap_flatMap]
  simp only [RouteSet.filterMap_trimmed?_stages]
  induction sets with
  | nil => rfl
  | cons s rest ih =>
    cases hroot : c.ignores s.rootPath with
    | true =>
      -- a service that is left out has nothing to do
      rw [kept, List.filter_cons_of_neg (by simp [hroot]), ← kept, ih, List.flatMap_cons,
        if_pos hroot]
      rfl
    | false =>
      have hkept : c.ignores (s.kept c).rootPath = false := hroot
      rw [kept, List.filter_cons_of_pos (by simp [hroot]), List.map_cons, ← kept,
        List.flatMap_cons, List.flatMap_cons, ih, if_neg (by rw [hkept]; exact Bool.false_ne_true),
        if_neg (by rw [hroot]; exact Bool.false_ne_true), s.map_trimmed_live_kept]
      rfl

/-! ## What is told -/

/-- Of a run through units of work of which there is nothing to tell, there is nothing to tell. -/
theorem noticesOfRun_eq_nil {run : Draft → Stage → Except BuildError Draft} {stages : List Stage}
    (h : ∀ stage ∈ stages, Draft.stageNotices stage = []) (d : Draft) :
    noticesOfRun run (fun _ => Draft.stageNotices) d stages = [] := by
  induction stages generalizing d with
  | nil => rfl
  | cons stage rest ih =>
    rw [List.forall_mem_cons] at h
    rw [noticesOfRun]
    split
    · rw [h.1, ih h.2, List.append_nil]
    · exact h.1

/-- There is nothing to tell of what is kept. -/
theorem RouteSet.notices_kept (c : Config) (sets : List RouteSet) :
    RouteSet.notices c (c.kept sets) = [] := by
  refine noticesOfRun_eq_nil (fun stage hstage => ?_) {}
  obtain ⟨s, hs, hstage⟩ := List.mem_flatMap.1 hstage
  obtain ⟨s, -, rfl⟩ := List.mem_map.1 hs
  rw [stages, map_groups_eq] at hstage
  split at hstage
  · exact absurd hstage List.not_mem_nil
  · rcases List.mem_cons.1 hstage with rfl | hstage
    · rfl
    · obtain ⟨g, hg, rfl⟩ := List.mem_map.1 hstage
      obtain ⟨path, -, rfl⟩ := List.mem_map.1 (List.mem_filter.1 hg).1
      -- all routes that are kept have a slot
      refine List.map_eq_nil_iff.2 (List.filter_eq_nil_iff.2 fun r hr => ?_)
      obtain ⟨-, -, hmethod⟩ := of_decide_eq_true (List.mem_filter.1 (List.mem_filter.1 hr).1).2
      simp [hmethod]

/-- **What is left out has no influence.** From what is kept of some services comes the same document as
from all of it, or the same error; there is just nothing left to tell. -/
theorem RouteSet.buildDocument_kept (c : Config) (sets : List RouteSet) :
    RouteSet.buildDocument c (c.kept sets) = RouteSet.buildDocument c sets ∧
      RouteSet.notices c (c.kept sets) = [] := by
  refine ⟨?_, notices_kept c sets⟩
  rw [buildDocument, buildDocument, ← Draft.foldlM_run_trimmed, c.filterMap_trimmed?_stages_kept,
    Draft.foldlM_run_trimmed]

end Swagger
