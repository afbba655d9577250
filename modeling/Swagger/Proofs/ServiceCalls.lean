import Swagger.Proofs.Capitals
import Swagger.Proofs.OperationCount

/-! # Changing the root path of a service
A draft keeps the root path that the service had when the draft was made, while the service itself only
knows the last one. Whether a service is ignored is asked once, when the document is built, and so it is
that last root path that decides. The earlier ones count just as a part of the paths of the routes.

* `ServiceCall`, `ServiceSession` — what can be done with a service and its drafts, call by call.
* `ServiceCall.lastRoot` — the root path after some calls.
* `ServiceSession.Reached` — what is known about a service after some calls; `Reached.step` and
  `reached_run` carry it from call to call.
* `ServiceSession.buildDocument_roots` — the routes that have an operation. -/

namespace Swagger

/-! ## Calls -/

/-- One thing that can be done with a service and the drafts that it has handed out. -/
inductive ServiceCall where
  /-- Set the root path. -/
  | path (root : String)
  /-- Set the media types given. -/
  | produces (types : List String)
  /-- Set the media types taken. -/
  | consumes (types : List String)
  /-- Add a parameter of all routes. -/
  | parameter (p : RouteParameter)
  /-- Hand out a draft for a method, at a path below the root. -/
  | draft (method subPath : String)
  /-- Say one thing about a draft, which is told by its number. -/
  | say (draft : Nat) (step : RouteStep)
  /-- Finish a draft and register its route. -/
  | route (draft : Nat)

namespace ServiceCall

/-- The root path that a call sets. -/
def root? : ServiceCall → Option String
  | path root => some root
  | _ => none

/-- The root path after some calls. -/
def lastRoot (calls : List ServiceCall) : String := (calls.filterMap root?).getLast?.getD ""

/-- A call that sets no root path leaves the last one. -/
theorem lastRoot_append_of_root?_eq_none (calls : List ServiceCall) {call : ServiceCall}
    (h : call.root? = none) : lastRoot (calls ++ [call]) = lastRoot calls := by
  rw [lastRoot, List.filterMap_append, List.filterMap_cons_none h, List.filterMap_nil,
    List.append_nil, lastRoot]

/-- A call that sets the root path sets the last one. -/
theorem lastRoot_append_path (calls : List ServiceCall) (root : String) :
    lastRoot (calls ++ [path root]) = root := by
  have hsome : root? (path root) = some root := rfl
  rw [lastRoot, List.filterMap_append, List.filterMap_cons_some hsome, List.filterMap_nil,
    List.getLast?_concat]
  rfl

end ServiceCall

/-- A service, and the drafts that it has handed out. -/
structure ServiceSession where
  /-- The service. -/
  service : WebService := {}
  /-- The drafts, in the order in which they were handed out. -/
  drafts : List RouteDraft := []

namespace ServiceSession

/-- Do one thing. A draft that there is not is left alone. -/
def step (s : ServiceSession) : ServiceCall → ServiceSession
  | .path root => { s with service := s.service.setRootPath root }
  | .produces types => { s with service := s.service.setProduces types }
  | .consumes types => { s with service := s.service.setConsumes types }
  | .parameter p => { s with service := s.service.addParameter p }
  | .draft method subPath => { s with drafts := s.drafts ++ [s.service.draft method subPath] }
  | .say i step => { s with drafts := s.drafts.modify i fun d => d.step step }
  | .route i =>
    match s.drafts[i]? with
    | some d => { s with service := s.service.addRoute d }
    | none => s

/-- Do one thing after the other, beginning with a new service. -/
def run (calls : List ServiceCall) : ServiceSession := calls.foldl step {}

/-! ## What calls lead to -/

/-- A draft was handed out by one of the calls, and has the root path of that moment. -/
def Made (calls : List ServiceCall) (d : RouteDraft) : Prop :=
  ∃ before method subPath after, calls = before ++ .draft method subPath :: after ∧
    d.rootPath = ServiceCall.lastRoot before ∧ d.route.method = Text.upper method

/-- A draft that was made stays made whatever is called next. -/
theorem Made.append {calls : List ServiceCall} {d : RouteDraft} (h : Made calls d)
    (call : ServiceCall) : Made (calls ++ [call]) d := by
  obtain ⟨before, method, subPath, after, rfl, hd⟩ := h
  exact ⟨before, method, subPath, after ++ [call], by rw [List.append_assoc, List.cons_append], hd⟩

/-- Whatever is said about a draft, it keeps its root path and its method. -/
theorem Made.step {calls : List ServiceCall} {d : RouteDraft} (h : Made calls d) (x : RouteStep) :
    Made calls (d.step x) := by
  obtain ⟨before, method, subPath, after, hcalls, hroot, hmethod⟩ := h
  refine ⟨before, method, subPath, after, hcalls, ?_, ?_⟩
  · rw [← hroot]
    cases x <;> rfl
  · rw [← hmethod]
    cases x <;> rfl

/-- What is known about a service and its drafts after some calls. -/
structure Reached (calls : List ServiceCall) (s : ServiceSession) : Prop where
  /-- The service has the last root path. -/
  rootPath_eq : s.service.rootPath = ServiceCall.lastRoot calls
  /-- The drafts were handed out. -/
  made_draft : ∀ d ∈ s.drafts, Made calls d
  /-- The routes are those of drafts that were handed out. -/
  made_route : ∀ r ∈ s.service.routes, ∃ d, Made calls d ∧ d.finish = r

/-- A call that only says something about the service leaves its routes and drafts. -/
theorem Reached.of_service {calls : List ServiceCall} {s : ServiceSession} (h : Reached calls s)
    (call : ServiceCall) {ws : WebService}
    (hroot : ws.rootPath = ServiceCall.lastRoot (calls ++ [call]))
    (hroutes : ws.routes = s.service.routes) :
    Reached (calls ++ [call]) { s with service := ws } where
  rootPath_eq := hroot
  made_draft d hd := (h.made_draft d hd).append call
  made_route r hr := by
    obtain ⟨d, hd, hfinish⟩ := h.made_route r (hroutes ▸ hr)
    exact ⟨d, hd.append call, hfinish⟩

/-- So does a call that does not even give it another root path. -/
theorem Reached.of_unmoved {calls : List ServiceCall} {s : ServiceSession} (h : Reached calls s)
    (call : ServiceCall) (hcall : call.root? = none) {ws : WebService}
    (hroot : ws.rootPath = s.service.rootPath) (hroutes : ws.routes = s.service.routes) :
    Reached (calls ++ [call]) { s with service := ws } := by
  refine h.of_service call ?_ hroutes
  rw [ServiceCall.lastRoot_append_of_root?_eq_none _ hcall, hroot, h.rootPath_eq]

/-- **Each call** leads from what is known to what is known with that call. -/
theorem Reached.step {calls : List ServiceCall} {s : ServiceSession} (h : Reached calls s)
    (call : ServiceCall) : Reached (calls ++ [call]) (s.step call) := by
  cases call with
  | path root => exact h.of_service _ (ServiceCall.lastRoot_append_path calls root).symm rfl
  | produces types => exact h.of_unmoved _ rfl rfl rfl
  | consumes types => exact h.of_unmoved _ rfl rfl rfl
  | parameter p => exact h.of_unmoved _ rfl rfl rfl
  | draft method subPath =>
    have hkept : Reached (calls ++ [.draft method subPath]) s := h.of_unmoved _ rfl rfl rfl
    refine ⟨hkept.rootPath_eq, fun d hd => ?_, hkept.made_route⟩
    rcases List.mem_append.1 hd with hd | hd
    · exact hkept.made_draft d hd
    · -- the new draft has the root path that the service has now
      obtain rfl := List.mem_singleton.1 hd
      exact ⟨calls, method, subPath, [], rfl, h.rootPath_eq, rfl⟩
  | say i x =>
    have hkept : Reached (calls ++ [.say i x]) s := h.of_unmoved _ rfl rfl rfl
    refine ⟨hkept.rootPath_eq, fun d hd => ?_, hkept.made_route⟩
    obtain ⟨j, hj⟩ := List.mem_iff_getElem?.1 hd
    simp only [ServiceSession.step, List.getElem?_modify] at hj
    obtain ⟨d₀, hd₀, rfl⟩ := Option.map_eq_some_iff.1 hj
    have hmade := hkept.made_draft d₀ (List.mem_of_getElem? hd₀)
    split
    · exact hmade.step x
    · exact hmade
  | route i =>
    have hkept : Reached (calls ++ [.route i]) s := h.of_unmoved _ rfl rfl rfl
    cases hi : s.drafts[i]? with
    | none =>
      have hstep : s.step (.route i) = s := by simp only [ServiceSession.step, hi]
      rw [hstep]
      exact hkept
    | some d =>
      have hstep : s.step (.route i) = { s with service := s.service.addRoute d } := by
        simp only [ServiceSession.step, hi]
      rw [hstep]
      refine ⟨hkept.rootPath_eq, hkept.made_draft, fun r hr => ?_⟩
      rcases List.mem_append.1 hr with hr | hr
      · exact hkept.made_route r hr
      · obtain rfl := List.mem_singleton.1 hr
        exact ⟨d, hkept.made_draft d (List.mem_of_getElem? hi), rfl⟩

/-- After any calls it is known what they led to. -/
theorem reached_run (calls : List ServiceCall) : Reached calls (run calls) := by
  induction calls using List.reverseRecOn with
  | nil => exact ⟨rfl, fun d hd => absurd hd List.not_mem_nil, fun r hr => absurd hr List.not_mem_nil⟩
  | append_singleton calls call ih =>
    rw [run, List.foldl_append, List.foldl_cons, List.foldl_nil]
    exact ih.step call

/-! ## The routes that have an operation -/

/-- A registered route that has a slot has the slot's name as its method. -/
theorem method_eq_name {calls : List ServiceCall} {r : Route}
    (hr : r ∈ (run calls).service.routes) {m : Method} (hm : m.Matches r.method) :
    r.method = m.name := by
  obtain ⟨d, ⟨before, method, subPath, after, -, -, hmethod⟩, rfl⟩ := (reached_run calls).made_route r hr
  have hupper : d.finish.method = Text.upper method := hmethod
  rw [hupper] at hm ⊢
  exact Method.upper_eq_name hm

/-- Where a route of a service comes from: its path is one below the root path that its draft was made
under. -/
theorem exists_draft_of_mem_routes {calls : List ServiceCall} {r : Route}
    (hr : r ∈ (run calls).service.routes) :
    ∃ before method subPath after sub, calls = before ++ .draft method subPath :: after ∧
      r.path = Path.join (ServiceCall.lastRoot before) sub := by
  obtain ⟨d, ⟨before, method, subPath, after, hcalls, hroot, -⟩, rfl⟩ := (reached_run calls).made_route r hr
  refine ⟨before, method, subPath, after, d.subPath, hcalls, ?_⟩
  rw [← hroot]
  rfl

/-- The routes that survive: those that are supported and not ignored themselves, if the last root path
is not ignored. -/
theorem mem_surviving_run_iff (c : Config) (calls : List ServiceCall) (r : Route) :
    r ∈ c.surviving [(run calls).service.toRouteSet] ↔
      r ∈ (run calls).service.routes ∧ c.ignores (ServiceCall.lastRoot calls) = false ∧
        c.ignores r.documentPath = false ∧ Method.isSupported r.method = true := by
  rw [Config.surviving, List.flatMap_singleton, RouteSet.surviving, List.mem_filter,
    decide_eq_true_eq, ← (reached_run calls).rootPath_eq]
  rfl

/-- **The last root path decides.** Where no two routes of a service have one path and one method, a
route with a slot has its operation in the document exactly when neither its own path nor the last root
path of the service is ignored. The root path that its draft was made under only counts as a part of its
own path. -/
theorem buildDocument_roots {c : Config} (hc : c.complete = none) (calls : List ServiceCall)
    (d : Document) (hd : WebService.buildDocument c [(run calls).service] = .ok d)
    (hdistinct : ((run calls).service.routes.map fun r => (r.documentPath, r.method)).Nodup) :
    ∀ r ∈ (run calls).service.routes,
      (∃ before method subPath after sub, calls = before ++ .draft method subPath :: after ∧
        r.path = Path.join (ServiceCall.lastRoot before) sub) ∧
      ∀ m : Method, m.Matches r.method →
        ((d.operationAt? r.documentPath m).isSome ↔
          c.ignores r.documentPath = false ∧ c.ignores (ServiceCall.lastRoot calls) = false) ∧
        ∀ op, d.operationAt? r.documentPath m = some op → r.DescribedBy c op := by
  obtain ⟨work, draft, h, rfl⟩ := (RouteSet.buildDocument_eq_ok_iff hc _ d).1 hd
  intro r hr
  refine ⟨exists_draft_of_mem_routes hr, fun m hm => ⟨?_, fun op hop => ?_⟩⟩
  · rw [h.isSome_operationAt?_iff_place]
    constructor
    · rintro ⟨r', hr', hplace⟩
      obtain ⟨-, hroot, hpath, -⟩ := (mem_surviving_run_iff c calls r').1 hr'
      rw [((Config.place_eq_iff hr' _ m).1 hplace).1] at hpath
      exact ⟨hpath, hroot⟩
    · rintro ⟨hpath, hroot⟩
      have hsupported := (Method.isSupported_iff r.method).2 ⟨m, hm⟩
      have hmem := (mem_surviving_run_iff c calls r).2 ⟨hr, hroot, hpath, hsupported⟩
      exact ⟨r, hmem, (Config.place_eq_iff hmem _ m).2 ⟨rfl, hm⟩⟩
  · obtain ⟨last, hdescribed, hlast⟩ := h.exists_last_of_operationAt? hop
    obtain ⟨hmem, hplace⟩ := List.mem_filter.1 (List.mem_of_getLast? hlast)
    obtain ⟨hpath, hmethod⟩ := (Config.place_eq_iff hmem _ m).1 (of_decide_eq_true hplace)
    obtain ⟨hroute, -⟩ := (mem_surviving_run_iff c calls last).1 hmem
    -- both have one path and, in capitals, one method
    have hsame : (last.documentPath, last.method) = (r.documentPath, r.method) := by
      rw [hpath, method_eq_name hroute hmethod, method_eq_name hr hm]
    obtain rfl : last = r := List.inj_on_of_nodup_map hdistinct hroute hr hsame
    exact hdescribed

/-- Settings that leave out what is internal. -/
def internalOut : Config := { ignoredPrefixes := ["/internal"] }

/-- A route is made under a root path of its own, one under an ignored root path, and then the root path
changes again. -/
def movedTwice : List ServiceCall :=
  [.path "/public", .draft "get" "files", .path "/internal", .draft "get" "logs",
    .say 1 (.operation "readLogs"), .route 1, .say 0 (.operation "listFiles"), .route 0, .path "/v2"]

/-- The route that was made under the ignored root path is missing, and the other one is there. -/
theorem buildDocument_roots_movedTwice :
    ∃ d op, WebService.buildDocument internalOut [(run movedTwice).service] = .ok d ∧
      d.operationAt? "/public/files" .get = some op ∧ op.id = "listFiles" ∧
      d.operationAt? "/internal/logs" .get = none := by
  have hbuilt : (WebService.buildDocument internalOut [(run movedTwice).service]).toOption.isSome := by
    decide +kernel
  have hdistinct : ((run movedTwice).service.routes.map fun r => (r.documentPath, r.method)).Nodup := by
    decide +kernel
  have hfiles : ∃ r ∈ (run movedTwice).service.routes,
      r.documentPath = "/public/files" ∧ Method.get.Matches r.method ∧ r.operation = "listFiles" := by
    decide +kernel
  have hlogs : ∃ r ∈ (run movedTwice).service.routes,
      r.documentPath = "/internal/logs" ∧ Method.get.Matches r.method := by decide +kernel
  obtain ⟨d, hd⟩ := Run.exists_of_isSome hbuilt
  have hroots := buildDocument_roots rfl movedTwice d hd hdistinct
  obtain ⟨files, hr, hpath, hget, hname⟩ := hfiles
  obtain ⟨logs, hr', hpath', hget'⟩ := hlogs
  obtain ⟨hslot, hdescribed⟩ := (hroots files hr).2 .get hget
  obtain ⟨hslot', -⟩ := (hroots logs hr').2 .get hget'
  rw [hpath] at hslot hdescribed
  rw [hpath'] at hslot'
  have hkept : internalOut.ignores "/public/files" = false ∧
      internalOut.ignores (ServiceCall.lastRoot movedTwice) = false := by decide +kernel
  have hignored : internalOut.ignores "/internal/logs" = true := by decide +kernel
  obtain ⟨op, hop⟩ := Option.isSome_iff_exists.1 (hslot.2 hkept)
  have hid : files.operation = op.id := congrArg Prod.fst (Except.ok.inj (hdescribed op hop).name_eq)
  refine ⟨d, op, hd, hop, hid.symm.trans hname, ?_⟩
  by_contra hsome
  have hboth := hslot'.1 (Option.isSome_iff_ne_none.2 hsome)
  exact absurd (hignored.symm.trans hboth.1) (by decide)

/-- A route is made, and then the root path becomes an ignored one. -/
def movedAway : List ServiceCall :=
  [.path "/public", .draft "GET" "files", .route 0, .path "/internal"]

/-- A route may be missing though neither its own path is ignored nor the root path under which its
draft was made. -/
theorem buildDocument_roots_movedAway :
    ¬∀ (c : Config) (calls : List ServiceCall) (d : Document), c.complete = none →
      WebService.buildDocument c [(run calls).service] = .ok d →
      ((run calls).service.routes.map fun r => (r.documentPath, r.method)).Nodup →
      ∀ r ∈ (run calls).service.routes, ∀ m : Method, m.Matches r.method →
        d.operationAt? r.documentPath m = none → c.ignores r.documentPath = true ∨
          ∃ before method subPath after, calls = before ++ .draft method subPath :: after ∧
            c.ignores (ServiceCall.lastRoot before) = true := by
  intro hclaim
  have hmissing : (WebService.buildDocument internalOut [(run movedAway).service]).toOption.map (fun d =>
      d.operationAt? "/public/files" .get) = some none := by decide +kernel
  have hdistinct : ((run movedAway).service.routes.map fun r => (r.documentPath, r.method)).Nodup := by
    decide +kernel
  have hfiles : ∃ r ∈ (run movedAway).service.routes, r.documentPath = "/public/files" ∧
      Method.get.Matches r.method := by decide +kernel
  obtain ⟨d, hd, hnone⟩ := Run.exists_of_map_eq_some hmissing
  obtain ⟨r, hr, hpath, hget⟩ := hfiles
  have hignored := hclaim internalOut movedAway d rfl hd hdistinct r hr .get hget (hpath ▸ hnone)
  have hkept : internalOut.ignores "/public/files" = false := by decide +kernel
  rcases hignored with hignored | ⟨before, method, subPath, after, hcalls, hroot⟩
  · rw [hpath, hkept] at hignored
    exact absurd hignored (by decide)
  · -- before the last call no root path was ignored
    have hroots : ∀ n < 4, internalOut.ignores (ServiceCall.lastRoot (movedAway.take n)) = false := by
      decide +kernel
    have hlength : before.length < 4 := by
      have hfour : (before ++ ServiceCall.draft method subPath :: after).length = 4 := hcalls ▸ rfl
      rw [List.length_append, List.length_cons] at hfour
      omega
    have htake := hroots before.length hlength
    rw [hcalls, List.take_left, hroot] at htake
    exact absurd htake (by decide)

end ServiceSession

end Swagger
