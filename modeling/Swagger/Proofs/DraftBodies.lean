import Swagger.Proofs.RequestBodies

/-! # The bodies of a draft
A model that is read takes the place of every body that a draft has so far, while a body among the
parameters is put beside them. So the bodies of a route are that for the model which is read last, and
those that are listed after it; before it nothing counts.

* `Route.bodies`, `Route.OneBody` — the declared bodies of a route.
* `RouteStep.lastRead`, `RouteStep.listedBodies` — what is read last, and the bodies listed after it.
* `RouteDraft.bodies_step`, `RouteDraft.bodies_steps` — the bodies after a step, and after several.
* `WebService.draft_bodies` — which steps leave a route with one body, and what its operation has. -/

namespace Swagger

/-! ## Steps -/

namespace RouteStep

/-- The model that a step reads. -/
def read? : RouteStep → Option String
  | .reads model => some model
  | _ => none

/-- The body that a step lists among the parameters. -/
def listedBody? : RouteStep → Option RouteParameter
  | .parameter p => if p.kind = .body then some p else none
  | _ => none

/-- The model that is read last. -/
def lastRead (ss : List RouteStep) : Option String := (ss.filterMap read?).getLast?

/-- The bodies that are listed after the last model that is read. -/
def listedBodies (ss : List RouteStep) : List RouteParameter :=
  (ss.reverse.takeWhile fun s => s.read?.isNone).reverse.filterMap listedBody?

/-- The model that is read last is that of the last step, if it reads one. -/
theorem lastRead_concat (ss : List RouteStep) (s : RouteStep) :
    lastRead (ss ++ [s]) = s.read?.or (lastRead ss) := by
  rw [lastRead, List.filterMap_append]
  cases hread : s.read? with
  | none => rw [List.filterMap_cons_none hread, List.filterMap_nil, List.append_nil]; rfl
  | some model => rw [List.filterMap_cons_some hread, List.filterMap_nil, List.getLast?_concat]; rfl

/-- A step that reads a model removes all bodies that were declared. -/
theorem listedBodies_concat_of_read {s : RouteStep} {model : String} (h : s.read? = some model)
    (ss : List RouteStep) : listedBodies (ss ++ [s]) = [] := by
  simp [listedBodies, h]

/-- Any other step declares at most one more. -/
theorem listedBodies_concat {s : RouteStep} (h : s.read? = none) (ss : List RouteStep) :
    listedBodies (ss ++ [s]) = listedBodies ss ++ s.listedBody?.toList := by
  cases hlisted : s.listedBody? <;> simp [listedBodies, h, hlisted]

end RouteStep

/-! ## Bodies -/

/-- The bodies that a route declares. -/
def Route.bodies (r : Route) : List RouteParameter := r.parameters.filter fun p => p.kind = .body

/-- A route has one body at most, and it has that of the model that it reads, if there is one. -/
structure Route.OneBody (r : Route) : Prop where
  /-- There is one body at most. -/
  length_le : r.bodies.length ≤ 1
  /-- A model that is read has its body. -/
  of_reads : ∀ model, r.reads = some model → ∃ p, r.bodies = [p] ∧ p.dataType = model

namespace RouteDraft

open RouteStep (lastRead listedBodies)

/-- A step that reads a model sets it, and no other step does. -/
theorem reads_step (d : RouteDraft) (s : RouteStep) :
    (d.step s).route.reads = s.read?.or d.route.reads := by
  cases s <;> rfl

/-- A model that is read takes the place of all bodies. -/
theorem bodies_step_of_read (d : RouteDraft) {s : RouteStep} {model : String}
    (h : s.read? = some model) : (d.step s).route.bodies = [bodyParameter model] := by
  cases s with
  | reads model' =>
    obtain rfl : model' = model := Option.some.inj h
    have hothers : (d.route.parameters.filter (·.kind != .body)).filter (fun p => p.kind = .body)
        = [] := by simp [List.filter_filter]
    have hnew : [bodyParameter model'].filter (fun p => p.kind = .body) = [bodyParameter model'] :=
      rfl
    change (d.route.parameters.filter (·.kind != .body) ++ [bodyParameter model']).filter _ = _
    rw [List.filter_append, hothers, hnew, List.nil_append]
  | _ => exact absurd h (by simp [RouteStep.read?])

/-- Any other step leaves the bodies, and puts beside them the one that it lists. -/
theorem bodies_step (d : RouteDraft) {s : RouteStep} (h : s.read? = none) :
    (d.step s).route.bodies = d.route.bodies ++ s.listedBody?.toList := by
  cases s with
  | reads model => exact absurd h (by simp [RouteStep.read?])
  | parameter p =>
    have hnew : [p].filter (fun p => p.kind = .body) = (RouteStep.parameter p).listedBody?.toList := by
      by_cases hp : p.kind = .body <;> simp [RouteStep.listedBody?, hp]
    change (d.route.parameters ++ [p]).filter _ = _
    rw [List.filter_append, hnew, Route.bodies]
  | _ => exact (List.append_nil _).symm

/-- What is read after several steps is what is read last. -/
theorem reads_steps {d : RouteDraft} (h : d.route.reads = none) (ss : List RouteStep) :
    (d.steps ss).route.reads = lastRead ss := by
  induction ss using List.reverseRecOn with
  | nil => exact h
  | append_singleton ss s ih =>
    rw [steps_concat, reads_step, ih, RouteStep.lastRead_concat]

/-- **The bodies after several steps** are that of the model which is read last, and those listed after
it. -/
theorem bodies_steps {d : RouteDraft} (h : d.route.bodies = []) (ss : List RouteStep) :
    (d.steps ss).route.bodies
      = ((lastRead ss).map bodyParameter).toList ++ listedBodies ss := by
  induction ss using List.reverseRecOn with
  | nil => exact h
  | append_singleton ss s ih =>
    rw [steps_concat, RouteStep.lastRead_concat]
    cases hread : s.read? with
    | some model =>
      rw [bodies_step_of_read _ hread, RouteStep.listedBodies_concat_of_read hread]
      rfl
    | none =>
      rw [bodies_step _ hread, ih, RouteStep.listedBodies_concat hread, List.append_assoc]
      rfl

end RouteDraft

/-! ## Routes and their operations -/

namespace Route

open RouteStep (lastRead listedBodies)

/-- What comes out of several steps has one body if none is listed behind that of a model, and one at
most without a model. -/
theorem oneBody_iff {r : Route} {ss : List RouteStep} (hreads : r.reads = lastRead ss)
    (hbodies : r.bodies
      = ((lastRead ss).map RouteDraft.bodyParameter).toList ++ listedBodies ss) :
    r.OneBody ↔ (listedBodies ss).length ≤ if (lastRead ss).isSome then 0 else 1 := by
  cases hlast : lastRead ss with
  | none =>
    rw [hlast] at hreads hbodies
    constructor
    · intro h
      have hlength := h.length_le
      rwa [hbodies] at hlength
    · intro hlength
      refine ⟨by rwa [hbodies], fun model hmodel => ?_⟩
      exact absurd (hreads.symm.trans hmodel) (Option.some_ne_none model).symm
  | some model =>
    rw [hlast] at hreads hbodies
    constructor
    · intro h
      have hlength := h.length_le
      rw [hbodies, List.length_append] at hlength
      exact Nat.le_of_add_le_add_left (a := 1) hlength
    · intro hlength
      have hnil : listedBodies ss = [] := List.length_eq_zero_iff.1 (Nat.le_zero.1 hlength)
      rw [hnil, List.append_nil] at hbodies
      refine ⟨by rw [hbodies]; exact Nat.le_refl 1, fun model' hmodel' => ?_⟩
      obtain rfl : model = model' := Option.some.inj (hreads.symm.trans hmodel')
      exact ⟨_, hbodies, rfl⟩

/-- The operation of a route has bodies of just those names that the route declares. -/
theorem names_of_operationOf {c : Config} {routes : List Route} {r : Route} {op : Operation}
    (h : r.operationOf c (common routes) = .ok op) :
    ((op.parameters.filter Parameter.isBody).map Parameter.name).Perm
      (r.bodies.map RouteParameter.name) := by
  have hperm := (filter_isBody_of_operationOf h).map Parameter.name
  cases hreads : r.reads with
  | none =>
    -- nothing is built for a body then, so there is none
    have hbodies : r.bodies = [] := List.filter_eq_nil_iff.2 fun p hp => by
      simpa using kind_ne_body_of_operationOf h hreads hp
    have hnone : r.parameters.filterMap (RouteParameter.body? c none) = [] :=
      List.filterMap_eq_nil_iff.2 fun p _ => by rw [RouteParameter.body?, Option.map_none, ite_self]
    rw [hreads, hnone] at hperm
    rw [hbodies]
    exact hperm
  | some model =>
    have hbuilt : r.parameters.filterMap (RouteParameter.body? c (some model))
        = r.bodies.map fun p => p.bodyWith (c.schemaOf model) := by
      rw [bodies, ← List.filterMap_eq_map, List.filterMap_filter]
      refine List.filterMap_congr fun p _ => ?_
      by_cases hp : p.kind = .body <;> simp [RouteParameter.body?, hp]
    rw [hreads, hbuilt, List.map_map] at hperm
    exact hperm

end Route

open RouteStep (lastRead listedBodies)

namespace WebService

/-- The route of a draft about which some things have been said. -/
def routeAfter (ws : WebService) (method sub : String) (ss : List RouteStep) : Route :=
  ((ws.draft method sub).steps ss).finish

/-- The model that a route reads is the one that was read last. -/
theorem reads_routeAfter (ws : WebService) (method sub : String) (ss : List RouteStep) :
    (ws.routeAfter method sub ss).reads = lastRead ss :=
  RouteDraft.reads_steps (d := ws.draft method sub) rfl ss

/-- The bodies of a route are that of the model it reads, and those declared after it. -/
theorem bodies_routeAfter (ws : WebService) (method sub : String) (ss : List RouteStep) :
    (ws.routeAfter method sub ss).bodies
      = ((lastRead ss).map RouteDraft.bodyParameter).toList ++ listedBodies ss :=
  RouteDraft.bodies_steps (d := ws.draft method sub) rfl ss

/-- **The bodies of a route that was built step by step.** A route reads the model that is read last,
and its bodies are that of this model and those that are listed after it. So there is one body at most,
and exactly that of a model that is read, if and only if none is listed after the last model, and no two
where no model is read. An operation of the route has the bodies that the route declares. -/
theorem draft_bodies (ws : WebService) (method sub : String) (ss : List RouteStep) :
    (ws.routeAfter method sub ss).reads = lastRead ss ∧
    (ws.routeAfter method sub ss).bodies
      = ((lastRead ss).map RouteDraft.bodyParameter).toList ++ listedBodies ss ∧
    ((ws.routeAfter method sub ss).OneBody ↔
      (listedBodies ss).length ≤ if (lastRead ss).isSome then 0 else 1) ∧
    ∀ (c : Config) (known : Dict String Definition) (routes : List Route) (built built' : Definitions)
      (op : Operation),
      (ws.routeAfter method sub ss).buildOperation c known (Route.common routes) built
        = .ok (op, built') →
      ((op.parameters.filter Parameter.isBody).map Parameter.name).Perm
        ((ws.routeAfter method sub ss).bodies.map RouteParameter.name) := by
  have hreads := ws.reads_routeAfter method sub ss
  have hbodies := ws.bodies_routeAfter method sub ss
  refine ⟨hreads, hbodies, Route.oneBody_iff hreads hbodies,
    fun c known routes built built' op hop => ?_⟩
  exact Route.names_of_operationOf ((Route.buildOperation_uses c known _ _ built op built').1 hop).1

/-- A body of its own for the options of a request. -/
def requestOptions : RouteParameter := RouteParameter.declare .body "options" "How it is stored"

/-- A counter is set. The options are listed before it is said what is read. -/
def counterSteps : List RouteStep :=
  [.operation "setCounter", .parameter requestOptions, .reads "i64", .path "counter"]

/-- The options have given way to the counter, whose body is the only one of the operation. -/
theorem draft_bodies_counter : ∃ op built',
    (routeAfter {} "PUT" "" counterSteps).buildOperation {} ∅
        (Route.common [routeAfter {} "PUT" "" counterSteps]) ∅ = .ok (op, built') ∧
      (op.parameters.filter Parameter.isBody).map Parameter.name = ["body"] := by
  have hbuilt : ((routeAfter {} "PUT" "" counterSteps).buildOperation {} ∅
      (Route.common [routeAfter {} "PUT" "" counterSteps]) ∅).toOption.isSome := by decide +kernel
  have hcounter : ((lastRead counterSteps).map RouteDraft.bodyParameter).toList
      ++ listedBodies counterSteps = [RouteDraft.bodyParameter "i64"] := by decide +kernel
  obtain ⟨⟨op, built'⟩, hop⟩ := Run.exists_of_isSome hbuilt
  obtain ⟨-, hbodies, -, hoperation⟩ := draft_bodies {} "PUT" "" counterSteps
  have hnames := hoperation {} ∅ _ ∅ built' op hop
  rw [hbodies, hcounter] at hnames
  exact ⟨op, built', hop, List.perm_singleton.1 hnames⟩

/-- A route may have a second body: here the options are listed after it is said what is read. -/
theorem draft_bodies_listed : ¬∀ (ws : WebService) (method sub : String) (ss : List RouteStep),
    (ws.routeAfter method sub ss).OneBody := by
  intro hall
  have hone := hall {} "PUT" "counter" [.reads "i64", .parameter requestOptions]
  exact absurd hone.length_le (by decide +kernel)

end WebService

end Swagger
