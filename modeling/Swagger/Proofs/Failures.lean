import Swagger.Proofs.Definitions
import Swagger.Proofs.Paths

/-! # Why a step of the builder fails
What each step of the builder can fail with, from schemas up to a whole run. Building a schema fails
only for a model without a definition, and building a parameter only for what is wrong with the
declaration. So two operations with one name are told of in one place, where an operation is added.

* `Definitions.schemaFor_error`, `RouteParameter.buildSimple_error`, `Route.buildOperation_error` — the
  errors of a schema, a parameter and an operation.
* `Draft.IsNameClash` — the error that a route's operation has a name that is taken.
* `Draft.run_error` — the errors of a unit of work. -/

namespace Swagger

/-! ## Schemas and responses -/

section Schemas

variable {c : Config} {known : Dict String Definition} {built : Definitions} {e : BuildError}

/-- The schema of a model is built unless some model has no definition. -/
theorem Definitions.schemaFor_error {model : String} (h : schemaFor c known built model = .error e) :
    ∃ n, e = .missingDefinition n := by
  rw [schemaFor] at h
  cases ht : SimpleType.ofName? model with
  | some t => rw [ht] at h; cases h
  | none =>
    rw [ht] at h
    rcases Run.bind_eq_error.1 h with hadd | ⟨built', -, h⟩
    · -- adding one model is a run over a list of one
      have hvisit : visit c known built [model] = .error e := by
        rw [visit, List.foldlM_cons, hadd]
        rfl
      obtain ⟨n, -, -, hn⟩ := visit_error hvisit
      exact ⟨n, hn⟩
    · cases h

namespace Route

/-- A response is built unless some model has no definition. -/
theorem buildResponse_error {model : Option String} {description : String}
    (h : buildResponse c known built model description = .error e) :
    ∃ n, e = .missingDefinition n := by
  cases model with
  | none => exact nomatch h
  | some model =>
    rcases Run.bind_eq_error.1 h with hschema | ⟨r, -, h⟩
    · exact Definitions.schemaFor_error hschema
    · exact nomatch h

/-- So are the declared responses. -/
theorem buildDeclared_error {byCode : Dict UInt16 Response} {declared : List DeclaredResponse}
    (h : buildDeclared c known built byCode declared = .error e) : ∃ n, e = .missingDefinition n := by
  induction declared generalizing built byCode with
  | nil => exact nomatch h
  | cons r rest ih =>
    rcases Run.bind_eq_error.1 h with hresponse | ⟨x, -, hrest⟩
    · exact buildResponse_error hresponse
    · exact ih hrest

/-- So are the responses that a route speaks of. -/
theorem buildOwnResponses_error {r : Route} (h : r.buildOwnResponses c known built = .error e) :
    ∃ n, e = .missingDefinition n := by
  unfold buildOwnResponses at h
  split at h
  · rcases Run.bind_eq_error.1 h with hresponse | ⟨x, -, h⟩
    · exact buildResponse_error hresponse
    · exact nomatch h
  · exact buildDeclared_error h

/-- So are all responses of a route. -/
theorem buildResponses_error {r : Route} (h : r.buildResponses c known built = .error e) :
    ∃ n, e = .missingDefinition n := by
  rcases Run.bind_eq_error.1 h with hown | ⟨x, -, h⟩
  · exact buildOwnResponses_error hown
  · exact nomatch h

end Route

end Schemas

/-! ## Parameters and operations -/

namespace RouteParameter

variable {p : RouteParameter} {e : BuildError}

/-- A declaration outside the body is refused as a body, as left out of a path, or for its type. -/
theorem buildSimple_error (h : p.buildSimple = .error e) :
    e = .unsupportedBodyParameter p.dataType ∨ e = .pathParameterNotRequired p.name ∨
      e = .nonSimpleParameterType p.name p.dataType := by
  unfold buildSimple at h
  split at h
  · exact Or.inl (Except.error.inj h).symm
  · split at h
    · exact Or.inr (Or.inl (Except.error.inj h).symm)
    · split at h
      · exact Or.inr (Or.inr (Except.error.inj h).symm)
      · exact nomatch h

variable {c : Config} {known : Dict String Definition} {body : Option String} {built : Definitions}

/-- A declaration is built unless a model has no definition, or it is refused. -/
theorem build_error (h : p.build c known body built = .error e) :
    (∃ n, e = .missingDefinition n) ∨ p.buildSimple = .error e := by
  unfold RouteParameter.build at h
  split at h
  · rcases Run.bind_eq_error.1 h with hschema | ⟨x, -, h⟩
    · exact Or.inl (Definitions.schemaFor_error hschema)
    · exact nomatch h
  · rcases Run.bind_eq_error.1 h with hsimple | ⟨x, -, h⟩
    · exact Or.inr hsimple
    · exact nomatch h

/-- Declarations are built unless a model has no definition, or one of them is refused. -/
theorem buildAll_error {ps : List RouteParameter} (h : buildAll c known body built ps = .error e) :
    (∃ n, e = .missingDefinition n) ∨ ∃ p ∈ ps, p.buildSimple = .error e := by
  induction ps generalizing built with
  | nil => exact nomatch h
  | cons p rest ih =>
    rcases Run.bind_eq_error.1 h with hp | ⟨x, -, h⟩
    · rcases build_error hp with hn | hp
      · exact Or.inl hn
      · exact Or.inr ⟨p, List.mem_cons_self, hp⟩
    · rcases Run.bind_eq_error.1 h with hrest | ⟨xs, -, h⟩
      · rcases ih hrest with hn | ⟨q, hq, hsimple⟩
        · exact Or.inl hn
        · exact Or.inr ⟨q, List.mem_cons_of_mem _ hq, hsimple⟩
      · exact nomatch h

end RouteParameter

/-- The operation of a route is built unless it gets no name, a model has no definition, or one of its
declarations is refused. -/
theorem Route.buildOperation_error {c : Config} {known : Dict String Definition}
    {common : Dict ParameterKey RouteParameter} {built : Definitions} {r : Route} {e : BuildError}
    (h : r.buildOperation c known common built = .error e) :
    c.operationName r = .error e ∨ (∃ n, e = .missingDefinition n) ∨
      ∃ p ∈ r.parameters, p.buildSimple = .error e := by
  -- the name comes first, then the responses, then the parameters
  rcases Run.bind_eq_error.1 h with hname | ⟨name, -, h⟩
  · exact Or.inl hname
  · rcases Run.bind_eq_error.1 h with hresponses | ⟨responses, -, h⟩
    · exact Or.inr (Or.inl (buildResponses_error hresponses))
    · rcases Run.bind_eq_error.1 h with hparameters | ⟨parameters, -, h⟩
      · rcases RouteParameter.buildAll_error hparameters with hn | ⟨p, hp, hsimple⟩
        · exact Or.inr (Or.inl hn)
        · exact Or.inr (Or.inr ⟨p, List.mem_of_mem_filter hp, hsimple⟩)
      · exact nomatch h

/-- Routes are refused for a parameter that one of them declares twice. -/
theorem Route.checkDuplicates_error {routes : List Route} {e : BuildError}
    (h : checkDuplicates routes = .error e) :
    ∃ r ∈ routes, ∃ p, r.duplicate? = some p ∧ e = .duplicateParameter p.name r.method r.path := by
  induction routes with
  | nil => exact nomatch h
  | cons r rest ih =>
    rw [checkDuplicates] at h
    split at h
    · next p hp => exact ⟨r, List.mem_cons_self, p, hp, (Except.error.inj h).symm⟩
    · obtain ⟨r', hr', p, hp, he⟩ := ih h
      exact ⟨r', List.mem_cons_of_mem _ hr', p, hp, he⟩

/-! ## Paths and runs -/

namespace Draft

/-- A route of a path cannot be added, because its operation has a name that is taken. -/
def IsNameClash (c : Config) (path : String) (d : Draft) (r : Route) (e : BuildError) : Prop :=
  ∃ id tags first, c.operationName r = .ok (id, tags) ∧ d.operationPaths.find? id = some first ∧
    e = .duplicateOperationId id first path

/-- An error that is neither about the name that a route's operation gets nor about a path or a name
that is taken. -/
def IsFault (e : BuildError) : Prop :=
  (∃ n, e = .missingDefinition n) ∨ (∃ p : RouteParameter, p.buildSimple = .error e) ∨
    ∃ name method path, e = .duplicateParameter name method path

/-- A fault is not about names of operations. -/
theorem IsFault.ne_duplicateOperationId {e : BuildError} (h : IsFault e) (id first second : String) :
    e ≠ .duplicateOperationId id first second := by
  rintro rfl
  rcases h with ⟨n, h⟩ | ⟨p, h⟩ | ⟨name, method, path, h⟩
  · exact nomatch h
  · rcases RouteParameter.buildSimple_error h with h | h | h <;> exact nomatch h
  · exact nomatch h

variable {c : Config} {known : Dict String Definition} {d : Draft} {e : BuildError}

/-- A route can be added unless its operation cannot be built, or its name is taken. -/
theorem addRoute_error {common : Dict ParameterKey RouteParameter} {path : String} {item : PathItem}
    {r : Route} (h : addRoute c known common path (d, item) r = .error e) :
    c.operationName r = .error e ∨ IsFault e ∨ IsNameClash c path d r e := by
  rcases Run.bind_eq_error.1 h with hbuild | ⟨⟨op, built⟩, hbuild, h⟩
  · rcases Route.buildOperation_error hbuild with hname | hn | ⟨p, -, hp⟩
    · exact Or.inl hname
    · exact Or.inr (Or.inl (Or.inl hn))
    · exact Or.inr (Or.inl (Or.inr (Or.inl ⟨p, hp⟩)))
  · -- the operation is there, and what is left is to look up its name
    obtain ⟨hop, -⟩ := (r.buildOperation_uses c known common _ _ _).1 hbuild
    obtain ⟨name, hname, h'⟩ := Run.bind_eq_ok.1 hop
    obtain ⟨parameters, -, hop⟩ := Run.bind_eq_ok.1 h'
    obtain rfl := Run.pure_eq_ok.1 hop
    simp only [Route.operationWith] at h
    split at h
    · next first hfirst =>
      exact Or.inr (Or.inr ⟨name.1, name.2, first, hname, hfirst, (Except.error.inj h).symm⟩)
    · exact nomatch h

/-- A path can be added unless something is wrong with a declaration, the path is there already, or one
of its routes cannot be added after the earlier ones. -/
theorem addPath_error {service : List RouteParameter} {g : PathGroup}
    (h : d.addPath c known service g = .error e) :
    IsFault e ∨ e = .duplicatePath g.path ∨ ∃ before r after item d₁ item₁,
      g.supported = before ++ r :: after ∧
      before.foldlM (addRoute c known g.common g.path) (d, item) = .ok (d₁, item₁) ∧
      addRoute c known g.common g.path (d₁, item₁) r = .error e := by
  have hfault : ∀ ps : List RouteParameter, ps.mapM RouteParameter.buildSimple = .error e →
      IsFault e := by
    intro ps hps
    obtain ⟨p, -, hp⟩ := Run.exists_of_mapM_eq_error hps
    exact Or.inr (Or.inl ⟨p, hp⟩)
  simp only [addPath] at h
  split at h
  · exact nomatch h
  -- first the declarations of the routes, then those of the path and of its service
  rcases Run.bind_eq_error.1 h with hcheck | ⟨_, -, h⟩
  · obtain ⟨r, -, p, -, he⟩ := Route.checkDuplicates_error hcheck
    exact Or.inl (Or.inr (Or.inr ⟨_, _, _, he⟩))
  rcases Run.bind_eq_error.1 h with hshared | ⟨shared, -, h⟩
  · exact Or.inl (hfault _ hshared)
  rcases Run.bind_eq_error.1 h with hinherited | ⟨inherited, -, h⟩
  · exact Or.inl (hfault _ hinherited)
  -- then the path itself, and at last its routes one after the other
  split at h
  · exact Or.inr (Or.inl (Except.error.inj h).symm)
  rcases Run.bind_eq_error.1 h with hroutes | ⟨x, -, h⟩
  · obtain ⟨before, r, after, ⟨d₁, item₁⟩, hsplit, hbefore, hr⟩ :=
      Run.exists_of_foldlM_eq_error hroutes
    exact Or.inr (Or.inr ⟨before, r, after, _, d₁, item₁, hsplit, hbefore, hr⟩)
  · exact nomatch h

/-- A unit of work can be done unless something is wrong with a declaration, or it is a path that cannot
be added. -/
theorem run_error {stage : Stage} (h : d.run c known stage = .error e) :
    IsFault e ∨ ∃ service g, stage = .path service g ∧ d.addPath c known service g = .error e := by
  cases stage with
  | service parameters =>
    rcases Run.bind_eq_error.1 h with hps | ⟨x, -, h⟩
    · obtain ⟨p, -, hp⟩ := Run.exists_of_mapM_eq_error hps
      exact Or.inl (Or.inr (Or.inl ⟨p, hp⟩))
    · exact nomatch h
  | path parameters g => exact Or.inr ⟨parameters, g, rfl, h⟩

end Draft

end Swagger
