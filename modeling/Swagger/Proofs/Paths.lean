import Mathlib.Data.List.Induction
import Swagger.Proofs.Dict
import Swagger.Proofs.Operations

/-! # Paths on their own
A document is built path by path, and each step looks at what the earlier ones left behind: which
paths there are, which names operations have, which definitions were added. What a path comes out as
depends on none of this. So a run falls into two parts: every unit of work is *worked out* on its own,
and then the results are put together, which only fails where two of them clash or a definition is
missing.

* `PathItem.fill` — operations put into the slots of their routes; the last for each slot counts.
* `WorkedPath`, `PathGroup.workedOut`, `Stage.workedOut` — a path worked out on its own.
* `Draft.Extended` — a draft put together from an earlier one and some worked-out paths.
* `Draft.foldlM_run_eq_ok_iff` — a run succeeds exactly when every unit of work can be worked out and
  the results can be put together. -/

namespace Swagger

/-! ## Filling slots -/

namespace PathItem

/-- Put an operation into the slot of its route's method, if there is one. -/
def fillOne (item : PathItem) (r : Route) (op : Operation) : PathItem :=
  match Method.slot? r.method with
  | some m => item.setSlot m (some op)
  | none => item

/-- Put operations into the slots of their routes' methods, one after the other. -/
def fill (item : PathItem) (work : List (Route × Operation)) : PathItem :=
  work.foldl (fun item x => item.fillOne x.1 x.2) item

/-- An operation is put into the slot of its route's method, and the others stay. -/
theorem slot_fillOne (item : PathItem) (r : Route) (op : Operation) (m : Method) :
    (item.fillOne r op).slot m
      = if Method.slot? r.method = some m then some op else item.slot m := by
  unfold fillOne
  cases Method.slot? r.method with
  | none => simp
  | some m' =>
    by_cases h : m = m'
    · subst h; simp
    · simp [slot_setSlot_of_ne item h, Ne.symm h]

/-- Filling a slot keeps the parameters of the path. -/
@[simp] theorem parameters_fillOne (item : PathItem) (r : Route) (op : Operation) :
    (item.fillOne r op).parameters = item.parameters := by
  unfold fillOne
  cases Method.slot? r.method <;> simp

/-- Filling a slot keeps the extensions of the path. -/
@[simp] theorem extensions_fillOne (item : PathItem) (r : Route) (op : Operation) :
    (item.fillOne r op).extensions = item.extensions := by
  unfold fillOne
  cases Method.slot? r.method with
  | none => rfl
  | some m => cases m <;> rfl

/-- A slot holds the last operation whose route has the slot's method, or else what it held. -/
theorem slot_fill (item : PathItem) (work : List (Route × Operation)) (m : Method) :
    (item.fill work).slot m
      = ((work.filter fun x => Method.slot? x.1.method = some m).getLast?.map Prod.snd).or
          (item.slot m) := by
  induction work using List.reverseRecOn with
  | nil => simp [fill]
  | append_singleton work x ih =>
    rw [fill, List.foldl_append, List.foldl_cons, List.foldl_nil, slot_fillOne]
    -- the induction adds an operation at the end, which counts if the slot is its own
    by_cases h : Method.slot? x.1.method = some m
    · simp [h]
    · rw [if_neg h, List.filter_append, List.filter_singleton]
      simpa [h, fill] using ih

/-- Filling several slots keeps the parameters of the path. -/
@[simp] theorem parameters_fill (item : PathItem) (work : List (Route × Operation)) :
    (item.fill work).parameters = item.parameters := by
  unfold fill
  induction work generalizing item with
  | nil => rfl
  | cons x rest ih => rw [List.foldl_cons, ih, parameters_fillOne]

/-- Filling several slots keeps the extensions of the path. -/
@[simp] theorem extensions_fill (item : PathItem) (work : List (Route × Operation)) :
    (item.fill work).extensions = item.extensions := by
  unfold fill
  induction work generalizing item with
  | nil => rfl
  | cons x rest ih => rw [List.foldl_cons, ih, extensions_fillOne]

end PathItem

/-! ## Working out a path -/

/-- A path that has been worked out on its own. -/
structure WorkedPath where
  /-- The path as it stands in the document. -/
  path : String
  /-- What can be done there. -/
  item : PathItem
  /-- The operations of its routes, in the order the routes were registered. -/
  operations : List Operation
  /-- The models that they use, in order. -/
  models : List String

namespace WorkedPath

/-- The entry among the paths of a document. -/
def entry (w : WorkedPath) : String × PathItem := (w.path, w.item)

/-- The names of the operations, each with the path. -/
def operationPaths (w : WorkedPath) : List (String × String) :=
  w.operations.map fun op => (op.id, w.path)

end WorkedPath

/-- A path without operations, given the parameters of its service and those its routes share. -/
def PathItem.withParameters (service common : List RouteParameter) : Except BuildError PathItem := do
  let shared ← common.mapM RouteParameter.buildSimple
  let inherited ← service.mapM RouteParameter.buildSimple
  return { parameters := Parameter.sort (inherited ++ shared) }

namespace PathGroup

/-- The parameters that belong to the path of a group. -/
def common (g : PathGroup) : Dict ParameterKey RouteParameter := Route.common g.supported

/-- Work out a path, given the parameters of its service. -/
def workedOut (c : Config) (service : List RouteParameter) (g : PathGroup) :
    Except BuildError WorkedPath := do
  Route.checkDuplicates g.supported
  let item ← PathItem.withParameters service g.common.values
  let operations ← g.supported.mapM (Route.operationOf c g.common)
  return {
    path := g.path
    item := item.fill (g.supported.zip operations)
    operations := operations
    models := g.supported.flatMap (Route.models g.common) }

end PathGroup

/-- Work out a unit of work, which gives a path if some route of it can stand in a document. -/
def Stage.workedOut (c : Config) : Stage → Except BuildError (Option WorkedPath)
  | .service parameters => do
    let _ ← parameters.mapM RouteParameter.buildSimple
    return none
  | .path parameters g =>
    if g.supported.isEmpty then return none
    else do
      let w ← g.workedOut c parameters
      return some w

/-! ## Putting paths together -/

namespace Draft

/-- A draft is extended by some paths, by the paths of some operations and by what some models need. -/
structure Extended (c : Config) (known : Dict String Definition) (d : Draft)
    (paths : List (String × PathItem)) (operationPaths : List (String × String))
    (models : List String) (d' : Draft) : Prop where
  /-- No path is there twice. -/
  fresh_paths : d.paths.Fresh paths
  /-- No operation has the name of another. -/
  fresh_operations : d.operationPaths.Fresh operationPaths
  /-- The definitions that the models need are there. -/
  definitions_eq : Definitions.addAll c known d.definitions models = .ok d'.definitions
  /-- The paths are stored. -/
  paths_eq : d'.paths = d.paths.insertAll paths
  /-- The names of the operations are stored. -/
  operationPaths_eq : d'.operationPaths = d.operationPaths.insertAll operationPaths

variable {c : Config} {known : Dict String Definition}

/-- A draft to which nothing is added stays as it is. -/
theorem extended_nil_iff (d d' : Draft) : Extended c known d [] [] [] d' ↔ d = d' := by
  constructor
  · rintro ⟨-, -, hdefs, hpaths, hops⟩
    obtain ⟨paths, definitions, operationPaths⟩ := d
    obtain ⟨paths', definitions', operationPaths'⟩ := d'
    obtain rfl : definitions = definitions' := Except.ok.inj hdefs
    obtain rfl : paths' = paths := hpaths
    obtain rfl : operationPaths' = operationPaths := hops
    rfl
  · rintro rfl
    exact ⟨⟨List.nodup_nil, by simp⟩, ⟨List.nodup_nil, by simp⟩, rfl, rfl, rfl⟩

/-- Extending a draft by a path alone is storing it, if it is not there. -/
theorem extended_path_iff (d d' : Draft) (path : String) (item : PathItem) :
    Extended c known d [(path, item)] [] [] d' ↔
      d.paths.contains path = false ∧ { d with paths := d.paths.insert path item } = d' := by
  constructor
  · rintro ⟨hfresh, -, hdefs, hpaths, hops⟩
    obtain ⟨paths', definitions', operationPaths'⟩ := d'
    obtain rfl : d.definitions = definitions' := Except.ok.inj hdefs
    obtain rfl : paths' = d.paths.insert path item := hpaths
    obtain rfl : operationPaths' = d.operationPaths := hops
    exact ⟨hfresh.2 path (by simp), rfl⟩
  · rintro ⟨hfree, rfl⟩
    exact ⟨⟨by simp, by simpa using hfree⟩, ⟨List.nodup_nil, by simp⟩, rfl, rfl, rfl⟩

/-- Extending a draft twice is extending it by everything. -/
theorem extended_append_iff (d d' : Draft) (paths paths' : List (String × PathItem))
    (names names' : List (String × String)) (models models' : List String) :
    Extended c known d (paths ++ paths') (names ++ names') (models ++ models') d'
      ↔ ∃ d₁, Extended c known d paths names models d₁ ∧
          Extended c known d₁ paths' names' models' d' := by
  constructor
  · rintro ⟨hfresh, hnames, hdefs, hpaths, hops⟩
    rw [Dict.fresh_append] at hfresh hnames
    rw [Definitions.addAll_append, Run.bind_eq_ok] at hdefs
    rw [Dict.insertAll_append] at hpaths hops
    obtain ⟨built, hbuilt, hdefs⟩ := hdefs
    exact ⟨⟨_, built, _⟩, ⟨hfresh.1, hnames.1, hbuilt, rfl, rfl⟩, hfresh.2, hnames.2, hdefs, hpaths,
      hops⟩
  · rintro ⟨d₁, ⟨hfresh, hnames, hdefs, hpaths, hops⟩, hfresh', hnames', hdefs', hpaths', hops'⟩
    rw [hpaths] at hfresh' hpaths'
    rw [hops] at hnames' hops'
    refine ⟨(Dict.fresh_append _ _ _).2 ⟨hfresh, hfresh'⟩,
      (Dict.fresh_append _ _ _).2 ⟨hnames, hnames'⟩, ?_, ?_, ?_⟩
    · rw [Definitions.addAll_append, Run.bind_eq_ok]
      exact ⟨d₁.definitions, hdefs, hdefs'⟩
    · rw [Dict.insertAll_append, hpaths']
    · rw [Dict.insertAll_append, hops']

section Routes

variable (common : Dict ParameterKey RouteParameter) (path : String)

/-- The operation of a route can be added when it can be told on its own, its name is not taken and
the definitions it needs are there. -/
theorem addRoute_eq_ok_iff (d d' : Draft) (item item' : PathItem) (r : Route) :
    addRoute c known common path (d, item) r = .ok (d', item') ↔
      ∃ op, r.operationOf c common = .ok op ∧
        Extended c known d [] [(op.id, path)] (r.models common) d' ∧ item' = item.fillOne r op := by
  simp only [addRoute, Run.bind_eq_ok]
  constructor
  · rintro ⟨⟨op, built⟩, hbuild, h⟩
    obtain ⟨hop, hdefs⟩ := (r.buildOperation_uses c known common _ _ _).1 hbuild
    refine ⟨op, hop, ?_⟩
    cases hfree : d.operationPaths.find? op.id with
    | some first =>
      -- a name that is taken makes the step fail
      rw [hfree] at h
      exact nomatch h
    | none =>
      rw [hfree] at h
      obtain ⟨rfl, rfl⟩ := Prod.mk.inj (Except.ok.inj h)
      refine ⟨⟨⟨List.nodup_nil, by simp⟩, ⟨by simp, ?_⟩, hdefs, rfl, rfl⟩, rfl⟩
      simpa [Dict.contains_eq_false_iff] using hfree
  · rintro ⟨op, hop, ⟨-, hfresh, hdefs, hpaths, hops⟩, rfl⟩
    have hfree : d.operationPaths.find? op.id = none := by
      simpa [Dict.contains_eq_false_iff] using hfresh.2 op.id (by simp)
    refine ⟨(op, d'.definitions), (r.buildOperation_uses c known common _ _ _).2 ⟨hop, hdefs⟩, ?_⟩
    simp only [hfree]
    obtain ⟨paths', definitions', operationPaths'⟩ := d'
    obtain rfl : paths' = d.paths := hpaths
    obtain rfl : operationPaths' = d.operationPaths.insert op.id path := hops
    rfl

/-- The operations of some routes can be added when each can be told on its own, their names are fresh
and the definitions they need are there. They fill the slots of their routes. -/
theorem foldlM_addRoute_eq_ok_iff (routes : List Route) (d d' : Draft) (item item' : PathItem) :
    routes.foldlM (addRoute c known common path) (d, item) = .ok (d', item') ↔
      ∃ operations, routes.mapM (Route.operationOf c common) = .ok operations ∧
        Extended c known d [] (operations.map fun op => (op.id, path))
          (routes.flatMap (Route.models common)) d' ∧
        item' = item.fill (routes.zip operations) := by
  induction routes generalizing d item with
  | nil =>
    rw [List.foldlM_nil, List.mapM_nil, Run.pure_eq_ok, Prod.mk.injEq]
    constructor
    · rintro ⟨rfl, rfl⟩
      exact ⟨[], rfl, (extended_nil_iff d d).2 rfl, rfl⟩
    · rintro ⟨operations, hops, hext, rfl⟩
      obtain rfl : [] = operations := Run.pure_eq_ok.1 hops
      exact ⟨(extended_nil_iff d d').1 hext, rfl⟩
  | cons r rest ih =>
    simp only [List.foldlM_cons, List.mapM_cons, Run.bind_eq_ok, List.flatMap_cons]
    constructor
    · rintro ⟨⟨d₁, item₁⟩, hadd, hrest⟩
      obtain ⟨op, hop, hext, rfl⟩ := (addRoute_eq_ok_iff common path d d₁ item item₁ r).1 hadd
      obtain ⟨operations, hops, hext', rfl⟩ := (ih d₁ _).1 hrest
      exact ⟨op :: operations, ⟨op, hop, operations, hops, rfl⟩,
        (extended_append_iff d d' [] [] [(op.id, path)] _ _ _).2 ⟨d₁, hext, hext'⟩, rfl⟩
    · rintro ⟨_, ⟨op, hop, operations, hops, h⟩, hext, rfl⟩
      obtain rfl := Run.pure_eq_ok.1 h
      obtain ⟨d₁, hext, hext'⟩ :=
        (extended_append_iff d d' [] [] [(op.id, path)] _ _ _).1 hext
      exact ⟨(d₁, item.fillOne r op),
        (addRoute_eq_ok_iff common path d d₁ item _ r).2 ⟨op, hop, hext, rfl⟩,
        (ih d₁ _).2 ⟨operations, hops, hext', rfl⟩⟩

end Routes

/-- A draft is extended by some worked-out paths. -/
def ExtendedBy (c : Config) (known : Dict String Definition) (d : Draft) (work : List WorkedPath)
    (d' : Draft) : Prop :=
  Extended c known d (work.map WorkedPath.entry) (work.flatMap WorkedPath.operationPaths)
    (work.flatMap WorkedPath.models) d'

/-- A path can be stored with its operations exactly when the draft can be extended by it. -/
theorem storePath_eq_ok_iff (common : Dict ParameterKey RouteParameter) (path : String)
    (routes : List Route) (d d' : Draft) (item : PathItem) :
    (if d.paths.contains path then .error (.duplicatePath path)
      else do
        let r ← routes.foldlM (addRoute c known common path) (d, item)
        return { r.1 with paths := r.1.paths.insert path r.2 }) = Except.ok d' ↔
      ∃ operations, routes.mapM (Route.operationOf c common) = .ok operations ∧
        ExtendedBy c known d [⟨path, item.fill (routes.zip operations), operations,
          routes.flatMap (Route.models common)⟩] d' := by
  -- The operations come first and then the path, whose freshness they leave alone.
  have hsplit : ∀ w : WorkedPath, ExtendedBy c known d [w] d' ↔ ∃ d₁,
      Extended c known d [] w.operationPaths w.models d₁ ∧ d₁.paths.contains w.path = false ∧
        { d₁ with paths := d₁.paths.insert w.path w.item } = d' := by
    intro w
    have happend := @extended_append_iff c known d d' [] [w.entry]
      w.operationPaths [] w.models []
    simp only [WorkedPath.entry, extended_path_iff] at happend
    rw [← happend]
    simp [ExtendedBy, WorkedPath.entry]
  simp only [hsplit]
  constructor
  · intro h
    split at h
    · exact nomatch h
    · next hfree =>
      obtain ⟨⟨d₁, item'⟩, hfold, h⟩ := Run.bind_eq_ok.1 h
      obtain ⟨operations, hops, hext, rfl⟩ :=
        (foldlM_addRoute_eq_ok_iff common path routes d d₁ item item').1 hfold
      have hpaths : d₁.paths = d.paths := hext.paths_eq
      exact ⟨operations, hops, d₁, hext, by simpa [hpaths] using hfree, Run.pure_eq_ok.1 h⟩
  · rintro ⟨operations, hops, d₁, hext, hfree, h⟩
    have hpaths : d₁.paths = d.paths := hext.paths_eq
    rw [if_neg (by rw [← hpaths, hfree]; decide), Run.bind_eq_ok]
    exact ⟨(d₁, _), (foldlM_addRoute_eq_ok_iff common path routes d d₁ item _).2
      ⟨operations, hops, hext, rfl⟩, congrArg Except.ok h⟩

/-- A path can be added when it has no route, or can be worked out on its own and does not clash. -/
theorem addPath_eq_ok_iff (service : List RouteParameter) (g : PathGroup) (d d' : Draft) :
    d.addPath c known service g = .ok d' ↔
      if g.supported.isEmpty then d = d'
      else ∃ w, g.workedOut c service = .ok w ∧ ExtendedBy c known d [w] d' := by
  unfold addPath
  cases hempty : g.supported.isEmpty with
  | true => simp only [hempty, if_true, Run.pure_eq_ok]
  | false =>
    simp only [hempty, Bool.false_eq_true, if_false, PathGroup.workedOut, PathItem.withParameters,
      Run.bind_eq_ok]
    constructor
    · rintro ⟨_, hdistinct, shared, hshared, inherited, hinherited, hstore⟩
      obtain ⟨operations, hops, hext⟩ :=
        (storePath_eq_ok_iff g.common g.path g.supported d d' _).1 hstore
      exact ⟨_, ⟨_, hdistinct, _, ⟨shared, hshared, inherited, hinherited, rfl⟩, operations, hops, rfl⟩,
        hext⟩
    · rintro ⟨w, ⟨_, hdistinct, item, ⟨shared, hshared, inherited, hinherited, hitem⟩, operations,
        hops, hw⟩, hext⟩
      obtain rfl := Run.pure_eq_ok.1 hitem
      obtain rfl := Run.pure_eq_ok.1 hw
      exact ⟨_, hdistinct, shared, hshared, inherited, hinherited,
        (storePath_eq_ok_iff g.common g.path g.supported d d' _).2 ⟨operations, hops, hext⟩⟩

/-- A unit of work can be done when it can be worked out on its own and does not clash. -/
theorem run_eq_ok_iff (stage : Stage) (d d' : Draft) :
    d.run c known stage = .ok d' ↔
      ∃ w, stage.workedOut c = .ok w ∧ ExtendedBy c known d w.toList d' := by
  cases stage with
  | service parameters =>
    simp only [run, Stage.workedOut, Run.bind_eq_ok, Run.pure_eq_ok]
    constructor
    · rintro ⟨built, hbuilt, rfl⟩
      exact ⟨none, ⟨built, hbuilt, rfl⟩, (extended_nil_iff d d).2 rfl⟩
    · rintro ⟨_, ⟨built, hbuilt, rfl⟩, hext⟩
      exact ⟨built, hbuilt, (extended_nil_iff d d').1 hext⟩
  | path parameters g =>
    rw [run, addPath_eq_ok_iff, Stage.workedOut]
    split
    · simp only [Run.pure_eq_ok, exists_eq_left']
      exact (extended_nil_iff d d').symm
    · simp only [Run.bind_eq_ok, Run.pure_eq_ok]
      constructor
      · rintro ⟨w, hw, hext⟩
        exact ⟨some w, ⟨w, hw, rfl⟩, hext⟩
      · rintro ⟨_, ⟨w, hw, rfl⟩, hext⟩
        exact ⟨w, hw, hext⟩

/-- **Working out and putting together**: a run succeeds exactly when every unit of work can be worked
out on its own and the draft can be extended by the results, in their order. -/
theorem foldlM_run_eq_ok_iff (stages : List Stage) (d d' : Draft) :
    stages.foldlM (run c known) d = .ok d' ↔
      ∃ work, stages.mapM (Stage.workedOut c) = .ok work ∧
        ExtendedBy c known d (work.flatMap Option.toList) d' := by
  induction stages generalizing d with
  | nil =>
    simp only [List.foldlM_nil, List.mapM_nil, Run.pure_eq_ok, exists_eq_left']
    exact (extended_nil_iff d d').symm
  | cons stage rest ih =>
    -- the draft after the first unit of work stands between the two extensions
    have hsplit : ∀ (w : Option WorkedPath) (work : List (Option WorkedPath)),
        ExtendedBy c known d ((w :: work).flatMap Option.toList) d' ↔ ∃ d₁,
          ExtendedBy c known d w.toList d₁ ∧
            ExtendedBy c known d₁ (work.flatMap Option.toList) d' := by
      intro w work
      simp only [ExtendedBy, List.flatMap_cons, List.map_append, List.flatMap_append]
      exact extended_append_iff d d' _ _ _ _ _ _
    simp only [List.foldlM_cons, List.mapM_cons, Run.bind_eq_ok, run_eq_ok_iff, ih]
    constructor
    · rintro ⟨d₁, ⟨w, hw, hext⟩, work, hwork, hext'⟩
      exact ⟨w :: work, ⟨w, hw, work, hwork, rfl⟩, (hsplit w work).2 ⟨d₁, hext, hext'⟩⟩
    · rintro ⟨_, ⟨w, hw, work, hwork, h⟩, hext⟩
      obtain rfl := Run.pure_eq_ok.1 h
      obtain ⟨d₁, hext, hext'⟩ := (hsplit w work).1 hext
      exact ⟨d₁, ⟨w, hw, hext⟩, work, hwork, hext'⟩

end Draft

end Swagger
