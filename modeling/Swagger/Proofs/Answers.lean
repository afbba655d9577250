import Swagger.Proofs.Dict
import Swagger.Proofs.Operations

/-! # Which response stands under a code
Four sources give the responses of an operation. What is declared for a code comes first, and of several
declarations the last; a route that declares nothing answers success with what it writes; the common
responses take the codes that are left; and only where there is no code at all is there a default.

* `Route.lastDeclared?` — the declaration that counts for a code.
* `Route.find?_ownResponses`, `Route.find?_byCode_completeResponses` — looking up a code, source by source.
* `Route.Precedence` — where each response of an operation comes from.
* `Route.buildOperation_precedence` — every operation that is built answers in this order. -/

namespace Swagger

namespace Route

/-- The declaration of a route that counts for a code, which is the last one. -/
def lastDeclared? (r : Route) (code : UInt16) : Option DeclaredResponse :=
  (r.responses.filter fun x => x.code == code).getLast?

/-! ## Looking up a code -/

/-- A route that declares no response has none for a code. -/
theorem lastDeclared?_of_responses_eq_nil {r : Route} (h : r.responses = []) (code : UInt16) :
    r.lastDeclared? code = none := by
  rw [lastDeclared?, h]
  rfl

/-- Under a code a route says itself what it declares last, and else, if it declares nothing, what it
writes. -/
theorem find?_ownResponses (c : Config) (r : Route) (code : UInt16) :
    (r.ownResponses c).find? code
      = ((r.lastDeclared? code).map fun x => c.responseOf x.model x.message).or
          (if r.responses = [] ∧ code = 200 then r.writes.map fun m => c.responseOf (some m) "OK"
            else none) := by
  -- what the declarations leave under the code
  have hdeclared := Dict.find?_foldl_insert DeclaredResponse.code
    (fun x => c.responseOf x.model x.message) r.responses ∅ code
  rw [Dict.find?_empty, Option.or_none] at hdeclared
  unfold ownResponses lastDeclared?
  revert hdeclared
  cases r.responses with
  | cons x rest =>
    intro hdeclared
    rw [if_neg fun h => List.cons_ne_nil x rest h.1, Option.or_none]
    exact hdeclared
  | nil =>
    cases r.writes with
    | none => simp
    | some model =>
      intro _
      by_cases h : code = 200
      · simp [h]
      · simp [h, Dict.find?_insert]

/-- The completed responses by code: those that are there, and else the common ones. -/
theorem find?_byCode_completeResponses (c : Config) (byCode : Dict UInt16 Response) (code : UInt16) :
    (completeResponses c byCode).byCode.find? code
      = (byCode.find? code).or (c.commonResponses.find? code) := by
  rw [Dict.find?_eq_map_find? c.commonResponses]
  exact Dict.find?_foldl_insertNew Prod.fst Prod.snd c.commonResponses.entries byCode code

/-- The responses of a route's operation are its own, completed. -/
theorem responses_of_operationOf {c : Config} {common : Dict ParameterKey RouteParameter} {r : Route}
    {op : Operation} (h : r.operationOf c common = .ok op) :
    op.responses = some (completeResponses c (r.ownResponses c)) := by
  obtain ⟨name, parameters, -, -, rfl⟩ := operationOf_eq_ok_iff.1 h
  rfl

/-! ## The order of the sources -/

/-- The responses of a route's operation come from their sources in order. -/
structure Precedence (c : Config) (r : Route) (responses : Responses) : Prop where
  /-- A code that is declared has the response of its last declaration. -/
  declared : ∀ code x, r.lastDeclared? code = some x →
    responses.byCode.find? code = some (c.responseOf x.model x.message)
  /-- Where nothing is declared, success has what is written. -/
  written : ∀ model, r.responses = [] → r.writes = some model →
    responses.byCode.find? 200 = some (c.responseOf (some model) "OK")
  /-- Any other code has the common response, or none. -/
  common : ∀ code, r.lastDeclared? code = none →
    ¬(r.responses = [] ∧ r.writes.isSome = true ∧ code = 200) →
      responses.byCode.find? code = c.commonResponses.find? code
  /-- Every code of the common responses is there. -/
  common_mem : ∀ code ∈ c.commonResponses.keys, code ∈ responses.byCode.keys
  /-- Where there is no code, there is the default response. -/
  fallback_of_nil : responses.byCode.keys = [] → responses.fallback = c.defaultResponse
  /-- Where there is a code, there is no default. -/
  fallback_of_ne_nil : responses.byCode.keys ≠ [] → responses.fallback = none

/-- The responses of an operation come from their sources in order. -/
theorem precedence_completeResponses (c : Config) (r : Route) :
    r.Precedence c (completeResponses c (r.ownResponses c)) where
  declared code x hx := by
    rw [find?_byCode_completeResponses, find?_ownResponses, hx, Option.map_some, Option.some_or,
      Option.some_or]
  written model hnil hmodel := by
    rw [find?_byCode_completeResponses, find?_ownResponses, lastDeclared?_of_responses_eq_nil hnil,
      if_pos ⟨hnil, rfl⟩, hmodel]
    rfl
  common code hnone hunwritten := by
    have hown : (r.ownResponses c).find? code = none := by
      rw [find?_ownResponses, hnone, Option.map_none, Option.none_or]
      split_ifs with h
      · -- the route writes nothing, or it would speak of success
        have hwrites : r.writes = none := by
          by_contra hsome
          exact hunwritten ⟨h.1, Option.isSome_iff_ne_none.2 hsome, h.2⟩
        rw [hwrites, Option.map_none]
      · rfl
    rw [find?_byCode_completeResponses, hown, Option.none_or]
  common_mem code hcode := by
    obtain ⟨response, hresponse⟩ := (Dict.mem_keys_iff _ _).1 hcode
    rw [Dict.mem_keys_iff]
    cases hown : (r.ownResponses c).find? code with
    | some own =>
      refine ⟨own, ?_⟩
      rw [find?_byCode_completeResponses, hown, Option.some_or]
    | none =>
      refine ⟨response, ?_⟩
      rw [find?_byCode_completeResponses, hown, Option.none_or, hresponse]
  fallback_of_nil h := if_pos ((Dict.isEmpty_iff _).2 h)
  fallback_of_ne_nil h := if_neg fun hempty => h ((Dict.isEmpty_iff _).1 hempty)

/-- **Every operation answers in order.** Whatever parameters belong to the path and whatever
definitions are there already, an operation that is built has its responses from the declarations of its
route, else from what this writes, else from the common ones, and a default only where no code came of
all these. -/
theorem buildOperation_precedence {c : Config} {known : Dict String Definition}
    {common : Dict ParameterKey RouteParameter} {built built' : Definitions} {r : Route}
    {op : Operation} (h : r.buildOperation c known common built = .ok (op, built')) :
    ∃ responses, op.responses = some responses ∧ r.Precedence c responses := by
  have hop : r.operationOf c common = .ok op := ((buildOperation_uses c known common r _ _ _).1 h).1
  exact ⟨_, responses_of_operationOf hop, precedence_completeResponses c r⟩

/-- Success and absence answer every operation, and a failure where there is no code. -/
def answering : Config where
  defaultResponse := some { description := "A failure" }
  commonResponses := Dict.ofList [(200, { description := "Done" }), (404, { description := "Absent" })]

/-- A route that declares success twice, the second time with a model. -/
def listing : Route where
  method := "GET"
  path := "/pods"
  operation := "list"
  responses := [{ code := 200, message := "Pods", model := none },
    { code := 200, message := "All pods", model := some "core/v1.Pod" }]
  writes := some "core/v1.PodList"

/-- The definition of a pod. -/
def knownPods : Dict String Definition :=
  Dict.ofList [("core/v1.Pod", { schema := Schema.simple "object" "" })]

/-- Pods are answered with the second declaration; what is written and the common success do not count. -/
theorem buildOperation_precedence_listing :
    ∃ op built responses, listing.buildOperation answering knownPods ∅ ∅ = .ok (op, built) ∧
      op.responses = some responses ∧
      responses.byCode.find? 200 = some
        { description := "All pods", schema := some (Schema.reference "#/definitions/v1.Pod") } ∧
      responses.byCode.find? 404 = some { description := "Absent" } ∧ responses.fallback = none := by
  obtain ⟨⟨op, built⟩, hbuilt⟩ := Run.exists_of_isSome
    (x := listing.buildOperation answering knownPods ∅ ∅) (by decide +kernel)
  obtain ⟨responses, hresponses, h⟩ := buildOperation_precedence hbuilt
  have hkeys : responses.byCode.keys ≠ [] := by
    intro hnil
    have hmem := h.common_mem 404 (by decide +kernel)
    rw [hnil] at hmem
    exact absurd hmem List.not_mem_nil
  refine ⟨op, built, responses, hbuilt, hresponses, ?_, ?_, h.fallback_of_ne_nil hkeys⟩
  · rw [h.declared 200 { code := 200, message := "All pods", model := some "core/v1.Pod" } (by decide)]
    decide +kernel
  · rw [h.common 404 (by decide) (by decide)]
    decide +kernel

end Route

end Swagger
