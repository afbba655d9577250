import Swagger.Proofs.DraftBodies

/-! # The responses of a draft
A response takes the place of an earlier one for its code, and stands at the end if there is none. So a
route has each code once, at the place of its first declaration, with what its last declaration says;
nothing is left of those before it, not even a model where the last one has none.

* `RouteStep.returned`, `DeclaredResponse.lastFor` — the declarations among some steps, and the one that
  counts for a code.
* `Route.DeclaredBy` — what declarations come to, one after the other.
* `RouteDraft.codes_setResponse`, `RouteDraft.mem_setResponse_iff` — one more declaration;
  `RouteDraft.declaredBy_steps` — any steps.
* `WebService.draft_responses` — the responses of every route that was built step by step. -/

namespace Swagger

/-! ## Declarations -/

namespace RouteStep

/-- The response that a step declares. -/
def returned? : RouteStep → Option DeclaredResponse
  | .returns x => some x
  | _ => none

/-- The responses that are declared, one after the other. -/
def returned (ss : List RouteStep) : List DeclaredResponse := ss.filterMap returned?

/-- The responses of two parts are those of the first, and then those of the second. -/
theorem returned_append (ss ss' : List RouteStep) :
    returned (ss ++ ss') = returned ss ++ returned ss' := List.filterMap_append

/-- A step declares the response that it returns. -/
theorem returned?_eq_some_iff {s : RouteStep} {x : DeclaredResponse} :
    s.returned? = some x ↔ s = .returns x := by
  cases s <;> simp [returned?]

/-- The declared responses are those that some step returns. -/
theorem mem_returned_iff {ss : List RouteStep} {x : DeclaredResponse} :
    x ∈ returned ss ↔ .returns x ∈ ss := by
  rw [returned, List.mem_filterMap]
  constructor
  · rintro ⟨s, hs, hx⟩
    exact returned?_eq_some_iff.1 hx ▸ hs
  · exact fun hs => ⟨_, hs, rfl⟩

end RouteStep

/-- The last of some declarations for a code. -/
def DeclaredResponse.lastFor (declared : List DeclaredResponse) (code : UInt16) :
    Option DeclaredResponse := (declared.filter fun x => x.code == code).getLast?

open DeclaredResponse (lastFor)

/-- The last response for a code is the last one of all, if it has the code. -/
theorem DeclaredResponse.lastFor_concat (declared : List DeclaredResponse) (x : DeclaredResponse)
    (code : UInt16) :
    lastFor (declared ++ [x]) code = if x.code = code then some x else lastFor declared code := by
  rw [lastFor, List.filter_append]
  by_cases h : x.code = code
  · rw [if_pos h, List.filter_cons_of_pos (by simpa using h), List.filter_nil, List.getLast?_concat]
  · rw [if_neg h, List.filter_cons_of_neg (by simpa using h), List.filter_nil, List.append_nil, lastFor]

/-- A declaration counts if no later one has its code. -/
theorem DeclaredResponse.lastFor_append_cons (declared : List DeclaredResponse) {x : DeclaredResponse}
    {later : List DeclaredResponse} (h : ∀ y ∈ later, y.code ≠ x.code) :
    lastFor (declared ++ x :: later) x.code = some x := by
  have hlater : later.filter (fun y => y.code == x.code) = [] :=
    List.filter_eq_nil_iff.2 fun y hy => by simpa using h y hy
  rw [lastFor, List.filter_append, List.filter_cons_of_pos (by simp), hlater,
    List.getLast?_concat]

/-- What some declarations, one after the other, come to. -/
structure Route.DeclaredBy (declared responses : List DeclaredResponse) : Prop where
  /-- The codes stand in the order of their first declarations. -/
  codes_eq : responses.map DeclaredResponse.code = (declared.map DeclaredResponse.code).eraseDups
  /-- No code stands there twice. -/
  nodup_codes : (responses.map DeclaredResponse.code).Nodup
  /-- Under a code stands what is declared for it last, and nothing else. -/
  mem_iff : ∀ x, x ∈ responses ↔ lastFor declared x.code = some x

/-- Before any response is declared there is none. -/
theorem Route.declaredBy_nil : Route.DeclaredBy [] [] where
  codes_eq := List.eraseDups_nil.symm
  nodup_codes := List.nodup_nil
  mem_iff := fun x => by simp [lastFor]

/-! ## One more declaration -/

/-- A value behind others is kept if it is new. -/
theorem eraseDups_concat {α : Type*} [DecidableEq α] (l : List α) (a : α) :
    (l ++ [a]).eraseDups = if a ∈ l then l.eraseDups else l.eraseDups ++ [a] := by
  rw [List.eraseDups_append, List.removeAll]
  split
  · next h =>
    rw [List.filter_cons_of_neg (by simpa using h), List.filter_nil, List.eraseDups_nil,
      List.append_nil]
  · next h =>
    rw [List.filter_cons_of_pos (by simpa using h), List.filter_nil, List.eraseDups_cons,
      List.filter_nil, List.eraseDups_nil]

namespace RouteDraft

/-- A new code comes last. -/
theorem codes_setResponse (x : DeclaredResponse) (rs : List DeclaredResponse) :
    (setResponse x rs).map DeclaredResponse.code
      = if x.code ∈ rs.map DeclaredResponse.code then rs.map DeclaredResponse.code
        else rs.map DeclaredResponse.code ++ [x.code] := by
  induction rs with
  | nil => rfl
  | cons r rest ih =>
    rw [setResponse]
    by_cases hcode : r.code = x.code
    · rw [if_pos hcode, List.map_cons, List.map_cons, hcode, if_pos List.mem_cons_self]
    · rw [if_neg hcode, List.map_cons, ih, List.map_cons]
      by_cases hmem : x.code ∈ rest.map DeclaredResponse.code
      · rw [if_pos hmem, if_pos (List.mem_cons_of_mem _ hmem)]
      · have hnot : x.code ∉ r.code :: rest.map DeclaredResponse.code := fun h =>
          (List.mem_cons.1 h).elim (fun heq => hcode heq.symm) hmem
        rw [if_neg hmem, if_neg hnot, List.cons_append]

/-- Only the response for the same code gives way. -/
theorem mem_setResponse_iff {rs : List DeclaredResponse}
    (h : (rs.map DeclaredResponse.code).Nodup) (x y : DeclaredResponse) :
    y ∈ setResponse x rs ↔ y = x ∨ y ∈ rs ∧ y.code ≠ x.code := by
  induction rs with
  | nil => simp [setResponse]
  | cons r rest ih =>
    obtain ⟨hnot, hrest⟩ := List.nodup_cons.1 h
    rw [setResponse]
    by_cases hcode : r.code = x.code
    · have hother : y ∈ rest → y.code ≠ x.code := fun hy heq =>
        hnot (List.mem_map.2 ⟨y, hy, heq.trans hcode.symm⟩)
      rw [if_pos hcode, List.mem_cons, List.mem_cons]
      constructor
      · rintro (rfl | hy)
        · exact Or.inl rfl
        · exact Or.inr ⟨Or.inr hy, hother hy⟩
      · rintro (rfl | ⟨rfl | hy, hne⟩)
        · exact Or.inl rfl
        · exact absurd hcode hne
        · exact Or.inr hy
    · rw [if_neg hcode, List.mem_cons, ih hrest, List.mem_cons]
      constructor
      · rintro (rfl | rfl | ⟨hy, hne⟩)
        · exact Or.inr ⟨Or.inl rfl, hcode⟩
        · exact Or.inl rfl
        · exact Or.inr ⟨Or.inr hy, hne⟩
      · rintro (rfl | ⟨rfl | hy, hne⟩)
        · exact Or.inr (Or.inl rfl)
        · exact Or.inl rfl
        · exact Or.inr (Or.inr ⟨hy, hne⟩)

end RouteDraft

/-- One more declaration keeps codes, order and contents as they have to be. -/
theorem Route.DeclaredBy.concat {declared responses : List DeclaredResponse}
    (h : DeclaredBy declared responses) (x : DeclaredResponse) :
    DeclaredBy (declared ++ [x]) (RouteDraft.setResponse x responses) := by
  have hcodes := RouteDraft.codes_setResponse x responses
  have hmem : x.code ∈ responses.map DeclaredResponse.code ↔
      x.code ∈ declared.map DeclaredResponse.code := by
    rw [h.codes_eq, List.mem_eraseDups]
  refine ⟨?_, ?_, fun y => ?_⟩
  · rw [hcodes, List.map_append, List.map_singleton, eraseDups_concat, ← h.codes_eq]
    exact if_congr hmem rfl rfl
  · rw [hcodes]
    by_cases hold : x.code ∈ responses.map DeclaredResponse.code
    · rw [if_pos hold]
      exact h.nodup_codes
    · rw [if_neg hold]
      rw [← List.concat_eq_append]
      exact h.nodup_codes.concat hold
  · rw [RouteDraft.mem_setResponse_iff h.nodup_codes, h.mem_iff, DeclaredResponse.lastFor_concat]
    by_cases hcode : x.code = y.code
    · rw [if_pos hcode, Option.some_inj]
      exact ⟨fun hy => hy.elim Eq.symm fun hne => absurd hcode.symm hne.2, fun heq => Or.inl heq.symm⟩
    · rw [if_neg hcode]
      exact ⟨fun hy => hy.elim (fun heq => absurd (congrArg DeclaredResponse.code heq.symm) hcode)
        And.left, fun hlast => Or.inr ⟨hlast, Ne.symm hcode⟩⟩

namespace RouteDraft

open RouteStep (returned)

/-! ## Steps -/

/-- Only a declaration changes the responses. -/
theorem responses_step (d : RouteDraft) {s : RouteStep} (h : s.returned? = none) :
    (d.step s).route.responses = d.route.responses := by
  cases s with
  | returns x => exact absurd h (Option.some_ne_none x)
  | _ => rfl

/-- After several steps the responses are what the declarations among them come to. -/
theorem declaredBy_steps {d : RouteDraft} (h : d.route.responses = []) (ss : List RouteStep) :
    Route.DeclaredBy (returned ss) (d.steps ss).route.responses := by
  induction ss using List.reverseRecOn with
  | nil => exact h ▸ Route.declaredBy_nil
  | append_singleton ss s ih =>
    rw [steps_concat, RouteStep.returned_append]
    cases hreturned : s.returned? with
    | none =>
      have hnothing : returned [s] = [] := List.filterMap_cons_none hreturned
      rw [hnothing, List.append_nil, responses_step _ hreturned]
      exact ih
    | some x =>
      obtain rfl := RouteStep.returned?_eq_some_iff.1 hreturned
      exact ih.concat x

end RouteDraft

/-! ## Routes -/

namespace WebService

open RouteStep (returned)

/-- The responses of a route are those that its steps declared. -/
theorem declaredBy_routeAfter (ws : WebService) (method sub : String) (ss : List RouteStep) :
    Route.DeclaredBy (returned ss) (ws.routeAfter method sub ss).responses :=
  RouteDraft.declaredBy_steps (d := ws.draft method sub) rfl ss

/-- **The responses of a route that was built step by step.** Each code stands there once, in the order
of the first declarations, with what is declared for it last. So a declaration counts as a whole if no
later one has its code: where it has no model, an earlier model is gone. No other step changes the
responses. -/
theorem draft_responses (ws : WebService) (method sub : String) :
    (∀ ss, Route.DeclaredBy (returned ss) (ws.routeAfter method sub ss).responses) ∧
    (∀ (ss later : List RouteStep) (x : DeclaredResponse),
      (∀ y, .returns y ∈ later → y.code ≠ x.code) →
      ∀ y, y ∈ (ws.routeAfter method sub (ss ++ .returns x :: later)).responses ∧ y.code = x.code ↔
        y = x) ∧
    ∀ (d : RouteDraft) (s : RouteStep), (∀ x, s ≠ .returns x) →
      (d.step s).route.responses = d.route.responses := by
  refine ⟨ws.declaredBy_routeAfter method sub, fun ss later x hlater y => ?_, fun d s hs => ?_⟩
  · have hlast : lastFor (returned (ss ++ .returns x :: later)) x.code = some x := by
      rw [RouteStep.returned_append]
      exact DeclaredResponse.lastFor_append_cons _ fun y hy =>
        hlater y (RouteStep.mem_returned_iff.1 hy)
    rw [(ws.declaredBy_routeAfter method sub _).mem_iff]
    constructor
    · rintro ⟨hy, hcode⟩
      rw [hcode, hlast] at hy
      exact (Option.some.inj hy).symm
    · rintro rfl
      exact ⟨hlast, rfl⟩
  · refine d.responses_step ?_
    cases hreturned : s.returned? with
    | none => rfl
    | some x => exact absurd (RouteStep.returned?_eq_some_iff.1 hreturned) (hs x)

/-- A failure is declared in between, and success twice, at first with a model. -/
def podSteps : List RouteStep :=
  [.returns ⟨200, "a pod", some "core/v1.Pod"⟩, .returns ⟨404, "no such pod", none⟩, .reads "i64"]

/-- Success keeps its place before the failure and loses its model. -/
theorem draft_responses_pods :
    (∀ y, .returns y ∈ [RouteStep.operation "deletePod"] → y.code ≠ 200) ∧
    let r := routeAfter {} "DELETE" "pods"
      (podSteps ++ [.returns ⟨200, "gone", none⟩, .operation "deletePod"])
    (∀ y, y ∈ r.responses ∧ y.code = 200 ↔ y = ⟨200, "gone", none⟩) ∧
    r.responses.map DeclaredResponse.code = [200, 404] ∧
    (∀ x, RouteStep.operation "deletePod" ≠ .returns x) ∧
    (((draft {} "DELETE" "pods").steps podSteps).step (.operation "deletePod")).route.responses
      = ((draft {} "DELETE" "pods").steps podSteps).route.responses := by
  have hlater : ∀ y, .returns y ∈ [RouteStep.operation "deletePod"] → y.code ≠ 200 := by
    simp
  have hother : ∀ x, RouteStep.operation "deletePod" ≠ .returns x := by
    simp
  obtain ⟨hdeclared, hlast, hkept⟩ := draft_responses {} "DELETE" "pods"
  refine ⟨hlater, hlast podSteps [.operation "deletePod"] ⟨200, "gone", none⟩ hlater, ?_, hother,
    hkept _ _ hother⟩
  rw [(hdeclared _).codes_eq]
  decide

end WebService

end Swagger
