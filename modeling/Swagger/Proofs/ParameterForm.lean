import Swagger.Proofs.Parameters

/-! # The form of parameters
What a parameter looks like is settled when it is built: either it is a body with a schema, or it has a
simple type and stands outside the body. Bodies stay with their operations, and sharing moves all the
others but those called `name` to the parameters of the document. So the lists of a finished document
hold pointers, bodies and those called `name`, and with the pointers followed they are in order.

* `Parameter.IsPlain`, `Parameter.IsBody` — parameters outside the body, and bodies.
* `Parameter.IsEntry` — what a list of a finished document may hold.
* `Document.ParametersWellFormed` — the form of all parameters of a document.
* `RouteSet.buildDocument_wellFormed` — every document that is built has this form. -/

namespace Swagger

/-! ## Parameters as they are built -/

namespace Parameter

/-- A parameter outside the body: it stands in one of four places, has the type and format of a simple
type and no schema, and in the path it has to be given. -/
structure IsPlain (p : Parameter) : Prop where
  /-- It is no pointer. -/
  reference_eq : p.reference = none
  /-- It stands outside the body. -/
  location_mem : p.location ∈ ["path", "query", "header", "formData"]
  /-- Its type and format are those of a simple type. -/
  type_eq : ∃ name t, SimpleType.ofName? name = some t ∧ p.type = t.type ∧ p.format = t.format
  /-- It has no schema. -/
  schema_eq : p.schema = none
  /-- In the path it has to be given. -/
  required_of_path : p.location = "path" → p.required = true

/-- A body, which has a schema and no type. -/
structure IsBody (p : Parameter) : Prop where
  /-- It is no pointer. -/
  reference_eq : p.reference = none
  /-- It stands in the body. -/
  location_eq : p.location = "body"
  /-- It has a schema. -/
  isSome_schema : p.schema.isSome
  /-- It has no type. -/
  type_eq : p.type = ""

/-- A plain parameter does not stand in the body. -/
theorem IsPlain.location_ne_body {p : Parameter} (h : p.IsPlain) : p.location ≠ "body" := by
  intro hbody
  have hmem := h.location_mem
  rw [hbody] at hmem
  exact absurd hmem (by decide)

end Parameter

/-- Outside the body there are four locations. -/
theorem ParameterKind.location_mem {k : ParameterKind} (h : k ≠ .body) :
    k.location ∈ ["path", "query", "header", "formData"] := by
  cases k with
  | body => exact absurd rfl h
  | _ => decide

namespace RouteParameter

variable {c : Config} {body : Option String} {p : RouteParameter} {x : Parameter}

/-- What is built without regard to a model stands outside the body. -/
theorem isPlain_of_buildSimple (h : p.buildSimple = .ok x) : x.IsPlain := by
  obtain ⟨hbody, hrequired, t, ht, rfl⟩ := (p.buildSimple_eq_ok_iff x).1 h
  exact
    { reference_eq := rfl
      location_mem := ParameterKind.location_mem hbody
      type_eq := ⟨p.dataType, t, ht, rfl, rfl⟩
      schema_eq := rfl
      required_of_path := fun hpath => hrequired (ParameterKind.location_injective hpath) }

/-- What is built stands outside the body, or is a body. -/
theorem isPlain_or_isBody_of_parameterOf (h : p.parameterOf c body = .ok x) :
    x.IsPlain ∨ x.IsBody := by
  unfold parameterOf at h
  split at h
  · obtain rfl := Except.ok.inj h
    exact Or.inr ⟨rfl, rfl, rfl, rfl⟩
  · exact Or.inl (isPlain_of_buildSimple h)

end RouteParameter

namespace PathGroup

variable {c : Config} {service : List RouteParameter} {g : PathGroup} {w : WorkedPath}

/-- The parameters of a path stand outside the body; among those of an operation there may be a
body. -/
theorem isPlain_or_isBody_of_mem (h : g.workedOut c service = .ok w) {m : Option Method}
    {x : Parameter} (hx : x ∈ w.item.parametersOf m) : x.IsPlain ∨ m.isSome ∧ x.IsBody := by
  cases m with
  | none =>
    obtain ⟨p, -, hp⟩ := (mem_parameters_iff h x).1 hx
    exact Or.inl (RouteParameter.isPlain_of_buildSimple hp)
  | some m =>
    obtain ⟨p, body, hp⟩ := exists_parameterOf_of_mem h (some m) hx
    exact (RouteParameter.isPlain_or_isBody_of_parameterOf hp).imp_right (And.intro rfl)

/-- The parameters of a path and of its operations are in order. -/
theorem pairwise_parametersOf (h : g.workedOut c service = .ok w) (m : Option Method) :
    (w.item.parametersOf m).Pairwise fun a b => (a.order b).isLE := by
  cases m with
  | none =>
    obtain ⟨inherited, shared, -, -, hparameters⟩ := parameters_of_workedOut h
    rw [PathItem.parametersOf, hparameters]
    exact Parameter.pairwise_sort _
  | some m =>
    cases hslot : w.item.slot m with
    | none => simp [PathItem.parametersOf, hslot]
    | some op =>
      obtain ⟨r, hop, -⟩ := (slot_eq_some_iff h m op).1 hslot
      obtain ⟨name, parameters, -, -, rfl⟩ := Route.operationOf_eq_ok_iff.1 hop
      simpa [PathItem.parametersOf, hslot, Route.operationWith] using
        Parameter.pairwise_sort parameters

end PathGroup

/-! ## Parameters of a finished document -/

/-- What a list of parameters may hold in a document that shares some: a pointer at one of these; in the
list of an operation, a body; or what is called `name` and stands in the path or query. -/
inductive Parameter.IsEntry (shared : Dict String Parameter) (ofOperation : Prop) : Parameter → Prop
  | pointer {k : String} : k ∈ shared.keys →
      IsEntry shared ofOperation (.pointingAt ("#/parameters/" ++ k))
  | body {p : Parameter} : ofOperation → p.IsBody → IsEntry shared ofOperation p
  | named {p : Parameter} : p.name = "name" → p.location = "path" ∨ p.location = "query" →
      p.IsPlain → IsEntry shared ofOperation p

namespace Document

/-- All parameters of a document have the form that they should have. -/
structure ParametersWellFormed (d : Document) : Prop where
  /-- The lists hold what they may hold. -/
  isEntry : ∀ item ∈ d.paths.values, ∀ m, ∀ p ∈ item.parametersOf m,
    p.IsEntry d.parameters m.isSome
  /-- What is shared stands outside the body, and is no pointer. -/
  isPlain_shared : ∀ p ∈ d.parameters.values, p.IsPlain
  /-- Once pointers are followed, the lists are in order. -/
  pairwise_inlined : ∀ item ∈ d.inlinedPaths.values, ∀ m,
    (item.parametersOf m).Pairwise fun a b => (a.order b).isLE

/-- What stands in the place of a well-formed parameter may stand there. -/
theorem isEntry_replace {d : Document} {s : ParameterSite} {p : Parameter} {ofOperation : Prop}
    (hs : d.parameterAt? s = some p) (hp : p.IsPlain ∨ ofOperation ∧ p.IsBody) :
    (d.sharedParameters.replace p).IsEntry d.sharedParameters.parameters ofOperation := by
  by_cases hinline : p.StaysInline
  · rw [SharedParameters.replace_of_staysInline _ hinline]
    rcases hp with hp | ⟨hoperation, hp⟩
    · -- of the reasons to stay inline, only the name is left
      rcases hinline with ⟨target, htarget, -⟩ | hbody | ⟨hname, hlocation⟩
      · rw [hp.reference_eq] at htarget
        cases htarget
      · exact absurd hbody hp.location_ne_body
      · exact .named hname hlocation hp
    · exact .body hoperation hp
  · obtain ⟨k, hk⟩ := d.exists_name hs hinline
    obtain ⟨q, hq, -⟩ := d.sharedParameters_consistent.1.parameter_of_name hk
    rw [SharedParameters.replace_of_name _ hinline hk]
    exact .pointer ((Dict.mem_keys_iff _ _).2 ⟨q, hq⟩)

end Document

namespace Config.Assembled

variable {c : Config} {sets : List RouteSet} {work : List WorkedPath} {draft : Draft}

/-- What is shared stands outside the body. -/
theorem isPlain_of_mem_shared (h : c.Assembled sets work draft) {p : Parameter}
    (hp : p ∈ (c.inlineDocument draft).sharedParameters.parameters.values) : p.IsPlain := by
  obtain ⟨k, hk⟩ := (Dict.mem_values_iff (c.inlineDocument draft).sorted_sharedParameters p).1 hp
  obtain ⟨⟨site, hsite⟩, hinline⟩ :=
    (Document.mem_shareable_iff _ p).1 (Document.mem_shareable_of_shared hk)
  obtain ⟨service, g, w, hw, hmem⟩ := h.exists_workedOut_of_parameterAt? hsite
  -- a body is not shared
  exact (PathGroup.isPlain_or_isBody_of_mem hw hmem).resolve_right fun hbody =>
    hinline (Or.inr (Or.inl hbody.2.location_eq))

end Config.Assembled

/-- **Parameters are well formed** in every document that is built. -/
theorem RouteSet.buildDocument_wellFormed {c : Config} (hc : c.complete = none)
    {sets : List RouteSet} {d : Document} (hd : RouteSet.buildDocument c sets = .ok d) :
    d.ParametersWellFormed := by
  obtain ⟨work, draft, h, rfl⟩ := (buildDocument_eq_ok_iff hc sets d).1 hd
  have hpaths : (c.inlineDocument draft).paths = draft.paths := by
    rw [Config.inlineDocument, Config.secured_paths]
  constructor
  case isEntry =>
    intro item hitem m p hp
    rw [Document.shared_paths, Dict.values_map] at hitem
    obtain ⟨before, hbefore, rfl⟩ := List.mem_map.1 hitem
    rw [PathItem.parametersOf_mapParameters] at hp
    obtain ⟨q, hq, rfl⟩ := List.mem_map.1 hp
    obtain ⟨service, g, w, hw, hwbefore⟩ := h.exists_workedOut_of_mem (hpaths ▸ hbefore)
    obtain ⟨site, hsite⟩ := ((c.inlineDocument draft).mem_allParameters_iff q).1
      (List.mem_flatMap.2 ⟨before, hbefore, (before.mem_allParameters q).2 ⟨m, hq⟩⟩)
    exact Document.isEntry_replace hsite
      (PathGroup.isPlain_or_isBody_of_mem hw (hwbefore ▸ hq))
  case isPlain_shared =>
    exact fun p hp => h.isPlain_of_mem_shared hp
  case pairwise_inlined =>
    -- with the pointers followed, the lists are those that were sorted
    rw [Document.inlinedPaths_shared h.isBuilt_of_parameterAt?, hpaths]
    intro item hitem m
    obtain ⟨service, g, w, hw, rfl⟩ := h.exists_workedOut_of_mem hitem
    exact PathGroup.pairwise_parametersOf hw m

/-- Writing a file, whose name is asked for. -/
def Route.writeFile : Route :=
  { method := "PUT", path := "/files/\x7bname\x7d", operation := "writeFile",
    reads := some "string",
    parameters :=
      [.declare .path "name" "The file", .declare .query "limit" "How much",
        .declare .body "content" "What is written"] }

/-- Files that can be written. -/
def RouteSet.fileStore : RouteSet := { rootPath := "/files", routes := [.writeFile] }

/-- A document with all three: the path has a pointer and a name, and the operation has a body. -/
theorem RouteSet.buildDocument_wellFormed_fileStore :
    ∃ d item, RouteSet.buildDocument {} [RouteSet.fileStore] = .ok d ∧ d.ParametersWellFormed ∧
      d.paths.find? "/files/\x7bname\x7d" = some item ∧
      [item.parametersOf none, item.parametersOf (some .put)].map (fun ps =>
        ps.map fun p => (p.isReference, p.place))
          = [[(true, "", ""), (false, "name", "path")], [(false, "content", "body")]] := by
  have hbuilt : (RouteSet.buildDocument {} [RouteSet.fileStore]).toOption.map (fun d =>
      (d.paths.find? "/files/\x7bname\x7d").map fun item =>
        [item.parametersOf none, item.parametersOf (some .put)].map fun ps =>
          ps.map fun p => (p.isReference, p.place))
      = some (some [[(true, "", ""), (false, "name", "path")], [(false, "content", "body")]]) := by
    decide +kernel
  obtain ⟨d, hd, hlists⟩ := Run.exists_of_map_eq_some hbuilt
  obtain ⟨item, hitem, hlists⟩ := Option.map_eq_some_iff.1 hlists
  exact ⟨d, item, hd, buildDocument_wellFormed rfl hd, hitem, hlists⟩

end Swagger
