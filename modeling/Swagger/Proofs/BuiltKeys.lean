import Swagger.Proofs.Composition
import Swagger.Proofs.CopiedSchemas
import Swagger.Proofs.DocumentKeys
import Swagger.Proofs.ManifestRoutes
import Swagger.Proofs.TidySchemas

/-! # The keys of what is built
Settings and manifests are read, and nothing that is read repeats a key. What the builder makes of them
does not either: the metadata of a route is published under its marked keys alone, which are the names of
no field, and whatever else an operation holds has no extensions.

* `Settings.Tidy`, `Manifest.MetadataDistinct` — what settings and manifests are known to satisfy.
* `Settings.gives_ofNode?`, `Manifest.gives_ofNode?` — whatever is read does.
* `Config.Assembled.partsDistinct` — all that is built besides definitions repeats no key. -/

namespace Swagger

open Node (Gives)

/-! ## What is read -/

/-- What the parts of settings satisfy that are read. -/
structure Settings.Tidy (s : Settings) : Prop where
  /-- What is said about the service repeats no key. -/
  info : ∀ i ∈ s.info, i.toJson.KeysDistinct
  /-- Nor does the default response. -/
  defaultResponse : ∀ r ∈ s.defaultResponse, r.toJson.KeysDistinct
  /-- The shared responses stand in order and repeat no key. -/
  responseDefinitions : s.responseDefinitions.Sorted ∧
    ∀ e ∈ s.responseDefinitions.entries, e.2.toJson.KeysDistinct
  /-- So do the common responses. -/
  commonResponses : s.commonResponses.Sorted ∧
    ∀ e ∈ s.commonResponses.entries, e.2.toJson.KeysDistinct
  /-- So do the ways to prove who asks. -/
  securityDefinitions : ∀ d ∈ s.securityDefinitions, d.Sorted ∧
    ∀ e ∈ d.entries, e.2.toJson.KeysDistinct
  /-- What it takes to use any operation repeats no key. -/
  defaultSecurity : ∀ r ∈ s.defaultSecurity, r.toJson.KeysDistinct
  /-- The extensions of definitions stand in order and repeat no key inside. -/
  definitionExtensions : s.definitionExtensions.Plain

/-- All settings that are read are tidy. -/
theorem Settings.gives_ofNode? : Gives ofNode? Tidy := by
  intro n s h
  obtain ⟨f, -, h⟩ := Option.bind_eq_some_iff.1 h
  obtain ⟨protocols, -, h⟩ := Option.bind_eq_some_iff.1 h
  obtain ⟨info, hinfo, h⟩ := Option.bind_eq_some_iff.1 h
  obtain ⟨ignorePrefixes, -, h⟩ := Option.bind_eq_some_iff.1 h
  obtain ⟨defaultResponse, hdefault, h⟩ := Option.bind_eq_some_iff.1 h
  obtain ⟨responseDefinitions, hresponses, h⟩ := Option.bind_eq_some_iff.1 h
  obtain ⟨commonResponses, hcommon, h⟩ := Option.bind_eq_some_iff.1 h
  obtain ⟨securityDefinitions, hschemes, h⟩ := Option.bind_eq_some_iff.1 h
  obtain ⟨defaultSecurity, hsecurity, h⟩ := Option.bind_eq_some_iff.1 h
  obtain ⟨definitionExtensions, hextensions, h⟩ := Option.bind_eq_some_iff.1 h
  obtain rfl := Option.some.inj h
  obtain ⟨hsorted, hvalues⟩ := Node.gives_json?.dictField hextensions
  exact {
    info := Info.gives_ofNode?.optionalField hinfo
    defaultResponse := Response.gives_ofNode?.optionalField hdefault
    responseDefinitions := Response.gives_ofNode?.dictField hresponses
    commonResponses := (Response.gives_ofNode?.dictBy Node.codeKey?).field
      ⟨Dict.sorted_empty, fun _ he => absurd he List.not_mem_nil⟩ hcommon
    securityDefinitions := SecurityScheme.gives_ofNode?.dict.optionalField hschemes
    defaultSecurity := SecurityRequirement.gives_ofNode?.listField hsecurity
    definitionExtensions := ⟨hsorted, hvalues⟩ }

/-- The facts that a manifest tells about its routes are free values, which repeat no key. -/
def Manifest.MetadataDistinct (m : Manifest) : Prop :=
  ∀ e ∈ m.webServices, ∀ r ∈ e.routes, ∀ x ∈ r.metadata.entries, x.2.KeysDistinct

/-- The facts about a route that is read repeat no key. -/
theorem RouteEntry.gives_ofNode? :
    Gives ofNode? fun r => ∀ x ∈ r.metadata.entries, x.2.KeysDistinct := by
  intro n r h
  obtain ⟨f, -, h⟩ := Option.bind_eq_some_iff.1 h
  obtain ⟨method, -, h⟩ := Option.bind_eq_some_iff.1 h
  obtain ⟨path, -, h⟩ := Option.bind_eq_some_iff.1 h
  obtain ⟨doc, -, h⟩ := Option.bind_eq_some_iff.1 h
  obtain ⟨operation, -, h⟩ := Option.bind_eq_some_iff.1 h
  obtain ⟨produces, -, h⟩ := Option.bind_eq_some_iff.1 h
  obtain ⟨consumes, -, h⟩ := Option.bind_eq_some_iff.1 h
  obtain ⟨params, -, h⟩ := Option.bind_eq_some_iff.1 h
  obtain ⟨reads, -, h⟩ := Option.bind_eq_some_iff.1 h
  obtain ⟨writes, -, h⟩ := Option.bind_eq_some_iff.1 h
  obtain ⟨returns, -, h⟩ := Option.bind_eq_some_iff.1 h
  obtain ⟨metadata, hmetadata, h⟩ := Option.bind_eq_some_iff.1 h
  obtain rfl := Option.some.inj h
  exact (Node.gives_json?.dictField hmetadata).2

/-- Every manifest that is read has such facts. -/
theorem Manifest.gives_ofNode? : Gives ofNode? MetadataDistinct := by
  have hservice : Gives ServiceEntry.ofNode? fun e =>
      ∀ r ∈ e.routes, ∀ x ∈ r.metadata.entries, x.2.KeysDistinct := by
    intro n e h
    obtain ⟨f, -, h⟩ := Option.bind_eq_some_iff.1 h
    obtain ⟨rootPath, -, h⟩ := Option.bind_eq_some_iff.1 h
    obtain ⟨produces, -, h⟩ := Option.bind_eq_some_iff.1 h
    obtain ⟨consumes, -, h⟩ := Option.bind_eq_some_iff.1 h
    obtain ⟨params, -, h⟩ := Option.bind_eq_some_iff.1 h
    obtain ⟨routes, hroutes, h⟩ := Option.bind_eq_some_iff.1 h
    obtain rfl := Option.some.inj h
    exact RouteEntry.gives_ofNode?.listField hroutes
  intro n m h
  obtain ⟨f, -, h⟩ := Option.bind_eq_some_iff.1 h
  obtain ⟨services, hservices, h⟩ := Option.bind_eq_some_iff.1 h
  obtain rfl := Option.some.inj h
  exact hservice.listField hservices

/-- The facts about the routes of a manifest stand in order, and repeat no key inside. -/
theorem Manifest.MetadataDistinct.plain {m : Manifest} (hm : m.MetadataDistinct) {c : Config} {r : Route}
    (hr : r ∈ c.surviving m.routeSets) : Extensions.Plain r.metadata := by
  obtain ⟨s, hs, hr⟩ := (c.mem_surviving m.routeSets r).1 hr
  obtain ⟨e, he, rfl⟩ := (m.mem_routeSets s).1 hs
  obtain ⟨entry, hentry, rfl⟩ := List.mem_map.1 (List.mem_of_mem_filter hr)
  exact ⟨Dict.sorted_ofList _,
    fun x hx => hm e he entry hentry x (Dict.mem_of_mem_entries_ofList hx)⟩

/-! ## What is built -/

/-- The schema that stands for a model is tidy. -/
theorem Config.tidy_schemaOf (c : Config) (model : String) : (c.schemaOf model).Tidy := by
  unfold schemaOf
  cases SimpleType.ofName? model with
  | some t => exact Schema.tidy_simple t.type t.format
  | none => exact Schema.tidy_reference _

/-- The response with the schema of a model repeats no key. -/
theorem Config.keysDistinct_responseOf (c : Config) (model : Option String) (description : String) :
    (c.responseOf model description).toJson.KeysDistinct := by
  refine Response.keysDistinct_toJson (fun schema hschema => ?_) Dict.sorted_empty
    (fun _ he => absurd he List.not_mem_nil) Dict.sorted_empty (fun _ he => absurd he List.not_mem_nil)
    (Extensions.apart_empty _)
  obtain ⟨name, -, rfl⟩ := Option.map_eq_some_iff.1 hschema
  exact (c.tidy_schemaOf name).keysDistinct

namespace RouteParameter

variable {c : Config} {body : Option String} {p : RouteParameter} {x : Parameter}

/-- A parameter outside the body repeats no key. -/
theorem keysDistinct_of_buildSimple (h : p.buildSimple = .ok x) : x.toJson.KeysDistinct := by
  obtain ⟨-, -, t, -, rfl⟩ := (p.buildSimple_eq_ok_iff x).1 h
  exact Parameter.keysDistinct_toJson (fun _ hj => absurd hj List.not_mem_nil) (fun _ hj => by cases hj)
    (fun _ hs => by cases hs) (Extensions.apart_empty _)

/-- What a declared parameter is built as repeats no key. -/
theorem keysDistinct_of_parameterOf (h : p.parameterOf c body = .ok x) : x.toJson.KeysDistinct := by
  unfold parameterOf at h
  split at h
  · obtain rfl := Except.ok.inj h
    refine Parameter.keysDistinct_toJson (fun _ hj => absurd hj List.not_mem_nil)
      (fun _ hj => by cases hj) (fun schema hs => ?_) (Extensions.apart_empty _)
    obtain rfl := Option.some.inj hs
    exact (c.tidy_schemaOf _).keysDistinct
  · exact keysDistinct_of_buildSimple h

end RouteParameter

namespace Route

variable {c : Config} {r : Route}

/-- The responses that a route speaks of stand in the order of their codes. -/
theorem sorted_ownResponses (c : Config) (r : Route) : (r.ownResponses c).Sorted := by
  have hdeclared : ∀ declared : List DeclaredResponse, (declared.foldl
      (fun d x => d.insert x.code (c.responseOf x.model x.message)) (∅ : Dict UInt16 Response)).Sorted := by
    intro declared
    have hinsert : declared.foldl (fun d x => d.insert x.code (c.responseOf x.model x.message)) ∅
        = (∅ : Dict UInt16 Response).insertAll
            (declared.map fun x => (x.code, c.responseOf x.model x.message)) := by
      rw [Dict.insertAll, List.foldl_map]
    rw [hinsert]
    exact Dict.sorted_empty.insertAll _
  unfold ownResponses
  cases r.responses with
  | cons x rest => exact hdeclared (x :: rest)
  | nil =>
    cases r.writes with
    | none => exact hdeclared []
    | some model => exact Dict.sorted_empty.insert _ _

/-- They do so with those that all operations have. -/
theorem sorted_byCode_completeResponses {byCode : Dict UInt16 Response} (h : byCode.Sorted) :
    (completeResponses c byCode).byCode.Sorted := by
  simp only [completeResponses]
  induction c.commonResponses.entries generalizing byCode with
  | nil => exact h
  | cons e rest ih => exact ih (h.insertNew e.1 e.2)

/-- The responses of a route repeat no key if those of the settings do not. -/
theorem keysDistinct_completeResponses {c : Config}
    (hdefault : ∀ x ∈ c.defaultResponse, x.toJson.KeysDistinct)
    (hcommon : ∀ e ∈ c.commonResponses.entries, e.2.toJson.KeysDistinct) (r : Route) :
    (completeResponses c (r.ownResponses c)).toJson.KeysDistinct := by
  have hsorted := sorted_byCode_completeResponses (c := c) (r.sorted_ownResponses c)
  refine Responses.keysDistinct_toJson (fun x hx => ?_) hsorted (fun e he => ?_) rfl
  · simp only [completeResponses] at hx
    split at hx
    · exact hdefault x hx
    · cases hx
  · have hfind := (Dict.mem_entries_iff hsorted e.1 e.2).1 he
    rw [find?_byCode_completeResponses, Option.or_eq_some_iff] at hfind
    obtain hown | ⟨-, hfind⟩ := hfind
    · obtain ⟨model, description, heq, -⟩ := exists_responseOf hown
      rw [← heq]
      exact c.keysDistinct_responseOf model description
    · exact hcommon e (Dict.mem_entries_of_find? hfind)

/-- The metadata that is published stands under no name of a field. -/
theorem apart_publishedMetadata (h : Extensions.Plain r.metadata) :
    r.publishedMetadata.Apart Operation.fieldNames := by
  refine ⟨h.sorted.sublist List.filter_sublist, fun e he hname => ?_,
    fun e he => h.distinct e (List.mem_of_mem_filter he)⟩
  have hmarked := (List.mem_filter.1 he).2
  have hunmarked : ∀ k ∈ Operation.fieldNames,
      extensionMark.toList.isPrefixOf k.toList = false := by decide
  rw [hunmarked e.1 hname] at hmarked
  cases hmarked

/-- The operation of a route repeats no key. -/
theorem keysDistinct_of_operationOf {common : Dict ParameterKey RouteParameter} {op : Operation}
    (hdefault : ∀ x ∈ c.defaultResponse, x.toJson.KeysDistinct)
    (hcommon : ∀ e ∈ c.commonResponses.entries, e.2.toJson.KeysDistinct)
    (hmetadata : Extensions.Plain r.metadata) (h : r.operationOf c common = .ok op)
    (f : Parameter → Parameter) (hf : ∀ x : Parameter, x.toJson.KeysDistinct → (f x).toJson.KeysDistinct) :
    ({ op with parameters := op.parameters.map f } : Operation).toJson.KeysDistinct := by
  have hparameters : ∀ x ∈ op.parameters, x.toJson.KeysDistinct := by
    intro x hx
    obtain ⟨p, -, -, hp⟩ := (mem_parameters_iff h x).1 hx
    exact RouteParameter.keysDistinct_of_parameterOf hp
  obtain ⟨name, parameters, -, -, rfl⟩ := operationOf_eq_ok_iff.1 h
  refine Operation.keysDistinct_toJson (fun _ hr => absurd hr List.not_mem_nil)
    (List.forall_mem_map.2 fun x hx => hf x (hparameters x hx)) (fun responses hresponses => ?_)
    (apart_publishedMetadata hmetadata)
  obtain rfl := Option.some.inj hresponses
  exact keysDistinct_completeResponses hdefault hcommon r

end Route

namespace Config.Assembled

variable {c : Config} {sets : List RouteSet} {work : List WorkedPath} {draft : Draft}

/-- The shared parameters of a document repeat no key. -/
theorem keysDistinct_of_mem_shared (h : c.Assembled sets work draft) {e : String × Parameter}
    (he : e ∈ (c.inlineDocument draft).sharedParameters.parameters.entries) :
    e.2.toJson.KeysDistinct := by
  have hsorted := (c.inlineDocument draft).sorted_sharedParameters
  have hshared := Document.mem_shareable_of_shared ((Dict.mem_entries_iff hsorted e.1 e.2).1 he)
  obtain ⟨⟨site, hsite⟩, -⟩ := (Document.mem_shareable_iff _ e.2).1 hshared
  obtain ⟨service, g, w, hw, hmem⟩ := h.exists_workedOut_of_parameterAt? hsite
  obtain ⟨p, body, hp⟩ := PathGroup.exists_parameterOf_of_mem hw site.method hmem
  exact RouteParameter.keysDistinct_of_parameterOf hp

/-- The paths of a document repeat no key if the responses of the settings and the metadata of the
routes do not. -/
theorem keysDistinct_item (h : c.Assembled sets work draft)
    (hdefault : ∀ x ∈ c.defaultResponse, x.toJson.KeysDistinct)
    (hcommon : ∀ e ∈ c.commonResponses.entries, e.2.toJson.KeysDistinct)
    (hmetadata : ∀ r ∈ c.surviving sets, Extensions.Plain r.metadata) (s : SharedParameters)
    {e : String × PathItem} (he : e ∈ draft.paths.entries) :
    (e.2.mapParameters s.replace).toJson.KeysDistinct := by
  have hreplace : ∀ x : Parameter, x.toJson.KeysDistinct → (s.replace x).toJson.KeysDistinct :=
    fun x hx => Parameter.keysDistinct_replace s hx
  obtain ⟨service, g, w, hw, hitem⟩ := h.exists_workedOut_of_mem (List.mem_map_of_mem he)
  refine PathItem.keysDistinct_toJson (fun m op hop => ?_) (fun x hx => ?_) ?_
  · rw [PathItem.slot_mapParameters] at hop
    obtain ⟨before, hslot, rfl⟩ := Option.map_eq_some_iff.1 hop
    -- the operation is that of a surviving route
    have hfind := (Dict.mem_entries_iff h.sorted_paths e.1 e.2).1 he
    have hbefore : (c.inlineDocument draft).operationAt? e.1 m = some before := by
      rw [Document.operationAt?, inlineDocument, secured_paths, hfind]
      exact hslot
    obtain ⟨-, -, g', -, r, -, hr, hlast⟩ := (h.operationAt?_eq_some_iff e.1 m before).1 hbefore
    have hsurvives := List.mem_of_mem_filter (List.mem_of_getLast? hlast)
    exact Route.keysDistinct_of_operationOf hdefault hcommon (hmetadata r hsurvives) hr _ hreplace
  · obtain ⟨q, hq, rfl⟩ := List.mem_map.1 hx
    obtain ⟨p, body, hp⟩ := PathGroup.exists_parameterOf_of_mem hw none (hitem ▸ hq)
    exact hreplace q (RouteParameter.keysDistinct_of_parameterOf hp)
  · obtain ⟨-, item, operations, hitem', -, rfl⟩ := PathGroup.workedOut_eq_ok_iff.1 hw
    obtain ⟨shared, inherited, -, -, rfl⟩ := (PathItem.withParameters_eq_ok_iff _ _ _).1 hitem'
    rw [← hitem]
    exact PathItem.extensions_fill _ _

/-- **All that is built besides definitions repeats no key.** -/
theorem partsDistinct {s : Settings} {definitions : Dict String WrittenDefinition} (hs : s.Tidy)
    (h : (s.toConfig definitions).Assembled sets work draft)
    (hmetadata : ∀ r ∈ (s.toConfig definitions).surviving sets, Extensions.Plain r.metadata) :
    ((s.toConfig definitions).inlineDocument draft).shared.PartsDistinct := by
  set c := s.toConfig definitions
  have hnone : ∀ {P : String × SecurityScheme → Prop}, ∀ e ∈ (∅ : Dict String SecurityScheme).entries,
      P e := fun _ he => absurd he List.not_mem_nil
  -- without what the settings say about security
  have hplain : ({ c.blank with paths := draft.paths, definitions := draft.definitions }
      : Document).shared.PartsDistinct := by
    constructor
    case info => exact hs.info
    case sortedPaths =>
      rw [Document.shared_paths, Dict.sorted_iff_pairwise_keys, Dict.keys_map]
      exact (Dict.sorted_iff_pairwise_keys _).1 h.sorted_paths
    case paths =>
      exact List.forall_mem_map.2 fun e he =>
        h.keysDistinct_item hs.defaultResponse hs.commonResponses.2 hmetadata _ he
    case sortedDefinitions => exact h.sorted_definitions
    case sortedParameters => exact Document.sorted_sharedParameters _
    case parameters =>
      intro e he
      refine h.keysDistinct_of_mem_shared (e := e) ?_
      rw [inlineDocument_eq]
      exact he
    case sortedResponses => exact hs.responseDefinitions.1
    case responses => exact hs.responseDefinitions.2
    case sortedSchemes => exact Dict.sorted_empty
    case schemes => exact hnone
    case security => exact fun _ hr => absurd hr List.not_mem_nil
    case extensions => rfl
  rw [inlineDocument, secured]
  cases hschemes : c.securityDefinitions with
  | none => exact hplain
  | some schemes =>
    obtain ⟨hsorted, hvalues⟩ := hs.securityDefinitions schemes hschemes
    exact { hplain with
      sortedSchemes := hsorted
      schemes := hvalues
      security := hs.defaultSecurity }

end Config.Assembled

end Swagger
