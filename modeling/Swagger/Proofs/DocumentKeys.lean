import Swagger.Proofs.DistinctKeys
import Swagger.Proofs.Sharing

/-! # The keys of a document
The objects that stand around the schemas of a document, and the document itself, as tables of their
fields. Status codes are written as different numbers, and none of them as `default`.

* `Responses.keysDistinct_toJson`, `Parameter.keysDistinct_toJson`, `Operation.keysDistinct_toJson`,
  `PathItem.keysDistinct_toJson` — the objects around the schemas.
* `Document.PartsDistinct` — what a document consists of besides its definitions repeats no key.
* `Document.PartsDistinct.keysDistinct_toJson_iff` — then only the definitions count. -/

namespace Swagger

open Json.Members

namespace Json.Members

/-- A list of texts is a row that is left out when empty. -/
theorem strings_eq_present (key : String) (values : List String) :
    strings key values = present [(key, leftOutIf (values.map Json.str).isEmpty (.arr (values.map .str)))] :=
  items_eq_present key _

/-- Where every field has a value, all members are written. -/
theorem present_map_some {α : Type} (key : α → String) (value : α → Json) (l : List α) :
    present (l.map fun a => (key a, some (value a))) = l.map fun a => (key a, value a) := by
  induction l with
  | nil => rfl
  | cons a rest ih => exact congrArg (List.cons (key a, value a)) ih

/-- A list of texts has no keys. -/
@[simp] theorem distinctValue_strings (values : List String) :
    DistinctValue (leftOutIf (values.map Json.str).isEmpty (.arr (values.map .str))) :=
  (distinctValue_list_iff Json.str values).2 fun s _ => Json.keysDistinct_str s

/-- A pointer to documentation elsewhere repeats no key. -/
theorem distinctValue_externalDocs (docs : Option ExternalDocs) :
    DistinctValue (docs.map ExternalDocs.toJson) :=
  distinctValue_map fun d _ => (ExternalDocs.roundTrips.wellFormed d trivial).keysDistinct

end Json.Members

/-! ## Responses -/

namespace Responses

/-- The responses by the names they are written under. -/
def fields (r : Responses) : List (String × Option Json) :=
  ("default", r.fallback.map Response.toJson) ::
    r.byCode.entries.map fun e => (toString e.1.toNat, some e.2.toJson)

/-- Responses are written as a record of their fields. -/
theorem toJson_eq (r : Responses) : r.toJson = .obj (record r.fields r.extensions []) := by
  rw [toJson, optional_eq_present, ← present_map_some, ← present_append, record, present_nil,
    List.append_nil]
  rfl

/-- No number is written as a word. -/
theorem toString_ne_default (n : Nat) : toString n ≠ "default" := by
  intro h
  have hd : 'd' ∈ Nat.toDigits 10 n := by
    have hlist := congrArg String.toList h
    rw [Nat.toString_eq_repr, Nat.repr, String.toList_ofList] at hlist
    rw [hlist]
    decide
  exact absurd (Nat.isDigit_of_mem_toDigits (by decide) (by decide) hd) (by decide)

/-- Different codes are written under different names, and none of them as `default`. -/
theorem nodup_fields {r : Responses} (h : r.byCode.Sorted) : (r.fields.map Prod.fst).Nodup := by
  have hcodes : (r.byCode.keys.map fun code => toString code.toNat).Nodup := by
    refine h.nodup_keys.map fun a b hab => ?_
    exact UInt16.toNat_inj.1 (Nat.repr_inj.1 hab)
  rw [fields, List.map_cons, List.map_map, List.nodup_cons]
  refine ⟨fun hmem => ?_, ?_⟩
  · obtain ⟨e, -, he⟩ := List.mem_map.1 hmem
    exact toString_ne_default e.1.toNat he
  · rwa [Dict.keys, List.map_map] at hcodes

/-- Responses repeat no key if none of them does and there are no extensions. -/
theorem keysDistinct_toJson {r : Responses} (hfallback : ∀ x ∈ r.fallback, x.toJson.KeysDistinct)
    (hsorted : r.byCode.Sorted) (hcodes : ∀ e ∈ r.byCode.entries, e.2.toJson.KeysDistinct)
    (hx : r.extensions = ∅) : r.toJson.KeysDistinct := by
  have hnames := nodup_fields hsorted
  rw [toJson_eq, hx, Json.keysDistinct_record_iff_of_apart (Extensions.apart_empty _) hnames
    (by rw [List.append_nil]), List.append_nil, fields, List.forall_mem_cons]
  exact ⟨distinctValue_map hfallback, List.forall_mem_map.2 fun e he =>
    (distinctValue_some_iff _).2 (hcodes e he)⟩

end Responses

/-! ## Parameters, operations and paths -/

namespace Parameter

/-- A parameter repeats no key if nothing in it does and its extensions stay apart from its fields. -/
theorem keysDistinct_toJson {p : Parameter} (henum : ∀ j ∈ p.enumeration, j.KeysDistinct)
    (hdefault : ∀ j ∈ p.defaultValue, j.KeysDistinct)
    (hschema : ∀ s ∈ p.schema, s.toJson.KeysDistinct) (hx : p.extensions.Apart fieldNames) :
    p.toJson.KeysDistinct := by
  have hdouble : ∀ o : Option Double, DistinctValue (o.map Json.ofDouble) :=
    fun o => distinctValue_map fun d _ => Json.keysDistinct_num _
  have hreference : DistinctValue (p.reference.map Json.str) :=
    distinctValue_map fun t _ => Json.keysDistinct_str t
  have hfree : DistinctValue (p.defaultValue.map id) := distinctValue_map hdefault
  have hvalues := (distinctValue_list_iff id p.enumeration).2 henum
  rw [toJson_eq, Json.keysDistinct_record_iff_of_apart hx (by decide) rfl]
  simp only [leadingFields, trailingFields, List.cons_append, List.nil_append, List.forall_mem_cons,
    distinctValue_text, distinctValue_flag, hdouble, hreference, hvalues, hfree,
    distinctValue_map hschema, true_and]
  exact fun e he => absurd he List.not_mem_nil

/-- A pointer at a shared parameter repeats no key. -/
theorem keysDistinct_pointingAt (target : String) : (pointingAt target).toJson.KeysDistinct :=
  keysDistinct_toJson (fun j hj => absurd hj List.not_mem_nil) (fun j hj => by cases hj)
    (fun s hs => by cases hs) (Extensions.apart_empty _)

/-- What stands in the place of a parameter repeats no key if the parameter does not. -/
theorem keysDistinct_replace (s : SharedParameters) {p : Parameter} (h : p.toJson.KeysDistinct) :
    (s.replace p).toJson.KeysDistinct := by
  unfold SharedParameters.replace
  split
  · cases s.names.find? p.text with
    | none => exact h
    | some name => exact keysDistinct_pointingAt _
  · exact h

end Parameter

namespace Operation

/-- The names of the fields, in order. -/
def fieldNames : List String :=
  ["description", "consumes", "produces", "schemes", "tags", "summary", "externalDocs", "operationId",
    "deprecated", "security", "parameters", "responses"]

/-- The fields with their values. -/
def fields (o : Operation) : List (String × Option Json) :=
  [("description", leftOutIf o.description.isEmpty (.str o.description)),
    ("consumes", leftOutIf (o.consumes.map Json.str).isEmpty (.arr (o.consumes.map .str))),
    ("produces", leftOutIf (o.produces.map Json.str).isEmpty (.arr (o.produces.map .str))),
    ("schemes", leftOutIf (o.schemes.map Json.str).isEmpty (.arr (o.schemes.map .str))),
    ("tags", leftOutIf (o.tags.map Json.str).isEmpty (.arr (o.tags.map .str))),
    ("summary", leftOutIf o.summary.isEmpty (.str o.summary)),
    ("externalDocs", o.externalDocs.map ExternalDocs.toJson),
    ("operationId", leftOutIf o.id.isEmpty (.str o.id)),
    ("deprecated", leftOutIf (!o.deprecated) (.bool true)),
    ("security", leftOutIf (o.security.map SecurityRequirement.toJson).isEmpty
      (.arr (o.security.map SecurityRequirement.toJson))),
    ("parameters", leftOutIf (o.parameters.map Parameter.toJson).isEmpty
      (.arr (o.parameters.map Parameter.toJson))),
    ("responses", o.responses.map Responses.toJson)]

/-- An operation is written as a record of its fields. -/
theorem toJson_eq (o : Operation) : o.toJson = .obj (record o.fields o.extensions []) := by
  simp only [toJson, text_eq_present, strings_eq_present, optional_eq_present, flag_eq_present,
    items_eq_present, ← present_append, record, present_nil, List.append_nil]
  simp only [fields, List.cons_append, List.nil_append]

/-- An operation repeats no key if nothing in it does and its extensions stay apart from its fields. -/
theorem keysDistinct_toJson {o : Operation} (hsecurity : ∀ r ∈ o.security, r.toJson.KeysDistinct)
    (hparameters : ∀ p ∈ o.parameters, p.toJson.KeysDistinct)
    (hresponses : ∀ r ∈ o.responses, r.toJson.KeysDistinct) (hx : o.extensions.Apart fieldNames) :
    o.toJson.KeysDistinct := by
  rw [toJson_eq, Json.keysDistinct_record_iff_of_apart hx (by decide) rfl, List.append_nil]
  simp only [fields, List.forall_mem_cons, distinctValue_text, distinctValue_strings,
    distinctValue_flag, distinctValue_externalDocs,
    (distinctValue_list_iff SecurityRequirement.toJson _).2 hsecurity,
    (distinctValue_list_iff Parameter.toJson _).2 hparameters, distinctValue_map hresponses, true_and]
  exact fun e he => absurd he List.not_mem_nil

end Operation

namespace PathItem

/-- The fields with their values. -/
def fields (p : PathItem) : List (String × Option Json) :=
  Method.all.map (fun m => (m.key, (p.slot m).map Operation.toJson)) ++
    [("parameters", leftOutIf (p.parameters.map Parameter.toJson).isEmpty
      (.arr (p.parameters.map Parameter.toJson)))]

/-- The names of the fields, in order. -/
def fieldNames : List String := Method.all.map Method.key ++ ["parameters"]

/-- A path is written as a record of its fields. -/
theorem toJson_eq (p : PathItem) : p.toJson = .obj (record p.fields p.extensions []) := by
  simp only [toJson, optional_eq_present, items_eq_present, Method.all, List.flatMap_cons,
    List.flatMap_nil, ← present_append, record, present_nil, List.append_nil]
  rfl

/-- A path repeats no key if nothing in it does and it has no extensions. -/
theorem keysDistinct_toJson {p : PathItem} (hoperations : ∀ m, ∀ op ∈ p.slot m, op.toJson.KeysDistinct)
    (hparameters : ∀ x ∈ p.parameters, x.toJson.KeysDistinct) (hx : p.extensions = ∅) :
    p.toJson.KeysDistinct := by
  have hnames : (p.fields ++ []).map Prod.fst = fieldNames := rfl
  rw [toJson_eq, hx, Json.keysDistinct_record_iff_of_apart (Extensions.apart_empty fieldNames)
    (by decide) hnames, List.append_nil, fields, List.forall_mem_append]
  exact ⟨List.forall_mem_map.2 fun m _ => distinctValue_map (hoperations m),
    List.forall_mem_singleton.2 ((distinctValue_list_iff _ _).2 hparameters)⟩

end PathItem

/-! ## Documents -/

namespace Document

/-- The names of the fields, in order. -/
def fieldNames : List String :=
  ["swagger", "info", "host", "basePath", "schemes", "consumes", "produces", "paths", "definitions",
    "parameters", "responses", "securityDefinitions", "security", "tags", "externalDocs"]

/-- The fields with their values. -/
def fields (d : Document) : List (String × Option Json) :=
  [("swagger", some (.str d.version)), ("info", d.info.map Info.toJson),
    ("host", leftOutIf d.host.isEmpty (.str d.host)),
    ("basePath", leftOutIf d.basePath.isEmpty (.str d.basePath)),
    ("schemes", leftOutIf (d.schemes.map Json.str).isEmpty (.arr (d.schemes.map .str))),
    ("consumes", leftOutIf (d.consumes.map Json.str).isEmpty (.arr (d.consumes.map .str))),
    ("produces", leftOutIf (d.produces.map Json.str).isEmpty (.arr (d.produces.map .str))),
    ("paths", some (.ofDict (d.paths.map PathItem.toJson))),
    ("definitions", leftOutIf (d.definitions.map Schema.toJson).entries.isEmpty
      (.obj (d.definitions.map Schema.toJson).entries)),
    ("parameters", leftOutIf (d.parameters.map Parameter.toJson).entries.isEmpty
      (.obj (d.parameters.map Parameter.toJson).entries)),
    ("responses", leftOutIf (d.responses.map Response.toJson).entries.isEmpty
      (.obj (d.responses.map Response.toJson).entries)),
    ("securityDefinitions", leftOutIf (d.securityDefinitions.map SecurityScheme.toJson).entries.isEmpty
      (.obj (d.securityDefinitions.map SecurityScheme.toJson).entries)),
    ("security", leftOutIf (d.security.map SecurityRequirement.toJson).isEmpty
      (.arr (d.security.map SecurityRequirement.toJson))),
    ("tags", leftOutIf (d.tags.map Tag.toJson).isEmpty (.arr (d.tags.map Tag.toJson))),
    ("externalDocs", d.externalDocs.map ExternalDocs.toJson)]

/-- A document is written as a record of its fields. -/
theorem toJson_eq (d : Document) : d.toJson = .obj (record d.fields d.extensions []) := by
  simp only [toJson, always_eq_present, text_eq_present, strings_eq_present, optional_eq_present,
    items_eq_present, dict, object_eq_present, ← present_append, record, present_nil, List.append_nil]
  simp only [fields, List.cons_append, List.nil_append]

/-- What a document consists of besides its definitions repeats no key. -/
structure PartsDistinct (d : Document) : Prop where
  /-- What is said about the service. -/
  info : ∀ i ∈ d.info, i.toJson.KeysDistinct
  /-- The paths stand in order. -/
  sortedPaths : d.paths.Sorted
  /-- What can be done at them. -/
  paths : ∀ e ∈ d.paths.entries, e.2.toJson.KeysDistinct
  /-- The definitions stand in order. -/
  sortedDefinitions : d.definitions.Sorted
  /-- The shared parameters stand in order. -/
  sortedParameters : d.parameters.Sorted
  /-- The shared parameters. -/
  parameters : ∀ e ∈ d.parameters.entries, e.2.toJson.KeysDistinct
  /-- The shared responses stand in order. -/
  sortedResponses : d.responses.Sorted
  /-- The shared responses. -/
  responses : ∀ e ∈ d.responses.entries, e.2.toJson.KeysDistinct
  /-- The ways to prove who asks stand in order. -/
  sortedSchemes : d.securityDefinitions.Sorted
  /-- The ways to prove who asks. -/
  schemes : ∀ e ∈ d.securityDefinitions.entries, e.2.toJson.KeysDistinct
  /-- What it takes to use any operation. -/
  security : ∀ r ∈ d.security, r.toJson.KeysDistinct
  /-- Nothing else stands in the document. -/
  extensions : d.extensions = ∅

/-- Where all else repeats no key, a document repeats one exactly where one of its definitions does. -/
theorem PartsDistinct.keysDistinct_toJson_iff {d : Document} (h : d.PartsDistinct) :
    d.toJson.KeysDistinct ↔ ∀ e ∈ d.definitions.entries, e.2.toJson.KeysDistinct := by
  have hpaths : (Json.ofDict (d.paths.map PathItem.toJson)).KeysDistinct := by
    rw [Json.ofDict, Json.keysDistinct_obj_iff, ← Dict.keys, Dict.keys_map]
    exact ⟨h.sortedPaths.nodup_keys, List.forall_mem_map.2 h.paths⟩
  have htags : ∀ t ∈ d.tags, t.toJson.KeysDistinct := fun t _ =>
    (Tag.roundTrips.wellFormed t trivial).keysDistinct
  rw [toJson_eq, h.extensions, Json.keysDistinct_record_iff_of_apart (Extensions.apart_empty fieldNames)
    (by decide) rfl, List.append_nil]
  simp only [fields, List.forall_mem_cons, distinctValue_some_iff, Json.keysDistinct_str,
    distinctValue_map h.info, distinctValue_text, distinctValue_strings, hpaths,
    distinctValue_dict_iff Schema.toJson h.sortedDefinitions,
    (distinctValue_dict_iff Parameter.toJson h.sortedParameters).2 h.parameters,
    (distinctValue_dict_iff Response.toJson h.sortedResponses).2 h.responses,
    (distinctValue_dict_iff SecurityScheme.toJson h.sortedSchemes).2 h.schemes,
    (distinctValue_list_iff SecurityRequirement.toJson d.security).2 h.security,
    (distinctValue_list_iff Tag.toJson d.tags).2 htags, distinctValue_externalDocs, true_and]
  exact and_iff_left fun e he => absurd he List.not_mem_nil

end Document

end Swagger
