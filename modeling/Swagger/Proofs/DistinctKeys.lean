import Swagger.Proofs.NodeValues
import Swagger.Proofs.ObjectRoundTrips

/-! # Objects without repeated keys
What is read from any node is written without a repeated key. The fields of a type have different names,
and what the reader keeps as an extension stands under none of them.

* `Schema.Tidy` — a schema whose extensions stand under no keyword, and so for all schemas inside.
* `Schema.Tidy.keysDistinct` — a tidy schema is written without a repeated key.
* `Schema.gives_ofNode?` — every schema that is read is tidy.
* `Info.gives_ofNode?`, `Response.gives_ofNode?`, `SecurityScheme.gives_ofNode?`,
  `SecurityRequirement.gives_ofNode?` — the other objects that settings hold. -/

namespace Swagger

open Json.Members
open Node (Gives)

/-! ## Values -/

namespace Json.Members

/-- A member that is left out repeats no key. -/
@[simp] theorem distinctValue_none : DistinctValue none := fun _ hj => by cases hj

/-- A member that is written repeats no key if its value does not. -/
@[simp] theorem distinctValue_some_iff (j : Json) : DistinctValue (some j) ↔ j.KeysDistinct := by
  simp [DistinctValue]

/-- Whether a member is left out does not matter. -/
theorem distinctValue_leftOutIf {silent : Bool} {j : Json} (h : j.KeysDistinct) :
    DistinctValue (leftOutIf silent j) := by
  cases silent
  · exact (distinctValue_some_iff j).2 h
  · exact distinctValue_none

/-- A text has no keys. -/
@[simp] theorem distinctValue_text (silent : Bool) (s : String) :
    DistinctValue (leftOutIf silent (.str s)) :=
  distinctValue_leftOutIf (Json.keysDistinct_str s)

/-- A flag has no keys. -/
@[simp] theorem distinctValue_flag (silent b : Bool) : DistinctValue (leftOutIf silent (.bool b)) :=
  distinctValue_leftOutIf (Json.keysDistinct_bool b)

/-- An optional field repeats no key if what it holds does not. -/
theorem distinctValue_map {α : Type} {write : α → Json} {o : Option α}
    (h : ∀ a ∈ o, (write a).KeysDistinct) : DistinctValue (o.map write) := by
  intro j hj
  obtain ⟨a, ha, rfl⟩ := Option.map_eq_some_iff.1 hj
  exact h a ha

/-- A list repeats a key exactly where one of its items does. -/
theorem distinctValue_list_iff {α : Type} (write : α → Json) (l : List α) :
    DistinctValue (leftOutIf (l.map write).isEmpty (.arr (l.map write))) ↔
      ∀ a ∈ l, (write a).KeysDistinct := by
  cases l with
  | nil => simp [leftOutIf]
  | cons a rest => simp [leftOutIf, Json.keysDistinct_arr_iff]

/-- A dictionary in order repeats a key exactly where one of its values does. -/
theorem distinctValue_dict_iff {α : Type} (write : α → Json) {d : Dict String α} (hd : d.Sorted) :
    DistinctValue (leftOutIf (d.map write).entries.isEmpty (.obj (d.map write).entries)) ↔
      ∀ e ∈ d.entries, (write e.2).KeysDistinct := by
  have hkeys : ((d.map write).entries.map Prod.fst).Nodup := by
    rw [← Dict.keys, Dict.keys_map]
    exact hd.nodup_keys
  have hobject : (Json.obj (d.map write).entries).KeysDistinct ↔
      ∀ e ∈ d.entries, (write e.2).KeysDistinct := by
    rw [Json.keysDistinct_obj_iff, and_iff_right hkeys, Dict.map, List.forall_mem_map]
  cases hempty : (d.map write).entries.isEmpty with
  | true =>
    have hnone : d.entries = [] := by simpa [Dict.map] using hempty
    simp [leftOutIf, hnone]
  | false => exact (distinctValue_some_iff _).trans hobject

end Json.Members

/-! ## Schemas -/

/-- What the keywords of a schema satisfy that is read from any node. -/
structure Keywords.Tidy (k : Keywords) : Prop where
  /-- The extensions stand under no keyword. -/
  extensions : k.extensions.Apart Schema.fieldNames
  /-- A default repeats no key. -/
  defaultValue : ∀ j ∈ k.defaultValue, j.KeysDistinct
  /-- The values allowed repeat no key. -/
  enumeration : ∀ j ∈ k.enumeration, j.KeysDistinct
  /-- A sample repeats no key. -/
  sample : ∀ j ∈ k.sample, j.KeysDistinct

/-- Keywords without free values are tidy. -/
theorem Keywords.tidy_of_texts {k : Keywords} (hextensions : k.extensions = ∅)
    (hdefault : k.defaultValue = none) (henum : k.enumeration = []) (hsample : k.sample = none) :
    k.Tidy where
  extensions := hextensions ▸ Extensions.apart_empty _
  defaultValue := by simp [hdefault]
  enumeration := by simp [henum]
  sample := by simp [hsample]

namespace Schema

/-- A schema whose keywords are tidy, and whose inner schemas are. -/
inductive Tidy : Schema → Prop
  /-- Its properties stand in the order of their keys. -/
  | intro {s : Schema} (own : s.own.Tidy) (sorted : s.properties.Sorted)
      (inner : ∀ t ∈ s.inner, Tidy t) : Tidy s

/-- What a tidy schema holds beside the schemas in it is tidy. -/
theorem Tidy.own {s : Schema} (hs : s.Tidy) : s.own.Tidy := by
  cases hs with
  | intro own _ _ => exact own

/-- A tidy schema has its properties in order. -/
theorem Tidy.sorted {s : Schema} (hs : s.Tidy) : s.properties.Sorted := by
  cases hs with
  | intro _ sorted _ => exact sorted

/-- The schemas in a tidy schema are tidy. -/
theorem Tidy.inner {s : Schema} (hs : s.Tidy) : ∀ t ∈ s.inner, t.Tidy := by
  cases hs with
  | intro _ _ inner => exact inner

/-- A schema with nothing inside is tidy if its keywords are. -/
theorem tidy_of_own {own : Keywords} (h : own.Tidy) : Tidy { own := own } :=
  .intro h List.Pairwise.nil fun _ ht => absurd ht List.not_mem_nil

/-- The schema that allows everything is tidy. -/
theorem tidy_empty : Tidy {} := tidy_of_own (Keywords.tidy_of_texts rfl rfl rfl rfl)

/-- A schema that only refers to another one is tidy. -/
theorem tidy_reference (target : String) : (reference target).Tidy :=
  tidy_of_own (Keywords.tidy_of_texts rfl rfl rfl rfl)

/-- A schema with a type and a format is tidy. -/
theorem tidy_simple (type format : String) : (simple type format).Tidy :=
  tidy_of_own (Keywords.tidy_of_texts rfl rfl rfl rfl)

/-! ### Writing -/

/-- Types are written without keys. -/
theorem keysDistinct_typesJson (ts : List String) : (typesJson ts).KeysDistinct :=
  (wellFormed_typesJson ts).keysDistinct

/-- The schemas of items repeat no key if none of them does. -/
theorem keysDistinct_itemsJson {i : OneOrMany Schema} (h : ∀ t ∈ i.toList, t.toJson.KeysDistinct) :
    (itemsJson i).KeysDistinct := by
  cases i with
  | one t => exact h t (List.mem_singleton_self t)
  | many l =>
    rw [itemsJson, toJsonList_eq_map, Json.keysDistinct_arr_iff]
    exact List.forall_mem_map.2 h

/-- The schema of additional properties repeats no key if it is a flag, or by itself does not. -/
theorem keysDistinct_additionalJson {a : FlagOr Schema}
    (h : ∀ t ∈ a.toList, t.toJson.KeysDistinct) : (additionalJson a).KeysDistinct := by
  cases a with
  | flag b => exact Json.keysDistinct_bool b
  | other t => exact h t (List.mem_singleton_self t)

/-- The keywords repeat no key where the inner schemas do not. -/
theorem distinctValue_fields {s : Schema} (hown : s.own.Tidy) (hsorted : s.properties.Sorted)
    (hinner : ∀ t ∈ s.inner, t.toJson.KeysDistinct) : ∀ e ∈ s.fields, DistinctValue e.2 := by
  obtain ⟨hitems, hall, hproperties, hadditional⟩ := (forall_mem_inner_iff s _).1 hinner
  have hdouble : ∀ o : Option Double, DistinctValue (o.map Json.ofDouble) :=
    fun o => distinctValue_map fun d _ => Json.keysDistinct_num _
  have hnatural : ∀ o : Option Nat, DistinctValue (o.map Json.ofNat) :=
    fun o => distinctValue_map fun n _ => Json.keysDistinct_num _
  simp only [fields, List.forall_mem_cons, distinctValue_text, distinctValue_flag, hdouble, hnatural,
    distinctValue_list_iff, true_and]
  refine ⟨distinctValue_map fun t _ => Json.keysDistinct_str t,
    distinctValue_leftOutIf (keysDistinct_typesJson s.own.types), distinctValue_map hown.defaultValue,
    hown.enumeration, fun t _ => Json.keysDistinct_str t,
    distinctValue_map fun i hi => keysDistinct_itemsJson (hitems i hi), hall,
    (distinctValue_dict_iff toJson hsorted).2 hproperties,
    distinctValue_map fun a ha => keysDistinct_additionalJson (hadditional a ha),
    distinctValue_map fun d _ => (ExternalDocs.roundTrips.wellFormed d trivial).keysDistinct,
    distinctValue_map hown.sample, fun e he => absurd he List.not_mem_nil⟩

/-- **A tidy schema is written without a repeated key.** -/
theorem Tidy.keysDistinct {s : Schema} (hs : s.Tidy) : s.toJson.KeysDistinct := by
  induction hs with
  | @intro s own sorted _ ih =>
    rw [toJson_eq, Json.keysDistinct_record_iff_of_apart own.extensions nodup_fieldNames rfl,
      List.append_nil]
    exact distinctValue_fields own sorted ih

/-! ### Reading -/

/-- What is known of a schema that is read is known of every schema of the items that are read. -/
theorem gives_items? {read : Node → Option Schema} {P : Schema → Prop} (h : Gives read P) :
    Gives (items? read) fun i => ∀ t ∈ i.toList, P t := by
  intro n i hi
  obtain ⟨m, -, hi⟩ := Option.bind_eq_some_iff.1 hi
  cases hl : m.list? read with
  | some l =>
    rw [hl] at hi
    obtain rfl := Option.some.inj hi
    exact h.list m l hl
  | none =>
    rw [hl] at hi
    obtain ⟨t, ht, rfl⟩ := Option.map_eq_some_iff.1 hi
    exact List.forall_mem_singleton.2 (h m t ht)

/-- What is known of a schema that is read is known of the schema of additional properties. -/
theorem gives_additional? {read : Node → Option Schema} {P : Schema → Prop} (h : Gives read P) :
    Gives (additional? read) fun a => ∀ t ∈ a.toList, P t := by
  intro n a ha
  obtain ⟨m, -, ha⟩ := Option.bind_eq_some_iff.1 ha
  cases m with
  | bool b =>
    obtain rfl := Option.some.inj ha
    exact fun t ht => absurd ht List.not_mem_nil
  | _ =>
    obtain ⟨t, ht, rfl⟩ := Option.map_eq_some_iff.1 ha
    exact List.forall_mem_singleton.2 (h _ t ht)

/-- Every schema that is read is tidy, by induction on the levels that the reader is prepared for. -/
theorem gives_ofNodeWithin? (levels : Nat) : Gives (ofNodeWithin? levels) Tidy := by
  induction levels with
  | zero =>
    intro n s h
    cases h
  | succ levels ih =>
    intro n s h
    obtain ⟨⟨f, x⟩, hopen, h⟩ := Option.bind_eq_some_iff.1 h
    obtain ⟨own, hown, h⟩ := Option.bind_eq_some_iff.1 h
    obtain ⟨items, hitems, h⟩ := Option.bind_eq_some_iff.1 h
    obtain ⟨allOf, hall, h⟩ := Option.bind_eq_some_iff.1 h
    obtain ⟨properties, hproperties, h⟩ := Option.bind_eq_some_iff.1 h
    obtain ⟨additional, hadditional, h⟩ := Option.bind_eq_some_iff.1 h
    obtain rfl := Option.some.inj h
    obtain ⟨hsorted, hproperties⟩ := ih.dictField hproperties
    have hfields := readFrom_of_keywords? hown
    have hkeywords : own.Tidy :=
      { extensions := hfields.extensions_eq ▸ Node.apart_of_extensible? hopen
        defaultValue := Node.gives_json?.optionalField hfields.defaultValue
        enumeration := Node.gives_json?.listField hfields.enumeration
        sample := Node.gives_json?.optionalField hfields.sample }
    refine .intro hkeywords hsorted ((forall_mem_inner_iff _ Tidy).2
      ⟨(gives_items? ih).optionalField hitems, ih.listField hall, hproperties,
        (gives_additional? ih).optionalField hadditional⟩)

/-- **Every schema that is read is tidy.** -/
theorem gives_ofNode? : Gives ofNode? Tidy := fun n => gives_ofNodeWithin? (n.depth + 1) n

end Schema

/-! ## The objects of settings -/

namespace Info

/-- The information about an API repeats no key if its extensions stay apart from its fields. -/
theorem keysDistinct_toJson {i : Info} (hx : i.extensions.Apart fieldNames) :
    i.toJson.KeysDistinct := by
  rw [toJson_eq, Json.keysDistinct_record_iff_of_apart hx (by decide) rfl, List.append_nil]
  have hcontact : DistinctValue (i.contact.map Contact.toJson) :=
    distinctValue_map fun c _ => (Contact.roundTrips.wellFormed c trivial).keysDistinct
  have hlicense : DistinctValue (i.license.map License.toJson) :=
    distinctValue_map fun l _ => (License.roundTrips.wellFormed l trivial).keysDistinct
  simp [fields, hcontact, hlicense]

/-- Information about an API that is read repeats no key. -/
theorem gives_ofNode? : Gives ofNode? fun i => i.toJson.KeysDistinct := by
  refine .of_extensible (fun _ => rfl) fun f x hx i h => ?_
  simp only [Option.bind_eq_bind, Option.bind_eq_some_iff] at h
  obtain ⟨_, -, _, -, _, -, _, -, _, -, _, -, h⟩ := h
  obtain rfl := Option.some.inj h
  exact keysDistinct_toJson hx

end Info

namespace Header

/-- A header repeats no key if its extensions stay apart from its fields. -/
theorem keysDistinct_toJson {r : Header} (hx : r.extensions.Apart fieldNames) :
    r.toJson.KeysDistinct := by
  rw [toJson_eq, Json.keysDistinct_record_iff_of_apart hx (by decide) rfl, List.append_nil]
  simp [fields]

/-- A header that is read repeats no key. -/
theorem gives_ofNode? : Gives ofNode? fun r => r.toJson.KeysDistinct := by
  refine .of_extensible (fun _ => rfl) fun f x hx r h => ?_
  simp only [Option.bind_eq_bind, Option.bind_eq_some_iff] at h
  obtain ⟨_, -, _, -, _, -, h⟩ := h
  obtain rfl := Option.some.inj h
  exact keysDistinct_toJson hx

end Header

namespace Response

/-- A response repeats no key if nothing in it does and its extensions stay apart from its fields. -/
theorem keysDistinct_toJson {r : Response} (hschema : ∀ s ∈ r.schema, s.toJson.KeysDistinct)
    (hsortedHeaders : r.headers.Sorted) (hheaders : ∀ e ∈ r.headers.entries, e.2.toJson.KeysDistinct)
    (hsortedExamples : r.examples.Sorted) (hexamples : ∀ e ∈ r.examples.entries, e.2.KeysDistinct)
    (hx : r.extensions.Apart fieldNames) : r.toJson.KeysDistinct := by
  rw [toJson_eq, Json.keysDistinct_record_iff_of_apart hx (by decide) rfl, List.append_nil]
  have hheaderValues := (distinctValue_dict_iff Header.toJson hsortedHeaders).2 hheaders
  have hsamples := (distinctValue_dict_iff id hsortedExamples).2 hexamples
  simp [fields, distinctValue_map hschema, hheaderValues, hsamples]

/-- A response that is read repeats no key. -/
theorem gives_ofNode? : Gives ofNode? fun r => r.toJson.KeysDistinct := by
  refine .of_extensible (fun _ => rfl) fun f x hx r h => ?_
  obtain ⟨description, -, h⟩ := Option.bind_eq_some_iff.1 h
  obtain ⟨schema, hschema, h⟩ := Option.bind_eq_some_iff.1 h
  obtain ⟨headers, hheaders, h⟩ := Option.bind_eq_some_iff.1 h
  obtain ⟨examples, hexamples, h⟩ := Option.bind_eq_some_iff.1 h
  obtain rfl := Option.some.inj h
  obtain ⟨hsortedHeaders, hheaders⟩ := Header.gives_ofNode?.dictField hheaders
  obtain ⟨hsortedExamples, hexamples⟩ := Node.gives_json?.dictField hexamples
  have hread := Schema.gives_ofNode?.optionalField hschema
  exact keysDistinct_toJson (fun s hs => (hread s hs).keysDistinct) hsortedHeaders hheaders
    hsortedExamples hexamples hx

end Response

namespace SecurityScheme

/-- A security scheme repeats no key if its scopes are in order and its extensions stay apart. -/
theorem keysDistinct_toJson {s : SecurityScheme} (hscopes : s.scopes.Sorted)
    (hx : s.extensions.Apart fieldNames) : s.toJson.KeysDistinct := by
  rw [toJson_eq, Json.keysDistinct_record_iff_of_apart hx (by decide) rfl, List.append_nil]
  have hvalues := (distinctValue_dict_iff Json.str hscopes).2 fun e _ => Json.keysDistinct_str e.2
  simp [fields, hvalues]

/-- A security scheme that is read repeats no key. -/
theorem gives_ofNode? : Gives ofNode? fun s => s.toJson.KeysDistinct := by
  refine .of_extensible (fun _ => rfl) fun f x hx s h => ?_
  simp only [Option.bind_eq_bind, Option.bind_eq_some_iff] at h
  obtain ⟨_, -, _, -, _, -, _, -, _, -, _, -, _, -, scopes, hscopes, h⟩ := h
  obtain rfl := Option.some.inj h
  exact keysDistinct_toJson (Node.gives_string?.dictField hscopes).1 hx

end SecurityScheme

namespace SecurityRequirement

/-- A security requirement repeats no key if it has its schemes in order. -/
theorem keysDistinct_toJson {r : SecurityRequirement} (h : Dict.Sorted r) : r.toJson.KeysDistinct := by
  have hkeys : (Dict.map Json.ofStrings r).keys.Nodup := by
    rw [Dict.keys_map]
    exact h.nodup_keys
  rw [toJson, Json.ofDict, Json.keysDistinct_obj_iff]
  refine ⟨hkeys, List.forall_mem_map.2 fun e _ => ?_⟩
  rw [Json.ofStrings, Json.keysDistinct_arr_iff]
  exact List.forall_mem_map.2 fun t _ => Json.keysDistinct_str t

/-- A security requirement that is read repeats no key. -/
theorem gives_ofNode? : Gives ofNode? fun r => r.toJson.KeysDistinct :=
  fun n r h => keysDistinct_toJson (Node.gives_string?.list.dict n r h).1

end SecurityRequirement

end Swagger
