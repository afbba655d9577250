import Swagger.Proofs.SchemaRoundTrip

/-! # Reading undoes writing for the objects of a document
The objects with schemas inside, and all of them together.

* `Response.roundTrips`, `Parameter.roundTrips` — the objects with schemas inside.
* `Document.objects_roundTrip` — reading undoes writing for every type that a configuration holds. -/

namespace Swagger

open Json.Members

namespace Response

/-- A response that is read again as it was. -/
structure Sound (r : Response) : Prop where
  /-- The schema of the body is sound. -/
  schema : ∀ s ∈ r.schema, s.Sound
  /-- The headers are in the order of their names. -/
  sortedHeaders : r.headers.Sorted
  /-- The headers are sound. -/
  headers : ∀ e ∈ r.headers.entries, e.2.Sound
  /-- The samples are in the order of their media types. -/
  sortedExamples : r.examples.Sorted
  /-- The samples are free. -/
  examples : ∀ e ∈ r.examples.entries, e.2.Free
  /-- The extensions stand under no name of a field. -/
  extensions : r.extensions.Sound fieldNames

/-- The fields with their values. -/
def fields (r : Response) : List (String × Option Json) :=
  [("description", some (.str r.description)), ("schema", r.schema.map Schema.toJson),
    ("headers", leftOutIf (r.headers.map Header.toJson).entries.isEmpty
      (.obj (r.headers.map Header.toJson).entries)),
    ("examples", leftOutIf (r.examples.map id).entries.isEmpty (.obj (r.examples.map id).entries))]

/-- A response is written as a record of its fields and extensions. -/
theorem toJson_eq (r : Response) : r.toJson = .obj (record r.fields r.extensions []) := by
  have hexamples : r.examples.entries = (r.examples.map id).entries := (List.map_id _).symm
  simp only [toJson, always_eq_present, optional_eq_present, dict, object_eq_present, hexamples,
    ← present_append, record, present_nil, List.append_nil]
  rfl

/-- **Responses are read as they were written.** -/
theorem roundTrips : RoundTrips Sound toJson ofNode? := by
  refine .of_extensible (fun _ => rfl) toJson_eq (fun _ => rfl) (by decide) (fun _ h => h.extensions)
    ?_ ?_ ?_
  · -- every value is well formed
    intro r hr
    have hschema : WellFormedValue (r.schema.map Schema.toJson) :=
      wellFormedValue_optional fun s hs => Schema.roundTrips.wellFormed s (hr.schema s hs)
    have hheaders := wellFormedValue_dict hr.sortedHeaders fun e he =>
      Header.roundTrips.wellFormed e.2 (hr.headers e he)
    simp [fields, hschema, hheaders, wellFormedValue_freeDict hr.sortedExamples hr.examples]
  · -- every field is read as it was written
    intro r hr f hf
    simp only [fields, List.append_nil, List.forall_mem_cons] at hf
    obtain ⟨hdescription, hschema, hheaders, hexamples, -⟩ := hf
    have hreadHeaders : f.dict "headers" Header.ofNode? = some r.headers :=
      Fields.dict_of_written hheaders hr.sortedHeaders fun e he =>
        Header.roundTrips.reads e.2 (hr.headers e he)
    have hreadExamples : f.dict "examples" Node.json? = some r.examples :=
      Fields.dict_of_written hexamples hr.sortedExamples fun e he =>
        Node.json?_ofJson e.2 (hr.examples e he)
    simp only [Fields.string_of_always hdescription,
      Schema.roundTrips.optional Schema.toJson_ne_null hschema hr.schema, hreadHeaders, hreadExamples]
    rfl
  · -- what is read is sound
    intro f x hf hx r h
    obtain ⟨description, -, h⟩ := Option.bind_eq_some_iff.1 h
    obtain ⟨schema, hschema, h⟩ := Option.bind_eq_some_iff.1 h
    obtain ⟨headers, hheaders, h⟩ := Option.bind_eq_some_iff.1 h
    obtain ⟨examples, hexamples, h⟩ := Option.bind_eq_some_iff.1 h
    obtain rfl := Option.some.inj h
    obtain ⟨hsortedHeaders, hheaders⟩ := hf.dict Header.roundTrips.sound hheaders
    obtain ⟨hsortedExamples, hexamples⟩ := hf.dict Node.yields_json? hexamples
    exact {
      schema := hf.optional (Node.Yields.optional Schema.roundTrips.sound) hschema
      sortedHeaders := hsortedHeaders
      headers := hheaders
      sortedExamples := hsortedExamples
      examples := hexamples
      extensions := hx }

end Response

namespace Parameter

/-- A parameter that is read again as it was. -/
structure Sound (p : Parameter) : Prop where
  /-- The greatest number is finite. -/
  maximum : ∀ d ∈ p.maximum, d.isFinite = true
  /-- The least number is finite. -/
  minimum : ∀ d ∈ p.minimum, d.isFinite = true
  /-- The values allowed are free. -/
  enumeration : ∀ j ∈ p.enumeration, j.Free
  /-- A default is free and not null. -/
  defaultValue : ∀ j ∈ p.defaultValue, j.Free ∧ j ≠ .null
  /-- The schema of a body is sound. -/
  schema : ∀ s ∈ p.schema, s.Sound
  /-- The extensions stand under no name of a field. -/
  extensions : p.extensions.Sound fieldNames

/-- The fields in front of the extensions. -/
def leadingFields (p : Parameter) : List (String × Option Json) :=
  [("$ref", p.reference.map .str), ("maximum", p.maximum.map Json.ofDouble),
    ("minimum", p.minimum.map Json.ofDouble), ("uniqueItems", leftOutIf (!p.uniqueItems) (.bool true)),
    ("enum", leftOutIf (p.enumeration.map id).isEmpty (.arr (p.enumeration.map id))),
    ("type", leftOutIf p.type.isEmpty (.str p.type)),
    ("format", leftOutIf p.format.isEmpty (.str p.format)),
    ("collectionFormat", leftOutIf p.collectionFormat.isEmpty (.str p.collectionFormat)),
    ("default", p.defaultValue.map id)]

/-- The fields behind the extensions. -/
def trailingFields (p : Parameter) : List (String × Option Json) :=
  [("description", leftOutIf p.description.isEmpty (.str p.description)),
    ("name", leftOutIf p.name.isEmpty (.str p.name)),
    ("in", leftOutIf p.location.isEmpty (.str p.location)),
    ("required", leftOutIf (!p.required) (.bool true)), ("schema", p.schema.map Schema.toJson),
    ("allowEmptyValue", leftOutIf (!p.allowEmptyValue) (.bool true))]

/-- A parameter is written as a record with its extensions in the middle of the fields. -/
theorem toJson_eq (p : Parameter) :
    p.toJson = .obj (record p.leadingFields p.extensions p.trailingFields) := by
  have hfront : present p.leadingFields = optional "$ref" .str p.reference ++
      optional "maximum" Json.ofDouble p.maximum ++ optional "minimum" Json.ofDouble p.minimum ++
      flag "uniqueItems" p.uniqueItems ++ items "enum" p.enumeration ++
      Json.Members.text "type" p.type ++ Json.Members.text "format" p.format ++
      Json.Members.text "collectionFormat" p.collectionFormat ++ optional "default" id p.defaultValue := by
    simp only [optional_eq_present, flag_eq_present, items_eq_present, text_eq_present, ← present_append,
      leadingFields, List.map_id]
    rfl
  have hback : present p.trailingFields = Json.Members.text "description" p.description ++
      Json.Members.text "name" p.name ++ Json.Members.text "in" p.location ++
      flag "required" p.required ++ optional "schema" Schema.toJson p.schema ++
      flag "allowEmptyValue" p.allowEmptyValue := by
    simp only [optional_eq_present, flag_eq_present, text_eq_present, ← present_append]
    rfl
  rw [record, hfront, hback]
  simp only [toJson, List.append_assoc]

/-- **Parameters are read as they were written.** -/
theorem roundTrips : RoundTrips Sound toJson ofNode? := by
  refine .of_extensible (fun _ => rfl) toJson_eq (fun _ => rfl) (by decide) (fun _ h => h.extensions)
    ?_ ?_ ?_
  · -- every value is well formed
    intro p hp
    have hschema : WellFormedValue (p.schema.map Schema.toJson) :=
      wellFormedValue_optional fun s hs => Schema.roundTrips.wellFormed s (hp.schema s hs)
    simp only [leadingFields, trailingFields, List.cons_append, List.nil_append, List.forall_mem_cons,
      wellFormedValue_reference, wellFormedValue_text, wellFormedValue_flag,
      wellFormedValue_double hp.maximum, wellFormedValue_double hp.minimum,
      wellFormedValue_freeList hp.enumeration, wellFormedValue_free hp.defaultValue, hschema, true_and]
    exact fun e he => absurd he List.not_mem_nil
  · -- every field is read as it was written
    intro p hp f hf
    simp only [leadingFields, trailingFields, List.cons_append, List.nil_append,
      List.forall_mem_cons] at hf
    obtain ⟨hreference, hmaximum, hminimum, huniqueItems, henum, htype, hformat, hcollection, hdefault,
      hdescription, hname, hlocation, hrequired, hschema, hallowEmpty, -⟩ := hf
    simp only [Fields.reference_of_written hreference, Fields.double_of_written hmaximum,
      Fields.double_of_written hminimum, Fields.flag_of_written huniqueItems,
      Fields.freeList_of_written henum hp.enumeration, Fields.string_of_written htype,
      Fields.string_of_written hformat, Fields.string_of_written hcollection,
      Fields.free_of_written hdefault hp.defaultValue, Fields.string_of_written hdescription,
      Fields.string_of_written hname, Fields.string_of_written hlocation,
      Fields.flag_of_written hrequired,
      Schema.roundTrips.optional Schema.toJson_ne_null hschema hp.schema,
      Fields.flag_of_written hallowEmpty]
    rfl
  · -- what is read is sound
    intro f x hf hx p h
    obtain ⟨reference, -, h⟩ := Option.bind_eq_some_iff.1 h
    obtain ⟨maximum, hmaximum, h⟩ := Option.bind_eq_some_iff.1 h
    obtain ⟨minimum, hminimum, h⟩ := Option.bind_eq_some_iff.1 h
    obtain ⟨uniqueItems, -, h⟩ := Option.bind_eq_some_iff.1 h
    obtain ⟨enumeration, henum, h⟩ := Option.bind_eq_some_iff.1 h
    obtain ⟨type, -, h⟩ := Option.bind_eq_some_iff.1 h
    obtain ⟨format, -, h⟩ := Option.bind_eq_some_iff.1 h
    obtain ⟨collectionFormat, -, h⟩ := Option.bind_eq_some_iff.1 h
    obtain ⟨defaultValue, hdefault, h⟩ := Option.bind_eq_some_iff.1 h
    obtain ⟨description, -, h⟩ := Option.bind_eq_some_iff.1 h
    obtain ⟨name, -, h⟩ := Option.bind_eq_some_iff.1 h
    obtain ⟨location, -, h⟩ := Option.bind_eq_some_iff.1 h
    obtain ⟨required, -, h⟩ := Option.bind_eq_some_iff.1 h
    obtain ⟨schema, hschema, h⟩ := Option.bind_eq_some_iff.1 h
    obtain ⟨allowEmptyValue, -, h⟩ := Option.bind_eq_some_iff.1 h
    obtain rfl := Option.some.inj h
    exact {
      maximum := hf.optional Node.yields_double?.optional hmaximum
      minimum := hf.optional Node.yields_double?.optional hminimum
      enumeration := hf.list Node.yields_json? henum
      defaultValue := hf.optional Node.yields_optional?_json? hdefault
      schema := hf.optional (Node.Yields.optional Schema.roundTrips.sound) hschema
      extensions := hx }

end Parameter

/-- **Reading undoes writing for every type that a configuration holds.** No object that is written
repeats a key, what is written is read again as it was, and whatever is read from a tree can be written
and read once more without a change. -/
theorem Document.objects_roundTrip :
    RoundTrips Schema.Sound Schema.toJson Schema.ofNode? ∧
      RoundTrips Parameter.Sound Parameter.toJson Parameter.ofNode? ∧
      RoundTrips Response.Sound Response.toJson Response.ofNode? ∧
      RoundTrips Header.Sound Header.toJson Header.ofNode? ∧
      RoundTrips Info.Sound Info.toJson Info.ofNode? ∧
      RoundTrips SecurityScheme.Sound SecurityScheme.toJson SecurityScheme.ofNode? ∧
      RoundTrips (fun _ => True) Contact.toJson Contact.ofNode? ∧
      RoundTrips (fun _ => True) License.toJson License.ofNode? ∧
      RoundTrips (fun _ => True) ExternalDocs.toJson ExternalDocs.ofNode? ∧
      RoundTrips (fun _ => True) Tag.toJson Tag.ofNode? :=
  ⟨Schema.roundTrips, Parameter.roundTrips, Response.roundTrips, Header.roundTrips, Info.roundTrips,
    SecurityScheme.roundTrips, Contact.roundTrips, License.roundTrips, ExternalDocs.roundTrips,
    Tag.roundTrips⟩

end Swagger
