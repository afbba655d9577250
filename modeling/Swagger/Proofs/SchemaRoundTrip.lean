import Swagger.Proofs.RoundTrip

/-! # Reading undoes writing for schemas
A schema is written with the schemas inside it, and each of these stands less deep in the tree than the
schema itself. So the levels for which a reader is prepared suffice, and induction on them shows that
every schema is read as it was written. -/

namespace Swagger

open Json.Members

/-! ## Inner schemas -/

/-- The values of a keyword that takes one or many. -/
def OneOrMany.toList {α : Type} : OneOrMany α → List α
  | .one a => [a]
  | .many l => l

/-- The values of a keyword that takes a truth value instead of one. -/
def FlagOr.toList {α : Type} : FlagOr α → List α
  | .flag _ => []
  | .other a => [a]

/-- What the keywords of a schema that is read again satisfy. -/
structure Keywords.Sound (k : Keywords) : Prop where
  /-- The extensions stand under no keyword. -/
  extensions : k.extensions.Sound Schema.fieldNames
  /-- A default is free and not null. -/
  defaultValue : ∀ j ∈ k.defaultValue, j.Free ∧ j ≠ .null
  /-- A sample is free and not null. -/
  sample : ∀ j ∈ k.sample, j.Free ∧ j ≠ .null
  /-- The values allowed are free. -/
  enumeration : ∀ j ∈ k.enumeration, j.Free
  /-- The greatest number is finite. -/
  maximum : ∀ d ∈ k.maximum, d.isFinite = true
  /-- The least number is finite. -/
  minimum : ∀ d ∈ k.minimum, d.isFinite = true
  /-- The greatest length has sixty-four bits. -/
  maxLength : ∀ n ∈ k.maxLength, n < Nat.pow 2 64
  /-- The least length has sixty-four bits. -/
  minLength : ∀ n ∈ k.minLength, n < Nat.pow 2 64
  /-- The greatest number of items has sixty-four bits. -/
  maxItems : ∀ n ∈ k.maxItems, n < Nat.pow 2 64
  /-- The least number of items has sixty-four bits. -/
  minItems : ∀ n ∈ k.minItems, n < Nat.pow 2 64

namespace Schema

/-- The schemas that stand directly in a schema. -/
def inner (s : Schema) : List Schema :=
  s.items.elim [] OneOrMany.toList ++ s.allOf ++ s.properties.values ++ s.additional.elim [] FlagOr.toList

/-- What holds of the schemas in a schema holds of those at each of its four keywords. -/
theorem forall_mem_inner_iff (s : Schema) (P : Schema → Prop) :
    (∀ t ∈ s.inner, P t) ↔ (∀ i ∈ s.items, ∀ t ∈ i.toList, P t) ∧ (∀ t ∈ s.allOf, P t) ∧
      (∀ e ∈ s.properties.entries, P e.2) ∧ ∀ a ∈ s.additional, ∀ t ∈ a.toList, P t := by
  have hitems : (∀ t ∈ s.items.elim [] OneOrMany.toList, P t) ↔ ∀ i ∈ s.items, ∀ t ∈ i.toList, P t := by
    cases s.items <;> simp
  have hadditional : (∀ t ∈ s.additional.elim [] FlagOr.toList, P t) ↔
      ∀ a ∈ s.additional, ∀ t ∈ a.toList, P t := by
    cases s.additional <;> simp
  simp only [inner, List.forall_mem_append, hitems, hadditional, Dict.values, List.forall_mem_map, and_assoc]

/-- A schema that is read again as it was. -/
inductive Sound : Schema → Prop
  /-- Its keywords are sound, its properties in the order of their keys, and its inner schemas sound. -/
  | intro {s : Schema} (own : s.own.Sound) (sorted : s.properties.Sorted)
      (inner : ∀ t ∈ s.inner, Sound t) : Sound s

/-- The keywords with their values. -/
def fields (s : Schema) : List (String × Option Json) :=
  [("$ref", s.own.reference.map .str),
    ("description", leftOutIf s.own.description.isEmpty (.str s.own.description)),
    ("type", leftOutIf s.own.types.isEmpty (typesJson s.own.types)),
    ("format", leftOutIf s.own.format.isEmpty (.str s.own.format)),
    ("title", leftOutIf s.own.title.isEmpty (.str s.own.title)),
    ("default", s.own.defaultValue.map id),
    ("maximum", s.own.maximum.map Json.ofDouble),
    ("minimum", s.own.minimum.map Json.ofDouble),
    ("maxLength", s.own.maxLength.map Json.ofNat),
    ("minLength", s.own.minLength.map Json.ofNat),
    ("pattern", leftOutIf s.own.pattern.isEmpty (.str s.own.pattern)),
    ("maxItems", s.own.maxItems.map Json.ofNat),
    ("minItems", s.own.minItems.map Json.ofNat),
    ("uniqueItems", leftOutIf (!s.own.uniqueItems) (.bool true)),
    ("enum", leftOutIf (s.own.enumeration.map id).isEmpty (.arr (s.own.enumeration.map id))),
    ("required", leftOutIf (s.own.required.map Json.str).isEmpty (.arr (s.own.required.map .str))),
    ("items", s.items.map itemsJson),
    ("allOf", leftOutIf (s.allOf.map toJson).isEmpty (.arr (s.allOf.map toJson))),
    ("properties", leftOutIf (s.properties.map toJson).entries.isEmpty
      (.obj (s.properties.map toJson).entries)),
    ("additionalProperties", s.additional.map additionalJson),
    ("discriminator", leftOutIf s.own.discriminator.isEmpty (.str s.own.discriminator)),
    ("readOnly", leftOutIf (!s.own.readOnly) (.bool true)),
    ("externalDocs", s.own.externalDocs.map ExternalDocs.toJson),
    ("example", s.own.sample.map id)]

/-- The keywords have distinct names. -/
theorem nodup_fieldNames : fieldNames.Nodup := by decide

/-- A schema is written as a record of its keywords and extensions. -/
theorem toJson_eq (s : Schema) : s.toJson = .obj (record s.fields s.own.extensions []) := by
  obtain ⟨own, items, allOf, properties, additional⟩ := s
  have htypes : (if own.types.isEmpty then [] else [("type", typesJson own.types)])
      = present [("type", leftOutIf own.types.isEmpty (typesJson own.types))] :=
    (present_leftOutIf _ _ _).symm
  simp only [toJson, leading, trailing, htypes, text_eq_present, flag_eq_present, optional_eq_present,
    strings, items_eq_present, object_eq_present, itemsMember_eq, additionalMember_eq,
    toJsonList_eq_map, toJsonProperties_eq_map, ← List.append_assoc, ← present_append, record,
    present_nil, List.append_nil]
  simp only [fields, List.cons_append, List.nil_append, List.map_id, Dict.map]

/-- No schema is written as null. -/
theorem toJson_ne_null (s : Schema) : s.toJson ≠ .null := by
  rw [toJson_eq]
  exact Json.obj_ne_null _

/-! ## Values of keywords -/

section Values

variable {read : Node → Option Schema}

/-- The schemas of items are not written as null. -/
theorem itemsJson_ne_null (i : OneOrMany Schema) : itemsJson i ≠ .null := by
  cases i with
  | one t => exact toJson_ne_null t
  | many l => exact Json.arr_ne_null _

/-- Neither is the schema of additional properties. -/
theorem additionalJson_ne_null (a : FlagOr Schema) : additionalJson a ≠ .null := by
  cases a with
  | flag b => exact Json.bool_ne_null b
  | other t => exact toJson_ne_null t

/-- Types are read as they were written. -/
theorem types?_typesJson (ts : List String) : types? (.ofJson (typesJson ts)) = some ts := by
  have hlist : Node.list? Node.string? (.ofJson (.ofStrings ts)) = some ts :=
    Node.list?_ofJson fun _ _ => rfl
  match ts with
  | [] => rfl
  | [_] => rfl
  | t :: t' :: rest =>
    rw [typesJson, types?, Node.settled?_ofJson]
    · exact hlist
    · simp

/-- The schemas of items are read as they were written if each of them is. -/
theorem items?_itemsJson {i : OneOrMany Schema}
    (h : ∀ t ∈ i.toList, read (.ofJson t.toJson) = some t) :
    items? read (.ofJson (itemsJson i)) = some i := by
  cases i with
  | one t =>
    have hlist : Node.list? read (.ofJson t.toJson) = none := by
      rw [toJson_eq]
      rfl
    have ht := h t (List.mem_singleton_self t)
    simp [items?, itemsJson, Node.settled?_ofJson, hlist, ht]
  | many l =>
    have hl : Node.list? read (.ofJson (.arr (l.map toJson))) = some l := Node.list?_ofJson h
    simp [items?, itemsJson, Node.settled?_ofJson, toJsonList_eq_map, hl]

/-- So is the schema of additional properties, or the flag in its place. -/
theorem additional?_additionalJson {a : FlagOr Schema}
    (h : ∀ t ∈ a.toList, read (.ofJson t.toJson) = some t) :
    additional? read (.ofJson (additionalJson a)) = some a := by
  cases a with
  | flag b => rfl
  | other t =>
    have ht := h t (List.mem_singleton_self t)
    rw [additionalJson, additional?, Node.settled?_ofJson]
    rw [toJson_eq] at ht ⊢
    exact congrArg (Option.map FlagOr.other) ht

end Values

/-! ## Depth -/

/-- The value of a keyword is less deep than the schema. -/
theorem depth_lt_of_mem_fields {s : Schema} {k : String} {j : Json} (h : (k, some j) ∈ s.fields) :
    (Node.ofJson j).depth < (Node.ofJson s.toJson).depth := by
  rw [toJson_eq]
  refine Node.depth_lt_of_mem_members (e := (k, j)) ?_
  exact List.mem_append_left _ (List.mem_append_left _ ((mem_present_iff _ _ _).2 h))

/-- A schema of the items is no deeper than the value of the keyword. -/
theorem depth_le_of_mem_toList_items {i : OneOrMany Schema} {t : Schema} (h : t ∈ i.toList) :
    (Node.ofJson t.toJson).depth ≤ (Node.ofJson (itemsJson i)).depth := by
  cases i with
  | one u =>
    obtain rfl := List.mem_singleton.1 h
    exact Nat.le_refl _
  | many l =>
    refine Nat.le_of_lt (Node.depth_lt_of_mem_items ?_)
    rw [toJsonList_eq_map]
    exact List.mem_map_of_mem h

/-- Neither is the schema of additional properties. -/
theorem depth_le_of_mem_toList_additional {a : FlagOr Schema} {t : Schema} (h : t ∈ a.toList) :
    (Node.ofJson t.toJson).depth ≤ (Node.ofJson (additionalJson a)).depth := by
  cases a with
  | flag b => exact absurd h List.not_mem_nil
  | other u =>
    obtain rfl := List.mem_singleton.1 h
    exact Nat.le_refl _

/-- A schema inside another one stands less deep in the tree. -/
theorem depth_lt_of_mem_inner {s : Schema} : ∀ t ∈ s.inner,
    (Node.ofJson t.toJson).depth < (Node.ofJson s.toJson).depth := by
  refine (forall_mem_inner_iff s _).2 ⟨fun i hi t ht => ?_, fun t ht => ?_, fun e he => ?_,
    fun a ha t ht => ?_⟩
  · have hfield : ("items", some (itemsJson i)) ∈ s.fields := by simp [fields, Option.mem_def.1 hi]
    exact Nat.lt_of_le_of_lt (depth_le_of_mem_toList_items ht) (depth_lt_of_mem_fields hfield)
  · have hfield : ("allOf", some (.arr (s.allOf.map toJson))) ∈ s.fields := by
      simp [fields, leftOutIf, List.ne_nil_of_mem ht]
    exact Nat.lt_trans (Node.depth_lt_of_mem_items (List.mem_map_of_mem ht))
      (depth_lt_of_mem_fields hfield)
  · have hfield : ("properties", some (.obj (s.properties.map toJson).entries)) ∈ s.fields := by
      simp [fields, leftOutIf, Dict.map, List.ne_nil_of_mem he]
    have hmember : (e.1, e.2.toJson) ∈ (s.properties.map toJson).entries := List.mem_map.2 ⟨e, he, rfl⟩
    exact Nat.lt_trans (Node.depth_lt_of_mem_members hmember) (depth_lt_of_mem_fields hfield)
  · have hfield : ("additionalProperties", some (additionalJson a)) ∈ s.fields := by
      simp [fields, Option.mem_def.1 ha]
    exact Nat.lt_of_le_of_lt (depth_le_of_mem_toList_additional ht) (depth_lt_of_mem_fields hfield)

/-! ## Writing -/

/-- The schemas of items are well formed together if each of them is. -/
theorem wellFormed_itemsJson {i : OneOrMany Schema} (h : ∀ t ∈ i.toList, t.toJson.WellFormed) :
    (itemsJson i).WellFormed := by
  cases i with
  | one t => exact h t (List.mem_singleton_self t)
  | many l =>
    rw [itemsJson, toJsonList_eq_map]
    exact Json.wellFormed_arr (List.forall_mem_map.2 h)

/-- Additional properties are well formed if their schema is. -/
theorem wellFormed_additionalJson {a : FlagOr Schema} (h : ∀ t ∈ a.toList, t.toJson.WellFormed) :
    (additionalJson a).WellFormed := by
  cases a with
  | flag b => exact Json.wellFormed_bool b
  | other t => exact h t (List.mem_singleton_self t)

/-- Types are well formed. -/
theorem wellFormed_typesJson (ts : List String) : (typesJson ts).WellFormed := by
  match ts with
  | [t] => exact Json.wellFormed_str t
  | [] | _ :: _ :: _ =>
    exact Json.wellFormed_arr (List.forall_mem_map.2 fun t _ => Json.wellFormed_str t)

/-- What is written is well formed where what stands inside is. -/
theorem wellFormed_fields {s : Schema} (hown : s.own.Sound) (hsorted : s.properties.Sorted)
    (hinner : ∀ t ∈ s.inner, t.toJson.WellFormed) : ∀ e ∈ s.fields, WellFormedValue e.2 := by
  obtain ⟨hitems, hall, hproperties, hadditional⟩ := (forall_mem_inner_iff s _).1 hinner
  have hrequired := wellFormedValue_list fun t (_ : t ∈ s.own.required) => Json.wellFormed_str t
  have hdocs : WellFormedValue (s.own.externalDocs.map ExternalDocs.toJson) :=
    wellFormedValue_optional fun d _ => ExternalDocs.roundTrips.wellFormed d trivial
  have hprops := wellFormedValue_dict hsorted hproperties
  simp only [fields, List.forall_mem_cons, wellFormedValue_text, wellFormedValue_flag,
    wellFormedValue_reference, true_and,
    wellFormedValue_leftOutIf (wellFormed_typesJson s.own.types),
    wellFormedValue_free hown.defaultValue, wellFormedValue_free hown.sample,
    wellFormedValue_double hown.maximum, wellFormedValue_double hown.minimum,
    wellFormedValue_natural hown.maxLength, wellFormedValue_natural hown.minLength,
    wellFormedValue_natural hown.maxItems, wellFormedValue_natural hown.minItems,
    wellFormedValue_freeList hown.enumeration, hrequired, hdocs, hprops,
    wellFormedValue_list hall,
    wellFormedValue_optional fun i hi => wellFormed_itemsJson (hitems i hi),
    wellFormedValue_optional fun a ha => wellFormed_additionalJson (hadditional a ha)]
  exact fun e he => absurd he List.not_mem_nil

/-- A sound schema is written as a well-formed object. -/
theorem Sound.wellFormed {s : Schema} (hs : s.Sound) : s.toJson.WellFormed := by
  induction hs with
  | intro own sorted _ ih =>
    rw [toJson_eq]
    exact Json.wellFormed_record nodup_fieldNames rfl own.extensions
      (by rw [List.append_nil]; exact wellFormed_fields own sorted ih)

/-! ## Reading what was written -/

section Reading

variable {s : Schema} {f : Fields}

/-- Sound keywords are read from the fields as which they were written. -/
theorem keywords?_of_written (hs : s.own.Sound)
    (hf : ∀ e ∈ s.fields, f.get? e.1 = e.2.map .ofJson) :
    keywords? f s.own.extensions = some s.own := by
  simp only [fields, List.forall_mem_cons] at hf
  obtain ⟨hreference, hdescription, htypes, hformat, htitle, hdefault, hmaximum, hminimum, hmaxLength,
    hminLength, hpattern, hmaxItems, hminItems, huniqueItems, henum, hrequired, -, -, -, -,
    hdiscriminator, hreadOnly, hdocs, hsample, -⟩ := hf
  have hnames : f.read "type" types? [] = some s.own.types :=
    Fields.read_of_leftOut htypes List.isEmpty_iff.1 fun _ => types?_typesJson _
  have hstrings : f.strings "required" = some s.own.required :=
    Fields.list_of_written hrequired fun _ _ => rfl
  simp only [keywords?, Fields.reference_of_written hreference, hnames, hstrings, Fields.string_of_written hdescription,
    Fields.string_of_written hformat, Fields.string_of_written htitle,
    Fields.free_of_written hdefault hs.defaultValue, Fields.double_of_written hmaximum,
    Fields.double_of_written hminimum, Fields.natural_of_written hmaxLength hs.maxLength,
    Fields.natural_of_written hminLength hs.minLength, Fields.string_of_written hpattern,
    Fields.natural_of_written hmaxItems hs.maxItems, Fields.natural_of_written hminItems hs.minItems,
    Fields.flag_of_written huniqueItems, Fields.freeList_of_written henum hs.enumeration,
    Fields.string_of_written hdiscriminator, Fields.flag_of_written hreadOnly,
    ExternalDocs.roundTrips.optional (fun _ h => by cases h) hdocs fun _ _ => trivial,
    Fields.free_of_written hsample hs.sample]
  rfl

/-- The schemas inside are read as they were written where each of them is. -/
theorem inner_of_written {read : Node → Option Schema} (hsorted : s.properties.Sorted)
    (hinner : ∀ t ∈ s.inner, read (.ofJson t.toJson) = some t)
    (hf : ∀ e ∈ s.fields, f.get? e.1 = e.2.map .ofJson) :
    f.optional "items" (items? read) = some s.items ∧ f.list "allOf" read = some s.allOf ∧
      f.dict "properties" read = some s.properties ∧
      f.optional "additionalProperties" (additional? read) = some s.additional := by
  obtain ⟨hitems, hall, hproperties, hadditional⟩ := (forall_mem_inner_iff s _).1 hinner
  simp only [fields, List.forall_mem_cons] at hf
  obtain ⟨-, -, -, -, -, -, -, -, -, -, -, -, -, -, -, -, hgetItems, hgetAll, hgetProperties,
    hgetAdditional, -⟩ := hf
  exact ⟨Fields.optional_of_written hgetItems fun i hi =>
      ⟨itemsJson_ne_null i, items?_itemsJson (hitems i hi)⟩,
    Fields.list_of_written hgetAll hall, Fields.dict_of_written hgetProperties hsorted hproperties,
    Fields.optional_of_written hgetAdditional fun a ha =>
      ⟨additionalJson_ne_null a, additional?_additionalJson (hadditional a ha)⟩⟩

/-- The members of a schema are divided into its fields and its extensions again. -/
theorem extensible?_toJson (hs : s.own.Sound) :
    Node.extensible? fieldNames (.ofJson s.toJson)
      = some (.ofMembers (present s.fields), s.own.extensions) := by
  have h : Node.extensible? fieldNames (.ofJson (.obj (record s.fields s.own.extensions [])))
      = some (.ofMembers (present (s.fields ++ [])), s.own.extensions) :=
    Node.extensible?_record nodup_fieldNames rfl hs.extensions
  rw [toJson_eq, h, List.append_nil]

end Reading

/-- **A sound schema is read as it was written**, by a reader that is prepared for more levels than the
tree has. -/
theorem Sound.ofNodeWithin?_toJson {s : Schema} (hs : s.Sound) : ∀ levels,
    (Node.ofJson s.toJson).depth < levels → ofNodeWithin? levels (.ofJson s.toJson) = some s := by
  induction hs with
  | @intro s own sorted _ ih =>
    intro levels hlevels
    obtain ⟨n, rfl⟩ := Nat.exists_eq_add_one_of_ne_zero (Nat.ne_zero_of_lt hlevels)
    -- the inner schemas are read with one level less, and stand at least one level deeper
    have hinner : ∀ t ∈ s.inner, ofNodeWithin? n (.ofJson t.toJson) = some t := fun t ht =>
      ih t ht n (Nat.lt_of_lt_of_le (depth_lt_of_mem_inner t ht) (Nat.le_of_lt_succ hlevels))
    have hnodup : (s.fields.map Prod.fst).Nodup := nodup_fieldNames
    have hf : ∀ e ∈ s.fields, (Fields.ofMembers (present s.fields)).get? e.1 = e.2.map .ofJson :=
      fun e he => Fields.get?_ofMembers_present hnodup he
    obtain ⟨hitems, hall, hproperties, hadditional⟩ := inner_of_written sorted hinner hf
    rw [ofNodeWithin?, extensible?_toJson own]
    simp only [Option.bind_eq_bind, Option.bind_some, keywords?_of_written own hf, hitems, hall,
      hproperties, hadditional]
    obtain ⟨_, _, _, _, _⟩ := s
    rfl

/-! ## Soundness of what is read -/

/-- The keywords of a schema that are no texts or flags, as they are read from its fields. -/
structure ReadFrom (f : Fields) (x : Extensions) (k : Keywords) : Prop where
  /-- A default is a free value. -/
  defaultValue : f.optional "default" Node.json? = some k.defaultValue
  /-- A sample is a free value. -/
  sample : f.optional "example" Node.json? = some k.sample
  /-- The values allowed are free values. -/
  enumeration : f.list "enum" Node.json? = some k.enumeration
  /-- The greatest number is a double. -/
  maximum : f.optional "maximum" Node.double? = some k.maximum
  /-- The least number is a double. -/
  minimum : f.optional "minimum" Node.double? = some k.minimum
  /-- The greatest length is a natural number. -/
  maxLength : f.optional "maxLength" Node.natural? = some k.maxLength
  /-- The least length is a natural number. -/
  minLength : f.optional "minLength" Node.natural? = some k.minLength
  /-- The greatest number of items is a natural number. -/
  maxItems : f.optional "maxItems" Node.natural? = some k.maxItems
  /-- The least number of items is a natural number. -/
  minItems : f.optional "minItems" Node.natural? = some k.minItems
  /-- The extensions are what is no field. -/
  extensions_eq : k.extensions = x

/-- Keywords that are read come from the fields. -/
theorem readFrom_of_keywords? {f : Fields} {x : Extensions} {k : Keywords}
    (h : keywords? f x = some k) : ReadFrom f x k := by
  obtain ⟨reference, -, h⟩ := Option.bind_eq_some_iff.1 h
  obtain ⟨description, -, h⟩ := Option.bind_eq_some_iff.1 h
  obtain ⟨types, -, h⟩ := Option.bind_eq_some_iff.1 h
  obtain ⟨format, -, h⟩ := Option.bind_eq_some_iff.1 h
  obtain ⟨title, -, h⟩ := Option.bind_eq_some_iff.1 h
  obtain ⟨defaultValue, hdefault, h⟩ := Option.bind_eq_some_iff.1 h
  obtain ⟨maximum, hmaximum, h⟩ := Option.bind_eq_some_iff.1 h
  obtain ⟨minimum, hminimum, h⟩ := Option.bind_eq_some_iff.1 h
  obtain ⟨maxLength, hmaxLength, h⟩ := Option.bind_eq_some_iff.1 h
  obtain ⟨minLength, hminLength, h⟩ := Option.bind_eq_some_iff.1 h
  obtain ⟨pattern, -, h⟩ := Option.bind_eq_some_iff.1 h
  obtain ⟨maxItems, hmaxItems, h⟩ := Option.bind_eq_some_iff.1 h
  obtain ⟨minItems, hminItems, h⟩ := Option.bind_eq_some_iff.1 h
  obtain ⟨uniqueItems, -, h⟩ := Option.bind_eq_some_iff.1 h
  obtain ⟨enumeration, henum, h⟩ := Option.bind_eq_some_iff.1 h
  obtain ⟨required, -, h⟩ := Option.bind_eq_some_iff.1 h
  obtain ⟨discriminator, -, h⟩ := Option.bind_eq_some_iff.1 h
  obtain ⟨readOnly, -, h⟩ := Option.bind_eq_some_iff.1 h
  obtain ⟨externalDocs, -, h⟩ := Option.bind_eq_some_iff.1 h
  obtain ⟨sample, hsample, h⟩ := Option.bind_eq_some_iff.1 h
  obtain rfl := Option.some.inj h
  exact ⟨hdefault, hsample, henum, hmaximum, hminimum, hmaxLength, hminLength, hmaxItems, hminItems, rfl⟩

/-- Keywords that are read from a tree are sound. -/
theorem sound_of_keywords? {f : Fields} {x : Extensions} {k : Keywords} (hf : f.OfTree)
    (hx : x.Sound fieldNames) (h : keywords? f x = some k) : k.Sound := by
  have hread := readFrom_of_keywords? h
  exact {
    extensions := hread.extensions_eq ▸ hx
    defaultValue := hf.optional Node.yields_optional?_json? hread.defaultValue
    sample := hf.optional Node.yields_optional?_json? hread.sample
    enumeration := hf.list Node.yields_json? hread.enumeration
    maximum := hf.optional Node.yields_double?.optional hread.maximum
    minimum := hf.optional Node.yields_double?.optional hread.minimum
    maxLength := hf.optional Node.yields_natural?.optional hread.maxLength
    minLength := hf.optional Node.yields_natural?.optional hread.minLength
    maxItems := hf.optional Node.yields_natural?.optional hread.maxItems
    minItems := hf.optional Node.yields_natural?.optional hread.minItems }

/-- What reading yields for a schema, it yields for every schema of the items. -/
theorem yields_items? {read : Node → Option Schema} {P : Schema → Prop} (h : Node.Yields read P) :
    Node.Yields (items? read) fun i => ∀ t ∈ i.toList, P t := by
  intro j hj i hi
  rw [items?, Node.settled?_ofJson, Option.bind_eq_bind, Option.bind_some] at hi
  cases hl : Node.list? read (.ofJson j) with
  | some l =>
    rw [hl] at hi
    obtain rfl := Option.some.inj hi
    exact h.list j hj l hl
  | none =>
    rw [hl] at hi
    obtain ⟨t, ht, rfl⟩ := Option.map_eq_some_iff.1 hi
    exact List.forall_mem_singleton.2 (h j hj t ht)

/-- What reading yields for a schema, it yields for that of additional properties. -/
theorem yields_additional? {read : Node → Option Schema} {P : Schema → Prop}
    (h : Node.Yields read P) : Node.Yields (additional? read) fun a => ∀ t ∈ a.toList, P t := by
  intro j hj a ha
  rw [additional?, Node.settled?_ofJson, Option.bind_eq_bind, Option.bind_some] at ha
  cases j with
  | bool b =>
    obtain rfl := Option.some.inj ha
    exact fun t ht => absurd ht List.not_mem_nil
  | _ =>
    obtain ⟨t, ht, rfl⟩ := Option.map_eq_some_iff.1 ha
    exact List.forall_mem_singleton.2 (h _ hj t ht)

/-- Every schema that is read is sound, by induction on the levels that the reader is prepared for. -/
theorem yields_ofNodeWithin? (levels : Nat) : Node.Yields (ofNodeWithin? levels) Sound := by
  induction levels with
  | zero =>
    intro j _ s h
    cases h
  | succ n ih =>
    intro j hj s h
    obtain ⟨⟨f, x⟩, hopen, h⟩ := Option.bind_eq_some_iff.1 h
    obtain ⟨hf, hx⟩ := Node.sound_of_extensible? hj hopen
    obtain ⟨own, hown, h⟩ := Option.bind_eq_some_iff.1 h
    obtain ⟨items, hitems, h⟩ := Option.bind_eq_some_iff.1 h
    obtain ⟨allOf, hall, h⟩ := Option.bind_eq_some_iff.1 h
    obtain ⟨properties, hproperties, h⟩ := Option.bind_eq_some_iff.1 h
    obtain ⟨additional, hadditional, h⟩ := Option.bind_eq_some_iff.1 h
    obtain rfl := Option.some.inj h
    obtain ⟨hsorted, hproperties⟩ := hf.dict ih hproperties
    have hinner := (forall_mem_inner_iff ⟨own, items, allOf, properties, additional⟩ Sound).2
      ⟨hf.optional (yields_items? ih).optional hitems, hf.list ih hall, hproperties,
        hf.optional (yields_additional? ih).optional hadditional⟩
    exact .intro (sound_of_keywords? hf hx hown) hsorted hinner

/-- **A schema is read again as it was written.** -/
theorem roundTrips : RoundTrips Sound toJson ofNode? := by
  refine .of_reads (fun s hs => hs.wellFormed) (fun s hs => ?_) fun t ht s h => ?_
  · exact hs.ofNodeWithin?_toJson _ (Nat.lt_succ_self _)
  · exact yields_ofNodeWithin? _ t ht s h

/-- An extension under a keyword's own name is written as a second member with that key, which no reader
accepts. -/
example : ofJson? (toJson { own := { title := "Part", extensions := ⟨[("title", .null)]⟩ } }) = none := by
  decide +kernel

end Schema

end Swagger
