import Swagger.Proofs.DistinctKeys
import Swagger.Proofs.References

/-! # Schemas on their way into a document
Between being read and being written a schema is changed: markers are recorded on it, its references are
resolved, and extensions are added when it is named. The first two keep it tidy. The third does not look
at what the schema says, so that an extension may come to stand under a keyword.

* `Schema.writtenKeywords` — the keywords that a schema writes.
* `Schema.Clashes` — an added extension has the name of a keyword that is written.
* `Schema.Tidy.resolve`, `DefinitionEntry.tidy_of_marked` — what keeps a schema tidy.
* `Schema.Tidy.keysDistinct_published_iff` — a published schema repeats a key exactly where extensions
  clash with it. -/

namespace Swagger

open Json.Members
open Node (Gives)

/-! ## Extensions -/

/-- Extensions stay apart from the fields if one more is added under another name. -/
theorem Extensions.Apart.insert {names : List String} {x : Extensions} (h : x.Apart names)
    {k : String} (hk : k ∉ names) {j : Json} (hj : j.KeysDistinct) :
    Extensions.Apart names (x.insert k j) := by
  have hentries : ∀ e ∈ (x.insert k j).entries, e = (k, j) ∨ e ∈ x.entries :=
    fun e he => Dict.mem_insertEntry he
  refine ⟨h.sorted.insert k j, fun e he => ?_, fun e he => ?_⟩
  · obtain rfl | he := hentries e he
    · exact hk
    · exact h.apart e he
  · obtain rfl | he := hentries e he
    · exact hj
    · exact h.distinct e he

/-- The extensions that naming adds: in the order of their keys, and without a repeated key inside. Any
keys may be among them. -/
structure Extensions.Plain (added : Extensions) : Prop where
  /-- The keys are in order. -/
  sorted : added.Sorted
  /-- The values repeat no key. -/
  distinct : ∀ e ∈ added.entries, e.2.KeysDistinct

/-- Extensions that stay apart from the fields are plain. -/
theorem Extensions.Apart.plain {names : List String} {x : Extensions} (h : x.Apart names) : x.Plain :=
  ⟨h.sorted, h.distinct⟩

/-- Plain extensions together are plain. -/
theorem Extensions.Plain.union {x added : Extensions} (hx : x.Plain) (h : added.Plain) :
    Extensions.Plain (x.union added) := by
  have hsorted : (x.union added).Sorted := hx.sorted.union added
  refine ⟨hsorted, fun e he => ?_⟩
  obtain hadded | hown := Dict.mem_or_find?_of_find?_insertAll ((Dict.mem_entries_iff hsorted e.1 e.2).1 he)
  · exact h.distinct e hadded
  · exact hx.distinct e (Dict.mem_entries_of_find? hown)

/-- Plain extensions are plain without one of them. -/
theorem Extensions.Plain.erase {x : Extensions} (h : x.Plain) (k : String) :
    Extensions.Plain (x.erase k) :=
  ⟨h.sorted.sublist List.filter_sublist, fun e he => h.distinct e (List.mem_of_mem_filter he)⟩

/-! ## The keywords that are written -/

namespace Json.Members

/-- Which members are written shows in which fields have a value. -/
theorem keys_present_eq (table : List (String × Option Json)) : (present table).map Prod.fst
    = (table.map fun e => (e.1, e.2.isSome)).filterMap fun e => if e.2 then some e.1 else none := by
  induction table with
  | nil => rfl
  | cons e rest ih =>
    obtain ⟨k, _ | j⟩ := e
    · exact ih
    · exact congrArg (List.cons k) ih

/-- A field has a value unless it is left out. -/
@[simp] theorem isSome_leftOutIf (silent : Bool) (j : Json) : (leftOutIf silent j).isSome = !silent := by
  cases silent <;> rfl

end Json.Members

namespace Schema

/-- The keywords that a schema writes, its extensions left aside. -/
def writtenKeywords (s : Schema) : List String := (present s.fields).map Prod.fst

/-- The keywords that are written are keywords. -/
theorem writtenKeywords_subset (s : Schema) : s.writtenKeywords ⊆ fieldNames :=
  (keys_present_sublist s.fields).subset

/-- Other extensions do not make a tidy schema repeat a key unless one of them stands under a keyword
that it writes. -/
theorem Tidy.keysDistinct_withExtensions_iff {s : Schema} (hs : s.Tidy) {x : Extensions}
    (hx : x.Plain) :
    (s.withExtensions x).toJson.KeysDistinct ↔ ∀ k ∈ x.keys, k ∉ s.writtenKeywords := by
  have hfields : (s.withExtensions x).fields ++ [] = s.fields := List.append_nil _
  have hnames : (((s.withExtensions x).fields ++ []).map Prod.fst).Nodup := nodup_fieldNames
  have hvalues := distinctValue_fields hs.own hs.sorted fun t ht => (hs.inner t ht).keysDistinct
  rw [toJson_eq, Json.keysDistinct_record_iff hnames, hfields]
  exact ⟨fun h => h.1.2.1, fun h => ⟨⟨hx.sorted.nodup_keys, h, hx.distinct⟩, hvalues⟩⟩

/-! ## Resolving -/

section Resolve

variable (pointer : String → String)

/-- A schema in a resolved list is one of the list, resolved. -/
theorem exists_of_mem_resolveList {t : Schema} (l : List Schema) (names : List String)
    (ht : t ∈ (resolveList pointer l names).1) :
    ∃ u ∈ l, ∃ names', (resolve pointer u names').1 = t := by
  induction l generalizing names with
  | nil => exact absurd ht List.not_mem_nil
  | cons u rest ih =>
    rw [resolveList] at ht
    obtain rfl | ht := List.mem_cons.1 ht
    · exact ⟨u, List.mem_cons_self, names, rfl⟩
    · obtain ⟨v, hv, hresolved⟩ := ih _ ht
      exact ⟨v, List.mem_cons_of_mem u hv, hresolved⟩

/-- The schema of a resolved property is that of a property, resolved. -/
theorem exists_of_mem_resolveProperties {e : String × Schema} (l : List (String × Schema))
    (names : List String) (he : e ∈ (resolveProperties pointer l names).1) :
    ∃ p ∈ l, ∃ names', (resolve pointer p.2 names').1 = e.2 := by
  induction l generalizing names with
  | nil => exact absurd he List.not_mem_nil
  | cons p rest ih =>
    obtain ⟨k, u⟩ := p
    rw [resolveProperties] at he
    obtain rfl | he := List.mem_cons.1 he
    · exact ⟨(k, u), List.mem_cons_self, names, rfl⟩
    · obtain ⟨q, hq, hresolved⟩ := ih _ he
      exact ⟨q, List.mem_cons_of_mem (k, u) hq, hresolved⟩

/-- Resolving keeps the names of the properties in their order. -/
theorem map_fst_resolveProperties (l : List (String × Schema)) (names : List String) :
    (resolveProperties pointer l names).1.map Prod.fst = l.map Prod.fst := by
  induction l generalizing names with
  | nil => rfl
  | cons p rest ih =>
    obtain ⟨k, u⟩ := p
    rw [resolveProperties, List.map_cons, ih, List.map_cons]

/-- What stands in a resolved schema is what stood there, resolved. -/
theorem exists_of_mem_inner_resolve {s t : Schema} {names : List String}
    (ht : t ∈ (resolve pointer s names).1.inner) :
    ∃ u ∈ s.inner, ∃ names', (resolve pointer u names').1 = t := by
  obtain ⟨own, items, allOf, ⟨properties⟩, additional⟩ := s
  obtain ⟨hitems, hall, hproperties, hadditional⟩ :=
    (forall_mem_inner_iff ⟨own, items, allOf, ⟨properties⟩, additional⟩ (· ∈ inner _)).1 fun _ h => h
  refine (forall_mem_inner_iff (resolve pointer _ names).1
    fun t => ∃ u ∈ inner _, ∃ names', (resolve pointer u names').1 = t).2 ⟨?_, ?_, ?_, ?_⟩ t ht
  · intro i hi t ht
    rcases items with _ | ⟨u | l⟩
    · cases hi
    · obtain rfl := Option.some.inj hi
      obtain rfl := List.mem_singleton.1 ht
      exact ⟨u, hitems _ rfl u (List.mem_singleton_self u), _, rfl⟩
    · obtain rfl := Option.some.inj hi
      obtain ⟨u, hu, hresolved⟩ := exists_of_mem_resolveList pointer l _ ht
      exact ⟨u, hitems _ rfl u hu, hresolved⟩
  · intro t ht
    obtain ⟨u, hu, hresolved⟩ := exists_of_mem_resolveList pointer allOf _ ht
    exact ⟨u, hall u hu, hresolved⟩
  · intro e he
    obtain ⟨p, hp, hresolved⟩ := exists_of_mem_resolveProperties pointer properties _ he
    exact ⟨p.2, hproperties p hp, hresolved⟩
  · intro a ha t ht
    rcases additional with _ | ⟨b | u⟩
    · cases ha
    · obtain rfl := Option.some.inj ha
      exact absurd ht List.not_mem_nil
    · obtain rfl := Option.some.inj ha
      obtain rfl := List.mem_singleton.1 ht
      exact ⟨u, hadditional _ rfl u (List.mem_singleton_self u), _, rfl⟩

/-- Resolving only changes what a reference says. -/
theorem own_resolve (s : Schema) (names : List String) :
    (resolve pointer s names).1.own
      = { s.own with reference := (Reference.resolveOptional pointer s.own.reference names).1 } := by
  cases s
  rw [resolve]

/-- A resolved schema has the properties that it had. -/
theorem keys_properties_resolve (s : Schema) (names : List String) :
    (resolve pointer s names).1.properties.keys = s.properties.keys := by
  cases s
  rw [resolve]
  exact map_fst_resolveProperties pointer _ _

/-- A resolved schema is tidy if the written one is. -/
theorem Tidy.resolve {s : Schema} (hs : s.Tidy) (names : List String) :
    (Schema.resolve pointer s names).1.Tidy := by
  induction hs generalizing names with
  | @intro s own sorted _ ih =>
    constructor
    case own =>
      rw [own_resolve]
      exact { own with }
    case sorted =>
      rw [Dict.sorted_iff_pairwise_keys, keys_properties_resolve]
      exact (Dict.sorted_iff_pairwise_keys _).1 sorted
    case inner =>
      intro t ht
      obtain ⟨u, hu, names', rfl⟩ := exists_of_mem_inner_resolve pointer ht
      exact ih u hu names'

/-- A resolved schema is a reference if it was one. -/
theorem isSome_resolveOptional (reference : Option String) (names : List String) :
    (Reference.resolveOptional pointer reference names).1.isSome = reference.isSome := by
  cases reference <;> rfl

/-- It has items if it had some. -/
theorem isSome_resolveItems (items : Option (OneOrMany Schema)) (names : List String) :
    (resolveItems pointer items names).1.isSome = items.isSome := by
  rcases items with _ | ⟨u | l⟩ <;> rfl

/-- It has additional properties if it had some. -/
theorem isSome_resolveAdditional (additional : Option (FlagOr Schema)) (names : List String) :
    (resolveAdditional pointer additional names).1.isSome = additional.isSome := by
  rcases additional with _ | ⟨b | u⟩ <;> rfl

/-- No schema of a list is lost or made by resolving it. -/
theorem isEmpty_resolveList (l : List Schema) (names : List String) :
    (resolveList pointer l names).1.isEmpty = l.isEmpty := by
  cases l <;> rfl

/-- No property is lost or made by resolving its schema. -/
theorem isEmpty_resolveProperties (l : List (String × Schema)) (names : List String) :
    (resolveProperties pointer l names).1.isEmpty = l.isEmpty := by
  rcases l with _ | ⟨⟨k, u⟩, rest⟩ <;> rfl

/-- A resolved schema writes the keywords of the written one. -/
@[simp] theorem writtenKeywords_resolve (s : Schema) (names : List String) :
    (Schema.resolve pointer s names).1.writtenKeywords = s.writtenKeywords := by
  obtain ⟨own, items, allOf, ⟨properties⟩, additional⟩ := s
  rw [writtenKeywords, writtenKeywords, keys_present_eq, keys_present_eq]
  refine congrArg (List.filterMap _) ?_
  simp only [Schema.resolve, fields, List.map_cons, List.map_nil, Option.isSome_map, isSome_leftOutIf,
    Dict.map, List.isEmpty_map, isSome_resolveOptional, isSome_resolveItems, isSome_resolveAdditional,
    isEmpty_resolveList, isEmpty_resolveProperties]

end Resolve

/-! ## Publishing -/

/-- Added extensions clash with a schema: it is published itself, and one of them has the name of a
keyword that it writes. -/
structure Clashes (s : Schema) (added : Extensions) : Prop where
  /-- Nothing reads as a schema to be published instead. -/
  unreplaced : ∀ value, (s.extensions.union added).find? replacementKey = some value →
    ofJson? value = none
  /-- An added extension stands under a keyword. -/
  exists_key : ∃ k ∈ added.keys, k ∈ s.writtenKeywords

/-- Resolving a schema makes no difference to the extensions that clash with it. -/
theorem clashes_resolve_iff (pointer : String → String) (s : Schema) (names : List String)
    (added : Extensions) : (s.resolve pointer names).1.Clashes added ↔ s.Clashes added := by
  constructor
  · intro h
    refine ⟨?_, ?_⟩
    · simpa only [extensions_resolve] using h.unreplaced
    · simpa only [writtenKeywords_resolve] using h.exists_key
  · intro h
    refine ⟨?_, ?_⟩
    · simpa only [extensions_resolve] using h.unreplaced
    · simpa only [writtenKeywords_resolve] using h.exists_key

/-- Of the extensions that are published only the added ones can stand under a written keyword. -/
theorem Tidy.forall_mem_keys_erase_iff {s : Schema} (hs : s.Tidy) (added : Extensions) :
    (∀ k ∈ ((s.extensions.union added).erase replacementKey).keys, k ∉ s.writtenKeywords) ↔
      ¬∃ k ∈ added.keys, k ∈ s.writtenKeywords := by
  have hown : ∀ k ∈ s.extensions.keys, k ∉ s.writtenKeywords := by
    intro k hk hwritten
    obtain ⟨e, he, rfl⟩ := List.mem_map.1 hk
    exact hs.own.extensions.apart e he (s.writtenKeywords_subset hwritten)
  -- the key that is removed is no keyword
  have hremoved : replacementKey ∉ s.writtenKeywords := fun h =>
    absurd (s.writtenKeywords_subset h) (by decide)
  simp only [Dict.mem_keys_erase, Dict.mem_keys_union]
  constructor
  · rintro h ⟨k, hk, hwritten⟩
    exact h k ⟨Or.inr hk, fun heq => hremoved (heq ▸ hwritten)⟩ hwritten
  · rintro h k ⟨hk | hk, -⟩ hwritten
    · exact hown k hk hwritten
    · exact h ⟨k, hk, hwritten⟩

/-- **When a published schema repeats a key**: exactly where the added extensions clash with it. -/
theorem Tidy.keysDistinct_published_iff {s : Schema} (hs : s.Tidy) {added : Extensions}
    (hadded : added.Plain) : (s.published added).toJson.KeysDistinct ↔ ¬s.Clashes added := by
  by_cases h : ∀ value, (s.extensions.union added).find? replacementKey = some value →
      ofJson? value = none
  · have hplain : Extensions.Plain ((s.extensions.union added).erase replacementKey) :=
      (hs.own.extensions.plain.union hadded).erase replacementKey
    rw [published_of_unreplaced h, hs.keysDistinct_withExtensions_iff hplain,
      hs.forall_mem_keys_erase_iff]
    exact not_congr ⟨fun hkey => ⟨h, hkey⟩, fun hclash => hclash.exists_key⟩
  · refine iff_of_true ?_ fun hclash => h hclash.unreplaced
    push Not at h
    obtain ⟨value, hvalue, hread⟩ := h
    obtain ⟨t, ht⟩ := Option.ne_none_iff_exists'.1 hread
    -- what is published instead was read
    have htidy : t.Tidy := gives_ofNode? _ t ht
    rw [published_of_replaced hvalue ht]
    exact htidy.keysDistinct

end Schema

/-! ## Markers -/

namespace Marker

/-- Markers are recorded under keys that are no keywords. -/
theorem apart_record {x : Extensions} (h : x.Apart Schema.fieldNames) (m : Marker) :
    (record x m).Apart Schema.fieldNames := by
  cases m with
  | listMapKey field => exact h
  | _ => exact h.insert (by decide) (Json.keysDistinct_str _)

/-- Markers are recorded in extensions that stay apart from the keywords. -/
theorem apart_foldl_record (ms : List Marker) {x : Extensions} (h : x.Apart Schema.fieldNames) :
    (ms.foldl record x).Apart Schema.fieldNames := by
  induction ms generalizing x with
  | nil => exact h
  | cons m rest ih => exact ih (apart_record h m)

/-- So they are where some markers are refused. -/
theorem apart_applyTo {x : Extensions} (h : x.Apart Schema.fieldNames) (ms : List Marker) :
    (applyTo x ms).1.Apart Schema.fieldNames := by
  have hrecorded := apart_foldl_record ms h
  have hkeys : (Json.ofStrings (mapKeys ms)).KeysDistinct := by
    rw [Json.ofStrings, Json.keysDistinct_arr_iff]
    exact List.forall_mem_map.2 fun k _ => Json.keysDistinct_str k
  simp only [applyTo]
  split_ifs
  · exact hrecorded
  · have hkey : listMapKeysKey ∉ Schema.fieldNames := by decide
    exact hrecorded.insert hkey hkeys
  · exact hrecorded

/-- A tidy schema is tidy with its markers. -/
theorem tidy_apply {s : Schema} (hs : s.Tidy) (ms : List Marker) : (apply s ms).1.Tidy :=
  .intro { hs.own with extensions := apart_applyTo hs.own.extensions ms } hs.sorted hs.inner

/-- So it is with the markers on lines of a comment. -/
theorem tidy_applyLines {s : Schema} (hs : s.Tidy) (lines : List String) :
    (applyLines s lines).1.Tidy := by
  unfold applyLines
  cases ofLines lines with
  | ok ms => exact tidy_apply hs ms
  | error e => exact hs

end Marker

namespace DefinitionEntry

variable {e : DefinitionEntry}

/-- Marking a property keeps a tidy schema tidy. -/
theorem tidy_of_markProperty {s t : Schema} (hs : s.Tidy) {p : String × List String}
    (h : markProperty s p = .ok t) : t.Tidy := by
  obtain ⟨ms, -, h⟩ := Run.bind_eq_ok.1 h
  cases hp : s.properties.find? p.1 with
  | none =>
    rw [hp] at h
    obtain rfl := Run.pure_eq_ok.1 h
    exact hs
  | some u =>
    rw [hp] at h
    obtain ⟨_, -, h⟩ := Run.bind_eq_ok.1 h
    obtain rfl := Run.pure_eq_ok.1 h
    obtain ⟨hitems, hall, hproperties, hadditional⟩ := (Schema.forall_mem_inner_iff s _).1 hs.inner
    have hu : u.Tidy := hproperties _ (Dict.mem_entries_of_find? hp)
    refine .intro hs.own (hs.sorted.adjust _ _)
      ((Schema.forall_mem_inner_iff _ _).2 ⟨hitems, hall, ?_, hadditional⟩)
    -- the property is the only one that has changed
    refine List.forall_mem_map.2 fun q hq => ?_
    split
    · exact Marker.tidy_apply hu ms
    · exact hproperties q hq

/-- So does marking several. -/
theorem tidy_of_foldlM_markProperty {ps : List (String × List String)} {s t : Schema} (hs : s.Tidy)
    (h : ps.foldlM markProperty s = .ok t) : t.Tidy := by
  induction ps generalizing s with
  | nil =>
    obtain rfl := Run.pure_eq_ok.1 h
    exact hs
  | cons p rest ih =>
    rw [List.foldlM_cons, Run.bind_eq_ok] at h
    obtain ⟨u, hu, h⟩ := h
    exact ih (tidy_of_markProperty hs hu) h

/-- Recording its markers keeps the schema of an entry tidy. -/
theorem tidy_of_marked (he : e.definition.schema.Tidy) {file : WrittenDefinition}
    (h : e.marked = .ok file) : file.schema.Tidy := by
  obtain ⟨s, hs, h⟩ := Run.bind_eq_ok.1 h
  obtain ⟨t, ht, h⟩ := Run.bind_eq_ok.1 h
  obtain rfl := Run.pure_eq_ok.1 h
  obtain ⟨_, -, hs⟩ := Run.bind_eq_ok.1 hs
  obtain rfl := Run.pure_eq_ok.1 hs
  exact tidy_of_foldlM_markProperty (Marker.tidy_applyLines he e.markers) ht

end DefinitionEntry

/-! ## Definitions that are read -/

namespace WrittenDefinition

/-- The schema of a definition that is read is tidy. -/
theorem tidy_of_ofFields? {f : Fields} {file : WrittenDefinition} (h : ofFields? f = some file) :
    file.schema.Tidy := by
  obtain ⟨schema, hschema, h⟩ := Option.bind_eq_some_iff.1 h
  obtain ⟨dependencies, -, h⟩ := Option.bind_eq_some_iff.1 h
  obtain rfl := Option.some.inj h
  exact Schema.gives_ofNode?.field Schema.tidy_empty hschema

/-- A definition as it comes from a file: read as it is, or together with markers, which are recorded. -/
inductive IsRead (file : WrittenDefinition) : Prop where
  /-- Read as it is. -/
  | plain (n : Node) (h : ofNode? n = some file)
  /-- Read together with markers. -/
  | marked (n : Node) (e : DefinitionEntry) (h : DefinitionEntry.ofNode? n = some e)
      (hmarked : e.marked = .ok file)

/-- Every definition that comes from a file has a tidy schema. -/
theorem IsRead.tidy {file : WrittenDefinition} (h : file.IsRead) : file.schema.Tidy := by
  cases h with
  | plain n h =>
    obtain ⟨f, -, h⟩ := Option.bind_eq_some_iff.1 h
    exact tidy_of_ofFields? h
  | marked n e h hmarked =>
    obtain ⟨⟨f, others⟩, -, h⟩ := Option.bind_eq_some_iff.1 h
    obtain ⟨inner, -, h⟩ := Option.bind_eq_some_iff.1 h
    obtain ⟨definition, hdefinition, h⟩ := Option.bind_eq_some_iff.1 h
    obtain ⟨markers, -, h⟩ := Option.bind_eq_some_iff.1 h
    obtain ⟨propertyMarkers, -, h⟩ := Option.bind_eq_some_iff.1 h
    obtain rfl := Option.some.inj h
    exact DefinitionEntry.tidy_of_marked (tidy_of_ofFields? hdefinition) hmarked

end WrittenDefinition

end Swagger
