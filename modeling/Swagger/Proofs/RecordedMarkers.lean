import Swagger.Marker
import Swagger.Proofs.Dict

/-! # What markers are recorded as
A list of markers is recorded one marker after the other, and only then is it known whether the list has
to be refused. So a refused list has left its types behind, but never its map keys.

* `Marker.ofKind` — the markers of one kind, told by their key; `Marker.lastValue` and
  `Marker.allValues` — what is recorded for a kind.
* `Marker.Accepted` — when a list is accepted.
* `Marker.apply_eq` — the extensions that a list stores, and its outcome.
* `Marker.Effect` — what a schema is like afterwards; `Marker.effect_apply`.
* `Marker.apply_refused` — what a refused list does to a schema. -/

namespace Swagger

namespace Marker

/-! ## Markers of one kind -/

/-- The markers with a key, in order. -/
def ofKind (key : String) (ms : List Marker) : List Marker := ms.filter fun m => m.key == key

/-- The value of the last marker with a key. -/
def lastValue (key : String) (ms : List Marker) : Option Json :=
  (ofKind key ms).getLast?.map fun m => .str m.value

/-- The values of all markers with a key in order, where there is one. -/
def allValues (key : String) (ms : List Marker) : Option Json :=
  if ofKind key ms = [] then none else some (Json.ofStrings ((ofKind key ms).map value))

/-- The markers with a key in two lists are those of the first, and then those of the second. -/
theorem ofKind_append (key : String) (ms ms' : List Marker) :
    ofKind key (ms ++ ms') = ofKind key ms ++ ofKind key ms' :=
  List.filter_append ..

/-- Of two lists the second has the word, where it says anything. -/
theorem lastValue_append (key : String) (ms ms' : List Marker) :
    lastValue key (ms ++ ms') = (lastValue key ms').or (lastValue key ms) := by
  rw [lastValue, ofKind_append, List.getLast?_append, Option.map_or, ← lastValue, ← lastValue]

/-- The fields that are named as keys are the values of the markers for them. -/
theorem mapKeys_eq (ms : List Marker) : mapKeys ms = (ofKind "listMapKey" ms).map value := by
  induction ms with
  | nil => rfl
  | cons m rest ih => cases m <;> simpa [mapKeys, ofKind, key, value] using ih

/-- The last list type is that of the last marker for it. -/
theorem getLast?_ofKind_listType (ms : List Marker) :
    (ofKind "listType" ms).getLast? = (lastListType ms).map .listType := by
  induction ms using List.reverseRecOn with
  | nil => rfl
  | append_singleton ms m ih =>
    rw [ofKind_append, lastListType, List.filterMap_append]
    cases m with
    | listType t => simp [ofKind, key]
    | _ => simpa [ofKind, key, lastListType] using ih

/-- The last list type is that of the last marker for one. -/
theorem lastListType_eq_some_iff (ms : List Marker) (t : ListType) :
    lastListType ms = some t ↔ (ofKind "listType" ms).getLast? = some (.listType t) := by
  rw [getLast?_ofKind_listType]
  simp

/-- The last list type has a value. -/
theorem lastValue_listType {ms : List Marker} {t : ListType}
    (h : (ofKind "listType" ms).getLast? = some (.listType t)) :
    lastValue "listType" ms = some (.str t.word) := by
  rw [lastValue, h]
  rfl

/-- Map keys are accepted for a list that is merged as a map, according to the last of its types. -/
def Accepted (ms : List Marker) : Prop :=
  ofKind "listMapKey" ms = [] ∨ (ofKind "listType" ms).getLast? = some (.listType .map)

instance (ms : List Marker) : Decidable (Accepted ms) := inferInstanceAs (Decidable (_ ∨ _))

/-! ## What is stored -/

/-- The kinds of types, each with the extension that it is recorded as. -/
def typeKinds : List (String × String) :=
  [("structType", structTypeKey), ("listType", listTypeKey), ("mapType", mapTypeKey)]

/-- The extensions that markers are recorded as. -/
def extensionKeys : List String := [structTypeKey, listTypeKey, listMapKeysKey, mapTypeKey]

/-- What a marker by itself is recorded as. -/
def extension? : Marker → Option (String × Json)
  | .structType t => some (structTypeKey, .str t.word)
  | .listType t => some (listTypeKey, .str t.word)
  | .mapType t => some (mapTypeKey, .str t.word)
  | .listMapKey _ => none

/-- Markers are recorded by storing the extensions that they are recorded as. -/
theorem foldl_record (ms : List Marker) (x : Extensions) :
    ms.foldl record x = x.insertAll (ms.filterMap extension?) := by
  induction ms generalizing x with
  | nil => rfl
  | cons m rest ih => cases m <;> exact ih _

/-- The pairs that a list of markers stores. -/
def stored (ms : List Marker) : List (String × Json) :=
  ms.filterMap extension? ++
    if Accepted ms then (allValues "listMapKey" ms).toList.map (listMapKeysKey, ·) else []

/-- Markers store what they say, and are refused where they are not accepted. -/
theorem applyTo_eq (x : Extensions) (ms : List Marker) :
    applyTo x ms = (x.insertAll (stored ms),
      if Accepted ms then .ok () else .error .mapKeysWithoutMapList) := by
  have hmap := lastListType_eq_some_iff ms .map
  simp only [applyTo, stored, Accepted, allValues, foldl_record, mapKeys_eq, hmap,
    Dict.insertAll_append, List.isEmpty_iff, List.map_eq_nil_iff]
  by_cases hkeys : ofKind "listMapKey" ms = []
  · simp [hkeys, Dict.insertAll]
  · by_cases hlast : (ofKind "listType" ms).getLast? = some (.listType .map)
    · simp [hkeys, hlast, Dict.insertAll]
    · simp [hkeys, hlast, Dict.insertAll]

/-- **Applying markers** stores extensions, and fails if map keys are not accepted. -/
theorem apply_eq (s : Schema) (ms : List Marker) :
    apply s ms = (s.withExtensions (s.extensions.insertAll (stored ms)),
      if Accepted ms then .ok () else .error .mapKeysWithoutMapList) := by
  rw [apply, applyTo_eq]

/-- A list is accepted or refused whatever the schema says already. -/
theorem apply_eq_ok_iff (s : Schema) (ms : List Marker) : (apply s ms).2 = .ok () ↔ Accepted ms := by
  rw [apply_eq]
  by_cases h : Accepted ms <;> simp [h]

/-- Only keys of markers' extensions are stored. -/
theorem mem_extensionKeys_of_mem_stored {ms : List Marker} {k : String}
    (h : k ∈ (stored ms).map Prod.fst) : k ∈ extensionKeys := by
  obtain ⟨e, he, rfl⟩ := List.mem_map.1 h
  rcases List.mem_append.1 he with he | he
  · obtain ⟨m, -, hm⟩ := List.mem_filterMap.1 he
    cases m with
    | listMapKey field => exact absurd hm (by simp [extension?])
    | _ =>
      obtain rfl := Option.some.inj hm
      simp [extensionKeys]
  · split at he
    · obtain ⟨v, -, rfl⟩ := List.mem_map.1 he
      simp [extensionKeys]
    · simp at he

/-- Of the pairs for a kind of type there is one for every marker of it. -/
theorem filter_filterMap_extension {kind k : String} (h : (kind, k) ∈ typeKinds) (ms : List Marker) :
    (ms.filterMap extension?).filter (fun e => e.1 == k)
      = (ofKind kind ms).map fun m => (k, .str m.value) := by
  induction ms with
  | nil => rfl
  | cons m rest ih =>
    simp only [typeKinds, List.mem_cons, Prod.mk.injEq, List.not_mem_nil, or_false] at h
    rcases h with ⟨rfl, rfl⟩ | ⟨rfl, rfl⟩ | ⟨rfl, rfl⟩ <;>
      cases m <;>
        simpa [List.filterMap_cons, extension?, ofKind, key, value, structTypeKey, listTypeKey,
          mapTypeKey] using ih

/-- Of a kind of type the last marker counts, and without one what was there. -/
theorem find?_stored_of_typeKinds {kind k : String} (h : (kind, k) ∈ typeKinds) (x : Extensions)
    (ms : List Marker) :
    (x.insertAll (stored ms)).find? k = (lastValue kind ms).or (x.find? k) := by
  have hkeys : k ≠ listMapKeysKey := by
    have hall : ∀ e ∈ typeKinds, e.2 ≠ listMapKeysKey := by decide
    exact hall _ h
  have hnone : (if Accepted ms then (allValues "listMapKey" ms).toList.map (listMapKeysKey, ·)
      else []).filter (fun e => e.1 == k) = [] := by
    split <;> simp [hkeys.symm]
  refine (Dict.find?_foldl_insert Prod.fst Prod.snd (stored ms) x k).trans ?_
  rw [stored, List.filter_append, hnone, List.append_nil, filter_filterMap_extension h, List.getLast?_map,
    Option.map_map]
  rfl

/-- Of the map keys that are accepted all count, and without any what was there. -/
theorem find?_stored_listMapKeysKey (x : Extensions) (ms : List Marker) :
    (x.insertAll (stored ms)).find? listMapKeysKey
      = (if Accepted ms then allValues "listMapKey" ms else none).or (x.find? listMapKeysKey) := by
  have hnone : (ms.filterMap extension?).filter (fun e => e.1 == listMapKeysKey) = [] := by
    refine List.filter_eq_nil_iff.2 fun e he => ?_
    obtain ⟨m, -, hm⟩ := List.mem_filterMap.1 he
    cases m <;> cases hm <;> simp [structTypeKey, listTypeKey, mapTypeKey, listMapKeysKey]
  refine (Dict.find?_foldl_insert Prod.fst Prod.snd (stored ms) x listMapKeysKey).trans ?_
  rw [stored, List.filter_append, hnone, List.nil_append]
  split
  · cases allValues "listMapKey" ms <;> simp
  · rfl

/-- All other extensions are left alone. -/
theorem find?_stored_of_not_mem {k : String} (hk : k ∉ extensionKeys) (x : Extensions)
    (ms : List Marker) : (x.insertAll (stored ms)).find? k = x.find? k := by
  have hnone : (stored ms).filter (fun e => e.1 == k) = [] := by
    refine List.filter_eq_nil_iff.2 fun e he heq => hk ?_
    rw [← beq_iff_eq.1 heq]
    exact mem_extensionKeys_of_mem_stored (List.mem_map_of_mem he)
  refine (Dict.find?_foldl_insert Prod.fst Prod.snd (stored ms) x k).trans ?_
  rw [hnone]
  rfl

/-! ## What a schema is like afterwards -/

/-- A schema is as it was but for what a list of markers says: the last type of each kind, and perhaps
some map keys. -/
structure Effect (ms : List Marker) (keys : Option Json) (s t : Schema) : Prop where
  /-- Nothing but the extensions changes. -/
  rest : t = s.withExtensions t.extensions
  /-- The last marker for a structured value counts. -/
  structType : t.extensions.find? structTypeKey
    = (lastValue "structType" ms).or (s.extensions.find? structTypeKey)
  /-- The last marker for a list counts. -/
  listType : t.extensions.find? listTypeKey
    = (lastValue "listType" ms).or (s.extensions.find? listTypeKey)
  /-- The last marker for a map counts. -/
  mapType : t.extensions.find? mapTypeKey
    = (lastValue "mapType" ms).or (s.extensions.find? mapTypeKey)
  /-- The map keys that are given take the place of earlier ones. -/
  mapKeys : t.extensions.find? listMapKeysKey = keys.or (s.extensions.find? listMapKeysKey)
  /-- All other extensions stay. -/
  others : ∀ k ∉ extensionKeys, t.extensions.find? k = s.extensions.find? k

/-- Types are recorded in any case, and map keys where they are accepted. -/
theorem effect_apply (s : Schema) (ms : List Marker) :
    Effect ms (if Accepted ms then allValues "listMapKey" ms else none) s (apply s ms).1 := by
  rw [apply_eq]
  exact {
    rest := rfl
    structType := find?_stored_of_typeKinds (by decide) s.extensions ms
    listType := find?_stored_of_typeKinds (by decide) s.extensions ms
    mapType := find?_stored_of_typeKinds (by decide) s.extensions ms
    mapKeys := find?_stored_listMapKeysKey s.extensions ms
    others := fun k hk => find?_stored_of_not_mem hk s.extensions ms }

/-- The extensions of a schema stay in the order of their keys. -/
theorem sorted_apply {s : Schema} (hs : s.extensions.Sorted) (ms : List Marker) :
    (apply s ms).1.extensions.Sorted := by
  rw [apply_eq]
  exact hs.insertAll (stored ms)

/-- What is said of the schema afterwards leaves one schema only. -/
theorem Effect.unique {ms : List Marker} {keys : Option Json} {s t u : Schema}
    (ht : t.extensions.Sorted) (hu : u.extensions.Sorted) (h : Effect ms keys s t)
    (h' : Effect ms keys s u) : t = u := by
  have hextensions : t.extensions = u.extensions := by
    refine ht.ext hu fun k => ?_
    by_cases hk : k ∈ extensionKeys
    · simp only [extensionKeys, List.mem_cons, List.not_mem_nil, or_false] at hk
      rcases hk with rfl | rfl | rfl | rfl
      · rw [h.structType, h'.structType]
      · rw [h.listType, h'.listType]
      · rw [h.mapKeys, h'.mapKeys]
      · rw [h.mapType, h'.mapType]
    · rw [h.others k hk, h'.others k hk]
  rw [h.rest, h'.rest, hextensions]

/-- Types change nothing where the schema says the same already. -/
theorem effect_self_iff (ms : List Marker) (s : Schema) :
    Effect ms none s s ↔ ∀ kind ∈ typeKinds, ∀ v, lastValue kind.1 ms = some v →
      s.extensions.find? kind.2 = some v := by
  have hor : ∀ {o o' : Option Json}, o' = o.or o' ↔ ∀ v, o = some v → o' = some v := by
    intro o o'
    cases o <;> simp
  constructor
  · intro h kind hkind
    simp only [typeKinds, List.mem_cons, List.not_mem_nil, or_false] at hkind
    rcases hkind with rfl | rfl | rfl
    · exact hor.1 h.structType
    · exact hor.1 h.listType
    · exact hor.1 h.mapType
  · intro h
    exact {
      rest := (Schema.withExtensions_extensions s).symm
      structType := hor.2 (h ("structType", structTypeKey) (by decide))
      listType := hor.2 (h ("listType", listTypeKey) (by decide))
      mapType := hor.2 (h ("mapType", mapTypeKey) (by decide))
      mapKeys := rfl
      others := fun _ _ => rfl }

/-- To record a list once more changes nothing. -/
theorem apply_apply (s : Schema) (ms : List Marker) : apply (apply s ms).1 ms = apply s ms := by
  simp only [apply_eq, Schema.extensions_withExtensions,
    Dict.insertAll_insertAll_of_subset (List.Subset.refl ((stored ms).map Prod.fst))]
  rfl

/-! ## Lists that are refused -/

/-- **A refused list leaves its types behind.** It is refused for map keys without a map list, and of all
that a schema says only the three types can have changed, each to the last one of its kind in the list. The
schema is as it was exactly where it had these types already. -/
theorem apply_refused (s : Schema) (ms : List Marker) (e : MarkerError)
    (h : (apply s ms).2 = .error e) :
    e = .mapKeysWithoutMapList ∧ ofKind "listMapKey" ms ≠ [] ∧
      (ofKind "listType" ms).getLast? ≠ some (.listType .map) ∧
      Effect ms none s (apply s ms).1 ∧
      (s.extensions.Sorted → ((apply s ms).1 = s ↔ ∀ kind ∈ typeKinds, ∀ v,
        lastValue kind.1 ms = some v → s.extensions.find? kind.2 = some v)) := by
  have hrefused : ¬Accepted ms := by
    intro haccepted
    rw [(apply_eq_ok_iff s ms).2 haccepted] at h
    cases h
  have heffect : Effect ms none s (apply s ms).1 := by
    simpa only [if_neg hrefused] using effect_apply s ms
  obtain ⟨hkeys, hlast⟩ := not_or.1 hrefused
  refine ⟨?_, hkeys, hlast, heffect, fun hs => ?_⟩
  · rw [apply_eq, if_neg hrefused] at h
    exact (Except.error.inj h).symm
  · rw [← effect_self_iff]
    constructor
    · intro hself
      rwa [hself] at heffect
    · exact heffect.unique (sorted_apply hs ms) hs

/-- A list of ports that is merged by their names. -/
def portList : Schema :=
  Schema.empty.withExtensions (.ofList [(listTypeKey, .str "map"),
    (listMapKeysKey, Json.ofStrings ["name"]), ("x-order", .str "given")])

/-- Markers that make a set of a list and then name a key of its items. -/
def keyedSet : List Marker :=
  [.listType .map, .structType .granular, .listMapKey "port", .listType .set, .structType .atomic]

/-- The list of ports has become a set, still with the key that it had. -/
theorem apply_refused_ports :
    (apply portList keyedSet).2 = .error .mapKeysWithoutMapList ∧
      (apply portList keyedSet).1.extensions.find? listTypeKey = some (.str "set") ∧
      (apply portList keyedSet).1.extensions.find? structTypeKey = some (.str "atomic") ∧
      (apply portList keyedSet).1.extensions.find? listMapKeysKey = some (Json.ofStrings ["name"]) ∧
      (apply portList keyedSet).1.extensions.find? "x-order" = some (.str "given") := by
  have hrefused : (apply portList keyedSet).2 = .error .mapKeysWithoutMapList := by decide +kernel
  obtain ⟨-, -, -, heffect, -⟩ := apply_refused portList keyedSet _ hrefused
  refine ⟨hrefused, heffect.listType.trans ?_, heffect.structType.trans ?_, heffect.mapKeys.trans ?_,
    (heffect.others "x-order" (by decide)).trans ?_⟩ <;> decide +kernel

/-- A refused list may leave a schema other than it was. -/
theorem apply_refused_changed :
    ¬∀ (s : Schema) (ms : List Marker) (e : MarkerError), (apply s ms).2 = .error e →
      (apply s ms).1 = s := by
  intro hclaim
  have hsame := hclaim Schema.empty [.listType .set, .listMapKey "name"] .mapKeysWithoutMapList
    (by decide +kernel)
  exact absurd hsame (by decide +kernel)

end Marker

end Swagger
