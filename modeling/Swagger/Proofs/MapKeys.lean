import Swagger.Proofs.MarkedDefinitions

/-! # Map keys and the types of lists
Map keys say how the items of a list are told apart when it is merged as a map. Each list of markers
answers for its own keys only, and does not look at what a schema says already: once keys are recorded, a
later list may still give the list another type.

* `Marker.applyAll` — some lists of markers, one after the other.
* `Marker.RecordsKeys` — when a list records map keys.
* `Marker.KeysFrom` — where the map keys of a schema come from; `KeysFrom.step` and `keysFrom_applyAll`
  carry it from list to list.
* `Marker.applyAll_mapKeys` — when map keys stand on a map.
* `DefinitionEntry.mapKeys_of_marked` — with an entry, where each schema gets one list, they always do. -/

namespace Swagger

namespace Marker

/-! ## One list after the other -/

/-- The schema after some lists of markers, refused ones included. -/
def applyAll (s : Schema) (lists : List (List Marker)) : Schema :=
  lists.foldl (fun s ms => (apply s ms).1) s

/-- The last list of markers is applied to what the others made of the schema. -/
theorem applyAll_concat (s : Schema) (lists : List (List Marker)) (ms : List Marker) :
    applyAll s (lists ++ [ms]) = (apply (applyAll s lists) ms).1 := by
  rw [applyAll, List.foldl_concat, applyAll]

/-- A list of markers that records map keys: it names some, and makes its list a map in the end. -/
def RecordsKeys (ms : List Marker) : Prop :=
  ofKind "listMapKey" ms ≠ [] ∧ (ofKind "listType" ms).getLast? = some (.listType .map)

instance (ms : List Marker) : Decidable (RecordsKeys ms) := inferInstanceAs (Decidable (_ ∧ _))

/-- Only a list that records map keys changes them. -/
theorem keys_of_not_recordsKeys {ms : List Marker} (h : ¬RecordsKeys ms) :
    (if Accepted ms then allValues "listMapKey" ms else none) = none := by
  by_cases hkeys : ofKind "listMapKey" ms = []
  · simp [allValues, hkeys]
  · have hlast : (ofKind "listType" ms).getLast? ≠ some (.listType .map) := fun hlast => h ⟨hkeys, hlast⟩
    exact if_neg (not_or.2 ⟨hkeys, hlast⟩)

/-- Where the map keys of a schema come from, after some lists of markers. -/
inductive KeysFrom (lists : List (List Marker)) (s : Schema) : Prop where
  /-- There are none, and no list recorded any. -/
  | absent (hnone : s.extensions.find? listMapKeysKey = none) (hlists : ∀ ms ∈ lists, ¬RecordsKeys ms)
  /-- The last list that recorded keys made a map of the list, and later ones may have made something
  else of it. -/
  | recorded (before : List (List Marker)) (ms : List Marker) (after : List (List Marker))
      (hsplit : lists = before ++ ms :: after) (hrecords : RecordsKeys ms)
      (hafter : ∀ ms' ∈ after, ¬RecordsKeys ms')
      (hkeys : s.extensions.find? listMapKeysKey = allValues "listMapKey" ms)
      (htype : s.extensions.find? listTypeKey
        = (lastValue "listType" after.flatten).or (some (.str "map")))

/-- One more list records keys, or leaves them and perhaps gives the list another type. -/
theorem KeysFrom.step {lists : List (List Marker)} {s : Schema} (h : KeysFrom lists s)
    (ms : List Marker) : KeysFrom (lists ++ [ms]) (apply s ms).1 := by
  have heffect := effect_apply s ms
  by_cases hrecords : RecordsKeys ms
  · refine .recorded lists ms [] rfl hrecords (by simp) ?_ ?_
    · rw [heffect.mapKeys, if_pos (.inr hrecords.2), allValues, if_neg hrecords.1, Option.some_or]
    · rw [heffect.listType, lastValue_listType hrecords.2, Option.some_or]
      rfl
  · have hmapKeys := heffect.mapKeys
    rw [keys_of_not_recordsKeys hrecords, Option.none_or] at hmapKeys
    cases h with
    | absent hnone hlists =>
      exact .absent (hmapKeys.trans hnone)
        (List.forall_mem_append.2 ⟨hlists, List.forall_mem_singleton.2 hrecords⟩)
    | recorded before ms₀ after hsplit hrecords₀ hafter hkeys htype =>
      have hafter' := List.forall_mem_append.2 ⟨hafter, List.forall_mem_singleton.2 hrecords⟩
      refine .recorded before ms₀ (after ++ [ms]) ?_ hrecords₀ hafter' (hmapKeys.trans hkeys) ?_
      · rw [hsplit, List.append_assoc, List.cons_append]
      · rw [heffect.listType, htype, List.flatten_append, List.flatten_singleton, lastValue_append,
          Option.or_assoc]

/-- What is known after all lists, where there were no keys at the start. -/
theorem keysFrom_applyAll {s : Schema} (hs : s.extensions.find? listMapKeysKey = none)
    (lists : List (List Marker)) : KeysFrom lists (applyAll s lists) := by
  induction lists using List.reverseRecOn with
  | nil => exact .absent hs (by simp)
  | append_singleton lists ms ih =>
    rw [applyAll_concat]
    exact ih.step ms

/-- A list of markers that records keys leaves a map behind. -/
theorem listType_apply_of_recordsKeys (s : Schema) {ms : List Marker} (h : RecordsKeys ms) :
    (apply s ms).1.extensions.find? listTypeKey = some (.str "map") := by
  rw [(effect_apply s ms).listType, lastValue_listType h.2, Option.some_or]
  rfl

/-- One list of markers puts map keys on a map only. -/
theorem listType_of_mapKeys {s : Schema} (hs : s.extensions.find? listMapKeysKey = none)
    {ms : List Marker} {keys : Json}
    (h : (apply s ms).1.extensions.find? listMapKeysKey = some keys) :
    (apply s ms).1.extensions.find? listTypeKey = some (.str "map") := by
  by_cases hrecords : RecordsKeys ms
  · exact listType_apply_of_recordsKeys s hrecords
  · rw [(effect_apply s ms).mapKeys, keys_of_not_recordsKeys hrecords, Option.none_or,
      hs] at h
    cases h

/-- What the last list type makes of a list that was a map. -/
theorem map_or_exists_listType (ms : List Marker) :
    (lastValue "listType" ms).or (some (.str "map")) = some (.str "map") ∨
      ∃ t, t ≠ ListType.map ∧ (ofKind "listType" ms).getLast? = some (.listType t) ∧
        (lastValue "listType" ms).or (some (.str "map")) = some (.str t.word) := by
  cases hlast : lastListType ms with
  | none =>
    refine .inl ?_
    rw [lastValue, getLast?_ofKind_listType, hlast]
    rfl
  | some t =>
    have hlast' := (lastListType_eq_some_iff ms t).1 hlast
    rw [lastValue_listType hlast', Option.some_or]
    by_cases ht : t = .map
    · exact .inl (by rw [ht]; rfl)
    · exact .inr ⟨t, ht, hlast', rfl⟩

/-- **Map keys stand on a map, unless it was made something else since.** Keys are there exactly when some
list recorded them. The last one that did so left a map behind, and its keys are those that are there; if
the list is no map any more, a later list of markers, accepted or refused, named the type that it has. -/
theorem applyAll_mapKeys (s : Schema) (hs : s.extensions.find? listMapKeysKey = none)
    (lists : List (List Marker)) :
    ((∃ keys, (applyAll s lists).extensions.find? listMapKeysKey = some keys) ↔
      ∃ ms ∈ lists, RecordsKeys ms) ∧
    ∀ keys, (applyAll s lists).extensions.find? listMapKeysKey = some keys →
      ∃ before ms after, lists = before ++ ms :: after ∧ RecordsKeys ms ∧
        allValues "listMapKey" ms = some keys ∧ (∀ ms' ∈ after, ¬RecordsKeys ms') ∧
        (applyAll s (before ++ [ms])).extensions.find? listTypeKey = some (.str "map") ∧
        ((applyAll s lists).extensions.find? listTypeKey = some (.str "map") ∨
          ∃ t, t ≠ ListType.map ∧ (ofKind "listType" after.flatten).getLast? = some (.listType t) ∧
            (applyAll s lists).extensions.find? listTypeKey = some (.str t.word)) := by
  cases keysFrom_applyAll hs lists with
  | absent hnone hlists => simpa [hnone] using hlists
  | recorded before ms after hsplit hrecords hafter hkeys htype =>
    have hmem : ms ∈ lists := hsplit ▸ List.mem_append_right _ List.mem_cons_self
    refine ⟨iff_of_true ?_ ⟨ms, hmem, hrecords⟩, fun keys hfind => ?_⟩
    · rw [hkeys, allValues, if_neg hrecords.1]
      exact ⟨_, rfl⟩
    · refine ⟨before, ms, after, hsplit, hrecords, hkeys.symm.trans hfind, hafter, ?_, ?_⟩
      · rw [applyAll_concat]
        exact listType_apply_of_recordsKeys _ hrecords
      · rw [htype]
        exact map_or_exists_listType after.flatten

/-- Lists of markers of which the first and the third are refused; the second makes a map of a list, and
the third makes a set of it. -/
def retyped : List (List Marker) :=
  [[.listMapKey "port"], [.listType .set, .listMapKey "name", .listType .map],
    [.listType .set, .listMapKey "port"], [.mapType .atomic]]

/-- The keys are still there, on what has become a set. -/
theorem applyAll_mapKeys_retyped :
    (∃ keys, (applyAll Schema.empty retyped).extensions.find? listMapKeysKey = some keys) ∧
      ∃ before ms after t, retyped = before ++ ms :: after ∧ RecordsKeys ms ∧ t ≠ ListType.map ∧
        (applyAll Schema.empty (before ++ [ms])).extensions.find? listTypeKey = some (.str "map") ∧
        (applyAll Schema.empty retyped).extensions.find? listTypeKey = some (.str t.word) := by
  obtain ⟨hpresent, hkeys⟩ := applyAll_mapKeys Schema.empty rfl retyped
  obtain ⟨keys, hfind⟩ := hpresent.2 ⟨_, List.mem_cons_of_mem _ List.mem_cons_self, by decide +kernel⟩
  obtain ⟨before, ms, after, hsplit, hrecords, -, -, hmap, htype⟩ := hkeys keys hfind
  have hset : (applyAll Schema.empty retyped).extensions.find? listTypeKey ≠ some (.str "map") := by
    decide +kernel
  obtain ⟨t, ht, -, hword⟩ := htype.resolve_left hset
  exact ⟨⟨keys, hfind⟩, before, ms, after, t, hsplit, hrecords, ht, hmap, hword⟩

/-- Map keys may stand on what is no map. -/
theorem applyAll_mapKeys_onSet :
    ¬∀ (s : Schema) (lists : List (List Marker)), s.extensions.find? listTypeKey = none →
      s.extensions.find? listMapKeysKey = none →
      ∀ keys, (applyAll s lists).extensions.find? listMapKeysKey = some keys →
        (applyAll s lists).extensions.find? listTypeKey = some (.str "map") := by
  intro hclaim
  have hmap := hclaim Schema.empty [[.listType .map, .listMapKey "name"], [.listType .set]] rfl rfl
    (Json.ofStrings ["name"]) (by decide +kernel)
  exact absurd hmap (by decide +kernel)

end Marker

/-! ## Definitions -/

namespace DefinitionEntry

/-- **The markers of an entry put map keys on maps only**, on the schema as well as on its properties. -/
theorem mapKeys_of_marked {e : DefinitionEntry} (hlines : e.propertyMarkers.Sorted)
    {d : WrittenDefinition} (h : e.marked = .ok d) :
    (e.definition.schema.extensions.find? Marker.listMapKeysKey = none →
      ∀ keys, d.schema.extensions.find? Marker.listMapKeysKey = some keys →
        d.schema.extensions.find? Marker.listTypeKey = some (.str "map")) ∧
    ∀ name p q, e.definition.schema.properties.find? name = some p →
      p.extensions.find? Marker.listMapKeysKey = none → d.schema.properties.find? name = some q →
      ∀ keys, q.extensions.find? Marker.listMapKeysKey = some keys →
        q.extensions.find? Marker.listTypeKey = some (.str "map") := by
  obtain ⟨-, ⟨ms, -, -, hschema⟩, hproperties⟩ := marks_of_marked hlines h
  refine ⟨fun hnone keys hkeys => ?_, fun name p q hp hnone hq keys hkeys => ?_⟩
  · rw [hschema] at hkeys ⊢
    exact Marker.listType_of_mapKeys hnone hkeys
  · by_cases hname : name ∈ e.propertyMarkers.keys
    · obtain ⟨lines, hmem, rfl⟩ := List.mem_map.1 hname
      obtain ⟨ms, -, hmarked⟩ := hproperties.marked lines hmem
      obtain rfl : (Marker.apply p ms).1 = q := Option.some.inj ((hmarked p hp).2.symm.trans hq)
      exact Marker.listType_of_mapKeys hnone hkeys
    · rw [hproperties.unmarked name hname, hp] at hq
      obtain rfl := Option.some.inj hq
      rw [hnone] at hkeys
      cases hkeys

end DefinitionEntry

end Swagger
