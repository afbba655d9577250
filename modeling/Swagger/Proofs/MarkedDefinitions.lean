import Swagger.Proofs.RecordedMarkers
import Swagger.Proofs.Run
import Swagger.WrittenDefinition

/-! # Definitions with their markers
The markers of an entry are recorded on its schema, and those of each property on the property. Every
schema gets the markers of its own lines only, and all else is as it was written.

* `DefinitionEntry.PropertiesMarked` — the properties once their markers are recorded.
* `DefinitionEntry.Marks` — a definition once all its markers are recorded.
* `DefinitionEntry.marked_eq_ok_iff` — when the markers of an entry can be recorded, and the definition
  that comes of it.
* `DefinitionEntry.markers_effect` — what markers do to a schema, and to a definition. -/

namespace Swagger

/-- The schema with other properties. -/
def Schema.withProperties (s : Schema) (properties : Dict String Schema) : Schema :=
  { s with properties := properties }

/-- A schema has the properties that it was given. -/
@[simp] theorem Schema.properties_withProperties (s : Schema) (properties : Dict String Schema) :
    (s.withProperties properties).properties = properties := rfl

/-- A schema with its own properties is the same. -/
theorem Schema.withProperties_properties (s : Schema) : s.withProperties s.properties = s := by
  cases s
  rfl

namespace DefinitionEntry

/-! ## Properties -/

/-- Properties with the markers of comment lines recorded, each with those of the lines under its name. -/
structure PropertiesMarked (lines : List (String × List String)) (before after : Dict String Schema) :
    Prop where
  /-- There are the same properties. -/
  keys : after.keys = before.keys
  /-- A property without lines is as it was. -/
  unmarked : ∀ name ∉ lines.map Prod.fst, after.find? name = before.find? name
  /-- Lines can be read, and if their property is there, it has their markers. -/
  marked : ∀ e ∈ lines, ∃ ms, Marker.ofLines e.2 = .ok ms ∧
    ∀ p, before.find? e.1 = some p →
      Marker.Accepted ms ∧ after.find? e.1 = some (Marker.apply p ms).1

/-- Without lines no property is marked. -/
theorem propertiesMarked_nil (before : Dict String Schema) : PropertiesMarked [] before before where
  keys := rfl
  unmarked _ _ := rfl
  marked _ he := absurd he List.not_mem_nil

/-- The markers of one property are recorded when its lines can be read and, where the property is there,
are accepted. -/
theorem markProperty_eq_ok_iff (s t : Schema) (e : String × List String) :
    markProperty s e = .ok t ↔ ∃ ms, Marker.ofLines e.2 = .ok ms ∧
      ((s.properties.find? e.1 = none ∧ t = s) ∨
        ∃ p, s.properties.find? e.1 = some p ∧ Marker.Accepted ms ∧
          t = s.withProperties (s.properties.adjust e.1 fun _ => (Marker.apply p ms).1)) := by
  rw [markProperty, Run.bind_eq_ok]
  refine exists_congr fun ms => and_congr Iff.rfl ?_
  cases hp : s.properties.find? e.1 with
  | none => simp [pure, Except.pure, eq_comm]
  | some p =>
    have hok := Marker.apply_eq_ok_iff p ms
    cases hr : (Marker.apply p ms).2 with
    | ok u => simp [← hok, hr, bind, Except.bind, pure, Except.pure, eq_comm, Schema.withProperties]
    | error c => simp [← hok, hr, bind, Except.bind]

/-- One more property has its markers, which no earlier lines were about. -/
theorem PropertiesMarked.step {done : List (String × List String)} {before : Dict String Schema}
    {s t : Schema} (h : PropertiesMarked done before s.properties) {e : String × List String}
    (he : e.1 ∉ done.map Prod.fst) (ht : markProperty s e = .ok t) :
    PropertiesMarked (done ++ [e]) before t.properties := by
  have hsame := h.unmarked e.1 he
  have hnew : ∀ name ∉ (done ++ [e]).map Prod.fst, name ∉ done.map Prod.fst ∧ name ≠ e.1 := by
    simp only [List.map_append, List.map_cons, List.map_nil, List.mem_append, List.mem_singleton]
    exact fun name hname => not_or.1 hname
  obtain ⟨ms, hms, ⟨hnone, rfl⟩ | ⟨p, hp, haccepted, rfl⟩⟩ := (markProperty_eq_ok_iff s t e).1 ht
  · refine ⟨h.keys, fun name hname => h.unmarked name (hnew name hname).1, fun e' he' => ?_⟩
    rcases List.mem_append.1 he' with he' | he'
    · exact h.marked e' he'
    · obtain rfl := List.mem_singleton.1 he'
      refine ⟨ms, hms, fun p hp => ?_⟩
      rw [← hsame, hnone] at hp
      cases hp
  · refine ⟨(Dict.keys_adjust _ _ _).trans h.keys, fun name hname => ?_, fun e' he' => ?_⟩
    · rw [Schema.properties_withProperties, Dict.find?_adjust, if_neg (hnew name hname).2]
      exact h.unmarked name (hnew name hname).1
    · rcases List.mem_append.1 he' with he' | he'
      · -- the lines are about another property, which stays as it is
        have hne : e'.1 ≠ e.1 := fun heq => he (heq ▸ List.mem_map_of_mem he')
        simpa only [Schema.properties_withProperties, Dict.find?_adjust, if_neg hne]
          using h.marked e' he'
      · obtain rfl := List.mem_singleton.1 he'
        refine ⟨ms, hms, fun q hq => ?_⟩
        obtain rfl : p = q := Option.some.inj (hp.symm.trans (hsame.trans hq))
        refine ⟨haccepted, ?_⟩
        rw [Schema.properties_withProperties, Dict.find?_adjust, if_pos rfl, hp, Option.map_some]

/-- Recording the markers of properties changes nothing but these properties. -/
theorem propertiesMarked_of_foldlM {lines : List (String × List String)}
    (hlines : (lines.map Prod.fst).Nodup) {s t : Schema} (h : lines.foldlM markProperty s = .ok t) :
    t = s.withProperties t.properties ∧
      PropertiesMarked lines s.properties t.properties := by
  refine Run.foldlM_induction (fun done t => (done.map Prod.fst).Nodup →
    t = s.withProperties t.properties ∧ PropertiesMarked done s.properties t.properties)
    (fun done e t u ih hu hdone => ?_)
    (fun _ => ⟨s.withProperties_properties.symm, propertiesMarked_nil _⟩) h hlines
  rw [List.map_append, List.nodup_append'] at hdone
  obtain ⟨hsame, hmarked⟩ := ih hdone.1
  refine ⟨?_, hmarked.step (fun hmem => hdone.2.2 hmem List.mem_cons_self) hu⟩
  obtain ⟨ms, -, ⟨-, rfl⟩ | ⟨p, -, -, rfl⟩⟩ := (markProperty_eq_ok_iff t u e).1 hu
  · exact hsame
  · -- the other fields are still those of the start
    exact (congrArg (Schema.withProperties · _) hsame).trans rfl

/-- Markers can be recorded on all properties where the lines of each can be read and are accepted. -/
theorem exists_foldlM_markProperty {lines : List (String × List String)} {s : Schema}
    (h : ∀ e ∈ lines, ∃ ms, Marker.ofLines e.2 = .ok ms ∧
      (e.1 ∈ s.properties.keys → Marker.Accepted ms)) :
    ∃ t, lines.foldlM markProperty s = .ok t := by
  induction lines generalizing s with
  | nil => exact ⟨s, rfl⟩
  | cons e rest ih =>
    obtain ⟨ms, hms, haccepted⟩ := h e List.mem_cons_self
    -- one step succeeds and leaves the names of the properties as they are
    have hstep : ∃ t, markProperty s e = .ok t ∧ t.properties.keys = s.properties.keys := by
      cases hp : s.properties.find? e.1 with
      | none => exact ⟨s, (markProperty_eq_ok_iff s s e).2 ⟨ms, hms, .inl ⟨hp, rfl⟩⟩, rfl⟩
      | some p =>
        have hkey : e.1 ∈ s.properties.keys := (Dict.mem_keys_iff _ _).2 ⟨p, hp⟩
        exact ⟨_, (markProperty_eq_ok_iff s _ e).2 ⟨ms, hms, .inr ⟨p, hp, haccepted hkey, rfl⟩⟩,
          Dict.keys_adjust _ _ _⟩
    obtain ⟨t, ht, hkeys⟩ := hstep
    obtain ⟨u, hu⟩ := ih (s := t) fun e' he' => hkeys ▸ h e' (List.mem_cons_of_mem _ he')
    exact ⟨u, by rw [List.foldlM_cons]; exact Run.bind_eq_ok.2 ⟨t, ht, hu⟩⟩

/-- What is said of the properties leaves one dictionary only. -/
theorem PropertiesMarked.unique {lines : List (String × List String)}
    {before after after' : Dict String Schema} (hbefore : before.Sorted)
    (h : PropertiesMarked lines before after) (h' : PropertiesMarked lines before after') :
    after = after' := by
  have hsorted := (Dict.sorted_iff_pairwise_keys before).1 hbefore
  refine Dict.Sorted.ext ((Dict.sorted_iff_pairwise_keys after).2 (h.keys ▸ hsorted))
    ((Dict.sorted_iff_pairwise_keys after').2 (h'.keys ▸ hsorted)) fun name => ?_
  by_cases hname : name ∈ lines.map Prod.fst
  · obtain ⟨e, he, rfl⟩ := List.mem_map.1 hname
    cases hp : before.find? e.1 with
    | none =>
      -- there is no such property, before or after
      have hkey := (Dict.find?_eq_none_iff before e.1).1 hp
      rw [(Dict.find?_eq_none_iff after e.1).2 (h.keys ▸ hkey),
        (Dict.find?_eq_none_iff after' e.1).2 (h'.keys ▸ hkey)]
    | some p =>
      obtain ⟨ms, hms, hmarked⟩ := h.marked e he
      obtain ⟨ms', hms', hmarked'⟩ := h'.marked e he
      obtain rfl : ms = ms' := Except.ok.inj (hms.symm.trans hms')
      rw [(hmarked p hp).2, (hmarked' p hp).2]
  · rw [h.unmarked name hname, h'.unmarked name hname]

/-! ## Definitions -/

/-- A definition with all markers of an entry recorded. -/
structure Marks (e : DefinitionEntry) (d : WrittenDefinition) : Prop where
  /-- The same models are needed. -/
  dependencies : d.dependencies = e.definition.dependencies
  /-- The schema has the markers of its lines, and but for its properties nothing else changes. -/
  schema : ∃ ms, Marker.ofLines e.markers = .ok ms ∧ Marker.Accepted ms ∧
    d.schema = (Marker.apply e.definition.schema ms).1.withProperties d.schema.properties
  /-- The properties have the markers of theirs. -/
  properties :
    PropertiesMarked e.propertyMarkers.entries e.definition.schema.properties d.schema.properties

/-- The markers of the whole schema are recorded when its lines can be read and are accepted. -/
theorem markSchema_eq_ok_iff (e : DefinitionEntry) (s : Schema) :
    e.markSchema = .ok s ↔ ∃ ms, Marker.ofLines e.markers = .ok ms ∧ Marker.Accepted ms ∧
      s = (Marker.apply e.definition.schema ms).1 := by
  rw [markSchema, Marker.applyLines]
  cases hms : Marker.ofLines e.markers with
  | error c => simp [bind, Except.bind]
  | ok ms =>
    have hok := Marker.apply_eq_ok_iff e.definition.schema ms
    cases hr : (Marker.apply e.definition.schema ms).2 with
    | ok u => simp [← hok, hr, bind, Except.bind, pure, Except.pure, eq_comm]
    | error c => simp [← hok, hr, bind, Except.bind]

variable {e : DefinitionEntry}

/-- A definition that comes out has all markers of its entry recorded. -/
theorem marks_of_marked (hlines : e.propertyMarkers.Sorted) {d : WrittenDefinition}
    (h : e.marked = .ok d) : e.Marks d := by
  obtain ⟨s, hs, h⟩ := Run.bind_eq_ok.1 h
  obtain ⟨t, ht, h⟩ := Run.bind_eq_ok.1 h
  obtain rfl := Run.pure_eq_ok.1 h
  obtain ⟨ms, hms, haccepted, rfl⟩ := (markSchema_eq_ok_iff e s).1 hs
  obtain ⟨hsame, hmarked⟩ := propertiesMarked_of_foldlM hlines.nodup_keys ht
  exact ⟨rfl, ⟨ms, hms, haccepted, hsame⟩, hmarked⟩

/-- A definition that has the markers of an entry is what comes of recording them. -/
theorem marked_of_marks (hproperties : e.definition.schema.properties.Sorted)
    (hlines : e.propertyMarkers.Sorted) {d : WrittenDefinition} (h : e.Marks d) :
    e.marked = .ok d := by
  obtain ⟨ms, hms, haccepted, hschema⟩ := h.schema
  have hs := (markSchema_eq_ok_iff e _).2 ⟨ms, hms, haccepted, rfl⟩
  obtain ⟨t, ht⟩ : ∃ t, e.propertyMarkers.entries.foldlM markProperty
      (Marker.apply e.definition.schema ms).1 = .ok t := by
    refine exists_foldlM_markProperty fun p hp => ?_
    obtain ⟨ms', hms', hmarked⟩ := h.properties.marked p hp
    refine ⟨ms', hms', fun hkey => ?_⟩
    obtain ⟨q, hq⟩ := (Dict.mem_keys_iff _ _).1 hkey
    exact (hmarked q hq).1
  have hmarked : e.marked = .ok { e.definition with schema := t } :=
    Run.bind_eq_ok.2 ⟨_, hs, Run.bind_eq_ok.2 ⟨t, ht, rfl⟩⟩
  obtain ⟨hsame, hpropertiesMarked⟩ := propertiesMarked_of_foldlM hlines.nodup_keys ht
  have hproperties' := hpropertiesMarked.unique hproperties h.properties
  rw [hmarked]
  refine congrArg Except.ok ?_
  cases d with
  | mk schema dependencies =>
    obtain rfl : dependencies = e.definition.dependencies := h.dependencies
    refine congrArg (WrittenDefinition.mk · _) ?_
    rw [hsame, hproperties']
    exact hschema.symm

/-- **What becomes of an entry.** -/
theorem marked_eq_ok_iff (hproperties : e.definition.schema.properties.Sorted)
    (hlines : e.propertyMarkers.Sorted) (d : WrittenDefinition) : e.marked = .ok d ↔ e.Marks d :=
  ⟨marks_of_marked hlines, marked_of_marks hproperties hlines⟩

/-- Lines under the name of no property may be left out. -/
theorem PropertiesMarked.erase {lines : Dict String (List String)} {before after : Dict String Schema}
    (h : PropertiesMarked lines.entries before after) {name : String} (hname : name ∉ before.keys) :
    PropertiesMarked (lines.erase name).entries before after where
  keys := h.keys
  unmarked k hk := by
    by_cases hkey : k ∈ lines.keys
    · -- only the lines that are left out are about it, and it is not there
      obtain rfl : k = name := by
        by_contra hne
        exact hk ((Dict.mem_keys_erase lines name k).2 ⟨hkey, hne⟩)
      rw [(Dict.find?_eq_none_iff before k).2 hname,
        (Dict.find?_eq_none_iff after k).2 (h.keys ▸ hname)]
    · exact h.unmarked k hkey
  marked e he := h.marked e (List.mem_of_mem_filter he)

/-- **Markers have their effect, and no other.** A list is accepted when it names no map keys or makes its
list a map in the end. Then the last type of each kind counts and all map keys do, nothing else changes, and
once more changes nothing at all. With an entry the schema gets the markers of its lines, and each property
that is there those of the lines under its name, if all lines can be read and are accepted; all else is as
it was written. Lines under the name of no property do nothing. -/
theorem markers_effect (e : DefinitionEntry) (hproperties : e.definition.schema.properties.Sorted)
    (hlines : e.propertyMarkers.Sorted) :
    (∀ (s : Schema) (ms : List Marker),
      ((Marker.apply s ms).2 = .ok () ↔ Marker.ofKind "listMapKey" ms = [] ∨
        (Marker.ofKind "listType" ms).getLast? = some (.listType .map)) ∧
      ((Marker.apply s ms).2 = .ok () →
        Marker.Effect ms (Marker.allValues "listMapKey" ms) s (Marker.apply s ms).1) ∧
      Marker.apply (Marker.apply s ms).1 ms = Marker.apply s ms) ∧
    (∀ d, e.marked = .ok d ↔ e.Marks d) ∧
    ∀ name, e.definition.schema.properties.find? name = none → ∀ d, e.marked = .ok d →
      { e with propertyMarkers := e.propertyMarkers.erase name }.marked = .ok d := by
  refine ⟨fun s ms => ⟨Marker.apply_eq_ok_iff s ms, fun hok => ?_, Marker.apply_apply s ms⟩,
    marked_eq_ok_iff hproperties hlines, fun name hname d hd => ?_⟩
  · have heffect := Marker.effect_apply s ms
    rwa [if_pos ((Marker.apply_eq_ok_iff s ms).1 hok)] at heffect
  · have hmarks := marks_of_marked hlines hd
    refine marked_of_marks (e := { e with propertyMarkers := e.propertyMarkers.erase name })
      hproperties (List.Pairwise.filter _ hlines) ⟨hmarks.dependencies, hmarks.schema, ?_⟩
    exact hmarks.properties.erase ((Dict.find?_eq_none_iff _ _).1 hname)

/-- Comment lines that make a map of a list of ports. -/
def portLines : List String := ["  /// +listType=map ", "+listMapKey=port", "+listMapKey=protocol"]

/-- A pod with a list of ports, and with markers for it, for the pod itself and for what it has not. -/
def podEntry : DefinitionEntry where
  definition := {
    schema := { properties := .ofList [("labels", Schema.simple "object" ""), ("ports", Marker.portList)] }
    dependencies := ["core/v1.Port"] }
  markers := ["A pod.", "+structType=granular", "// +structType=atomic"]
  propertyMarkers := .ofList [("ports", portLines), ("volumes", ["+mapType=atomic"])]

/-- The ports have their keys, the pod is replaced as a whole, and the labels are as they were; the lines
on volumes could as well be missing. -/
theorem markers_effect_pod :
    ∃ d p, podEntry.marked = .ok d ∧ d.dependencies = ["core/v1.Port"] ∧
      d.schema.extensions.find? Marker.structTypeKey = some (.str "atomic") ∧
      d.schema.properties.find? "labels" = some (Schema.simple "object" "") ∧
      d.schema.properties.find? "ports" = some p ∧
      p.extensions.find? Marker.listMapKeysKey = some (Json.ofStrings ["port", "protocol"]) ∧
      p.extensions.find? "x-order" = some (.str "given") ∧
      { podEntry with propertyMarkers := podEntry.propertyMarkers.erase "volumes" }.marked = .ok d := by
  have hmarked : podEntry.marked.toOption.isSome := by decide +kernel
  obtain ⟨d, hd⟩ := Run.exists_of_isSome hmarked
  obtain ⟨happly, hmarks, hunknown⟩ :=
    markers_effect podEntry (Dict.sorted_ofList _) (Dict.sorted_ofList _)
  obtain ⟨hdependencies, ⟨ms, hms, haccepted, hschema⟩, hproperties⟩ := (hmarks d).1 hd
  -- the pod itself
  obtain rfl : [.structType .granular, .structType .atomic] = ms :=
    Except.ok.inj ((by decide +kernel : Marker.ofLines podEntry.markers = _).symm.trans hms)
  have hpod := (happly podEntry.definition.schema _).2.1 ((happly _ _).1.2 haccepted)
  have hextensions := congrArg Schema.extensions hschema
  -- its ports
  have hlines : ("ports", portLines) ∈ podEntry.propertyMarkers.entries := by decide +kernel
  obtain ⟨ms, hms, hfind⟩ := hproperties.marked _ hlines
  obtain rfl : [.listType .map, .listMapKey "port", .listMapKey "protocol"] = ms :=
    Except.ok.inj ((by decide +kernel : Marker.ofLines portLines = _).symm.trans hms)
  obtain ⟨haccepted', hp⟩ := hfind Marker.portList (by decide +kernel)
  have hports := (happly Marker.portList _).2.1 ((happly _ _).1.2 haccepted')
  refine ⟨d, _, hd, hdependencies, ?_, ?_, hp, hports.mapKeys.trans ?_,
    (hports.others "x-order" (by decide)).trans ?_, hunknown "volumes" (by decide +kernel) d hd⟩
  · refine (congrArg (Dict.find? · Marker.structTypeKey) hextensions).trans (hpod.structType.trans ?_)
    decide +kernel
  · rw [hproperties.unmarked "labels" (by decide +kernel)]
    decide +kernel
  · decide +kernel
  · decide +kernel

end DefinitionEntry

end Swagger
