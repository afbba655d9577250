import Swagger.Proofs.BuiltKeys

/-! # Repeated keys in documents
The extensions that the settings add to every definition are not compared with anything, and they are
written behind the keywords of the definition as further members. So a document repeats a key exactly
where one of them stands under a keyword of a definition that is published; everything else in it keeps
its keys apart.

* `Settings.keysDistinct_toJson_iff` — only the definitions of a document can repeat a key.
* `Settings.definition_keysDistinct_iff` — when a definition does.
* `Settings.buildDocument_keysDistinct` — both together, and the case in which no key is repeated. -/

namespace Swagger

namespace Settings

variable {s : Settings} {definitions : Dict String WrittenDefinition} {sets : List RouteSet}
  {m : Manifest} {d : Document}

/-- A document repeats a key exactly where one of its definitions does. -/
theorem keysDistinct_toJson_iff (hs : s.Tidy) (hm : m.MetadataDistinct)
    (hd : WebService.buildDocument (s.toConfig definitions) m.services = .ok d) :
    d.toJson.KeysDistinct ↔
      ∀ k schema, d.definitions.find? k = some schema → schema.toJson.KeysDistinct := by
  obtain ⟨work, draft, h, rfl⟩ := (RouteSet.buildDocument_eq_ok_iff rfl m.routeSets d).1 hd
  have hparts := h.partsDistinct hs fun r hr => hm.plain hr
  rw [hparts.keysDistinct_toJson_iff]
  constructor
  · exact fun hall k schema hk => hall _ (Dict.mem_entries_of_find? hk)
  · exact fun hall e he => hall e.1 e.2 ((Dict.mem_entries_iff hparts.sortedDefinitions e.1 e.2).1 he)

/-- A definition of a document is that of a needed file, and repeats a key exactly where the extensions
of the settings clash with the file's schema. -/
theorem definition_keysDistinct_iff (hs : s.Tidy)
    (hfiles : ∀ name file, definitions.find? name = some file → file.schema.Tidy)
    (hd : RouteSet.buildDocument (s.toConfig definitions) sets = .ok d) {k : String} {schema : Schema}
    (hk : d.definitions.find? k = some schema) :
    ∃ name file, (s.toConfig definitions).NeededBy sets name ∧ definitions.find? name = some file ∧
      k = ModelName.definitionName name ∧
      (schema.toJson.KeysDistinct ↔ ¬file.schema.Clashes s.definitionExtensions) := by
  obtain ⟨name, file, hneeded, hfile, hname, rfl, -⟩ := exists_file_of_definition hd hk
  refine ⟨name, file, hneeded, hfile, hname, ?_⟩
  have htidy := (hfiles name file hfile).resolve (s.toConfig definitions).definitionPointer
    file.dependencies
  have hpublished := htidy.keysDistinct_published_iff hs.definitionExtensions
  rw [Schema.clashes_resolve_iff] at hpublished
  exact hpublished

/-- **When a document repeats a key**: exactly where one of its definitions does. Each definition is that
of a needed file, and it repeats a key exactly where an extension of the settings stands under a keyword
of the file's schema, unless another schema is published in its stead. Metadata of routes, responses,
parameters and whatever else stands in the document never repeat a key. So no key is repeated where no
extension has the name of a keyword. -/
theorem buildDocument_keysDistinct {n : Node} (hs : ofNode? n = some s)
    (hfiles : ∀ name file, definitions.find? name = some file → file.IsRead)
    (hm : m.MetadataDistinct)
    (hd : WebService.buildDocument (s.toConfig definitions) m.services = .ok d) :
    (d.toJson.KeysDistinct ↔
      ∀ k schema, d.definitions.find? k = some schema → schema.toJson.KeysDistinct) ∧
    (∀ k schema, d.definitions.find? k = some schema → ∃ name file,
      (s.toConfig definitions).NeededBy m.routeSets name ∧ definitions.find? name = some file ∧
        k = ModelName.definitionName name ∧
        (schema.toJson.KeysDistinct ↔ ¬file.schema.Clashes s.definitionExtensions)) ∧
    ((∀ k ∈ s.definitionExtensions.keys, k ∉ Schema.fieldNames) → d.toJson.KeysDistinct) := by
  have htidy : s.Tidy := gives_ofNode? n s hs
  have hschemas : ∀ name file, definitions.find? name = some file → file.schema.Tidy :=
    fun name file h => (hfiles name file h).tidy
  have hiff := keysDistinct_toJson_iff htidy hm hd
  refine ⟨hiff, fun k schema hk => definition_keysDistinct_iff htidy hschemas hd hk,
    fun hkeywords => hiff.2 fun k schema hk => ?_⟩
  obtain ⟨name, file, -, -, -, hdistinct⟩ := definition_keysDistinct_iff htidy hschemas hd hk
  -- an extension that clashes has the name of a keyword
  refine hdistinct.2 fun hclash => ?_
  obtain ⟨key, hadded, hwritten⟩ := hclash.exists_key
  exact hkeywords key hadded (file.schema.writtenKeywords_subset hwritten)

/-- Settings that add extensions to every definition. -/
def adding (x : Extensions) : Settings := { definitionExtensions := x }

/-- The same settings as they are written. -/
def addingJson (x : Extensions) : Json := .obj [("definitionExtensions", .ofDict x)]

/-- The name of a group. -/
def grouped : Extensions := Dict.ofList [("x-group", .str "core")]

/-- A description, and the name of a group. -/
def generated : Extensions := Dict.ofList [("description", .str "Generated"), ("x-group", .str "core")]

/-- A pod with a description of its own. -/
def describedFiles : Dict String WrittenDefinition := Dict.ofList
  [("core/v1.Pod", { schema := { own := { description := "A pod", types := ["object"] } } })]

/-- The same definition as it is written. -/
def describedJson : Json :=
  .obj [("schema", .obj [("description", .str "A pod"), ("type", .str "object")])]

/-- The file with a description can be read from a text. -/
theorem isRead_describedFiles : ∀ name file, describedFiles.find? name = some file → file.IsRead := by
  have hread : ∀ e ∈ describedFiles.entries,
      WrittenDefinition.ofNode? (.ofJson describedJson) = some e.2 := by decide +kernel
  exact fun name file h => .plain _ (hread _ (Dict.mem_entries_of_find? h))

/-- The routes for pods have no facts that could repeat a key. -/
theorem metadataDistinct_podManifest : podManifest.MetadataDistinct := by
  have hempty : ∀ e ∈ podManifest.webServices, ∀ r ∈ e.routes, r.metadata.entries = [] := by decide
  intro e he r hr x hx
  rw [hempty e he r hr] at hx
  exact absurd hx List.not_mem_nil

/-- The name of a group is no keyword, so no key is repeated. -/
theorem buildDocument_keysDistinct_pods : ∃ d,
    WebService.buildDocument ((adding grouped).toConfig describedFiles) podManifest.services = .ok d ∧
      d.toJson.KeysDistinct := by
  have hread : ofNode? (.ofJson (addingJson grouped)) = some (adding grouped) := by decide +kernel
  have hbuilt : (WebService.buildDocument ((adding grouped).toConfig describedFiles)
      podManifest.services).toOption.isSome := by decide +kernel
  obtain ⟨d, hd⟩ := Run.exists_of_isSome hbuilt
  have hkeys := buildDocument_keysDistinct hread isRead_describedFiles metadataDistinct_podManifest hd
  exact ⟨d, hd, hkeys.2.2 (by decide)⟩

/-- **A description is written twice** where the settings add one to the definitions. A document with
such a definition is not read again. -/
theorem buildDocument_keysDistinct_described : ∃ d schema,
    ofNode? (.ofJson (addingJson generated)) = some (adding generated) ∧
      (∀ name file, describedFiles.find? name = some file → file.IsRead) ∧
      WebService.buildDocument ((adding generated).toConfig describedFiles) podManifest.services = .ok d ∧
      d.definitions.find? "v1.Pod" = some schema ∧
      schema.toJson = .obj [("description", .str "A pod"), ("type", .str "object"),
        ("description", .str "Generated"), ("x-group", .str "core")] ∧
      ¬d.toJson.KeysDistinct ∧ Schema.ofJson? schema.toJson = none := by
  have hread : ofNode? (.ofJson (addingJson generated)) = some (adding generated) := by decide +kernel
  have hbuilt : (WebService.buildDocument ((adding generated).toConfig describedFiles)
      podManifest.services).toOption.map (fun d => (d.definitions.find? "v1.Pod").map fun schema =>
        (schema.toJson, Schema.ofJson? schema.toJson)) = some (some (.obj [("description", .str "A pod"),
          ("type", .str "object"), ("description", .str "Generated"), ("x-group", .str "core")], none)) := by
    decide +kernel
  obtain ⟨d, hd, hdefinition⟩ := Run.exists_of_map_eq_some hbuilt
  obtain ⟨schema, hschema, hwritten⟩ := Option.map_eq_some_iff.1 hdefinition
  obtain ⟨hjson, hrefused⟩ := Prod.mk.inj hwritten
  refine ⟨d, schema, hread, isRead_describedFiles, hd, hschema, hjson, fun hdistinct => ?_, hrefused⟩
  have hkeys := (keysDistinct_toJson_iff (gives_ofNode? _ _ hread) metadataDistinct_podManifest hd).1
    hdistinct "v1.Pod" schema hschema
  rw [hjson, Json.keysDistinct_obj_iff] at hkeys
  exact absurd hkeys.1 (by decide)

end Settings

end Swagger
