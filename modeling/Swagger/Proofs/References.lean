import Mathlib.Data.List.Forall2
import Swagger.Manifest
import Swagger.Proofs.NeededModels
import Swagger.Settings

/-! # Resolved references
Resolving walks a schema in the order of its references. Each one comes out as it is told on its own,
and the names that are noted are those of the bare references, so whoever adds the models that a
resolved definition depends on adds the definitions that its pointers point at.

* `Reference.pointed`, `Reference.noteAll` — one reference, and what is noted of several.
* `Schema.resolves_resolve` — a resolved schema has the references of the written one, each pointed.
* `Document.Resolves` — what stands in a document for a written reference.
* `Settings.definitions_origin` — the file behind each definition of a document.
* `Settings.buildDocument_references` — no bare reference is left in the definitions. -/

namespace Swagger

/-! ## One reference after the other -/

namespace Reference

/-- A reference with a pointer in the place of a bare name. -/
def pointed (pointer : String → String) (target : String) : String :=
  if isPointer target then target else pointer target

/-- Note the bare names among some references. -/
def noteAll (names refs : List String) : List String :=
  refs.foldl (fun names target => if isPointer target then names else note names target) names

/-- Without references nothing is noted. -/
@[simp] theorem noteAll_nil (names : List String) : noteAll names [] = names := rfl

/-- References may be noted in two parts. -/
theorem noteAll_append (names refs more : List String) :
    noteAll names (refs ++ more) = noteAll (noteAll names refs) more :=
  List.foldl_append

/-- After a name was noted, it is there with those before it. -/
theorem mem_note_iff (names : List String) (name x : String) :
    x ∈ note names name ↔ x ∈ names ∨ x = name := by
  unfold note
  split
  · next h =>
    have hname : name ∈ names := by simpa using h
    exact ⟨Or.inl, fun hx => hx.elim id fun e => e ▸ hname⟩
  · simp

/-- What is noted in the end are the names that were, and the bare ones. -/
theorem mem_noteAll_iff (names refs : List String) (x : String) :
    x ∈ noteAll names refs ↔ x ∈ names ∨ x ∈ refs ∧ isPointer x = false := by
  induction refs generalizing names with
  | nil => simp
  | cons target rest ih =>
    rw [noteAll, List.foldl_cons, ← noteAll, ih, List.mem_cons]
    cases h : isPointer target with
    | true =>
      -- a pointer is not noted
      have hne : isPointer x = false → x ≠ target := by
        rintro hx rfl
        exact Bool.noConfusion (h.symm.trans hx)
      simp only [if_true]
      tauto
    | false =>
      have hbare : x = target → isPointer x = false := fun e => e ▸ h
      simp only [Bool.false_eq_true, if_false, mem_note_iff]
      tauto

/-- From some references and the names noted before come the pointed ones, and the names noted after. -/
structure Resolves (pointer : String → String) (refs names out names' : List String) : Prop where
  /-- Every reference is pointed, in its place. -/
  out_eq : out = refs.map (pointed pointer)
  /-- The bare ones are noted. -/
  names_eq : names' = noteAll names refs

variable {pointer : String → String}

/-- Without references there is nothing to be resolved. -/
theorem Resolves.nil (names : List String) : Resolves pointer [] names [] names := ⟨rfl, rfl⟩

/-- References are resolved one after the other. -/
theorem Resolves.append {refs refs' names names' names'' out out' : List String}
    (h : Resolves pointer refs names out names') (h' : Resolves pointer refs' names' out' names'') :
    Resolves pointer (refs ++ refs') names (out ++ out') names'' := by
  obtain ⟨rfl, rfl⟩ := h
  obtain ⟨rfl, rfl⟩ := h'
  exact ⟨List.map_append.symm, (noteAll_append names refs refs').symm⟩

/-- The reference of a schema itself is resolved, if there is one. -/
theorem resolves_resolveOptional (pointer : String → String) (reference : Option String)
    (names : List String) :
    Resolves pointer reference.toList names (resolveOptional pointer reference names).1.toList
      (resolveOptional pointer reference names).2 := by
  cases reference with
  | none => exact .nil names
  | some target =>
    rw [resolveOptional, resolve]
    cases h : isPointer target <;> simp [Resolves.mk, pointed, noteAll, h]

end Reference

open Reference (Resolves pointed noteAll)

/-! ## Schemas -/

namespace Schema

variable (pointer : String → String)

mutual

/-- **A resolved schema** has the references of the written one, each pointed, and the bare ones are
noted. -/
theorem resolves_resolve : ∀ (s : Schema) (names : List String),
    Resolves pointer s.refs names (resolve pointer s names).1.refs (resolve pointer s names).2
  | ⟨own, items, allOf, ⟨properties⟩, additional⟩, names => by
    -- the parts are walked in the order in which their references stand
    refine (Reference.resolves_resolveOptional pointer own.reference names).append ?_
    refine (resolves_resolveProperties properties _).append ?_
    refine (resolves_resolveList allOf _).append ?_
    refine (resolves_resolveItems items _).append ?_
    exact resolves_resolveAdditional additional _

/-- The references in properties are resolved. -/
theorem resolves_resolveProperties : ∀ (l : List (String × Schema)) (names : List String),
    Resolves pointer (refsOfProperties l) names (refsOfProperties (resolveProperties pointer l names).1)
      (resolveProperties pointer l names).2
  | [], names => .nil names
  | (_, s) :: rest, names =>
    (resolves_resolve s names).append (resolves_resolveProperties rest _)

/-- The references in a list of schemas are resolved. -/
theorem resolves_resolveList : ∀ (l : List Schema) (names : List String),
    Resolves pointer (refsOfList l) names (refsOfList (resolveList pointer l names).1)
      (resolveList pointer l names).2
  | [], names => .nil names
  | s :: rest, names => (resolves_resolve s names).append (resolves_resolveList rest _)

/-- The references in items are resolved. -/
theorem resolves_resolveItems : ∀ (items : Option (OneOrMany Schema)) (names : List String),
    Resolves pointer (refsOfItems items) names (refsOfItems (resolveItems pointer items names).1)
      (resolveItems pointer items names).2
  | none, names => .nil names
  | some (.one s), names => resolves_resolve s names
  | some (.many l), names => resolves_resolveList l names

/-- The references in the schema of further properties are resolved. -/
theorem resolves_resolveAdditional : ∀ (additional : Option (FlagOr Schema)) (names : List String),
    Resolves pointer (refsOfAdditional additional) names
      (refsOfAdditional (resolveAdditional pointer additional names).1)
      (resolveAdditional pointer additional names).2
  | none, names => .nil names
  | some (.flag _), names => .nil names
  | some (.other s), names => resolves_resolve s names

end

/-- Resolving leaves the extensions alone. -/
@[simp] theorem extensions_resolve (s : Schema) (names : List String) :
    (resolve pointer s names).1.extensions = s.extensions := by
  cases s
  rw [resolve]
  rfl

/-- There are no references in extensions. -/
@[simp] theorem refs_withExtensions (s : Schema) (x : Extensions) :
    (s.withExtensions x).refs = s.refs := by
  cases s
  rw [withExtensions, withOwn, refs, refs]

/-- What reads as a schema under the replacement key is published. -/
theorem published_of_replaced {s t : Schema} {added : Extensions} {value : Json}
    (hvalue : (s.extensions.union added).find? replacementKey = some value)
    (ht : ofJson? value = some t) : s.published added = t := by
  simp only [published, hvalue, ht]

/-- Where nothing does, the schema is published itself, with all extensions but that one. -/
theorem published_of_unreplaced {s : Schema} {added : Extensions}
    (h : ∀ value, (s.extensions.union added).find? replacementKey = some value → ofJson? value = none) :
    s.published added = s.withExtensions ((s.extensions.union added).erase replacementKey) := by
  simp only [published]
  cases hvalue : (s.extensions.union added).find? replacementKey with
  | none => rw [Dict.erase_of_not_mem ((Dict.find?_eq_none_iff _ _).1 hvalue)]
  | some value => simp only [h value hvalue]

/-- A schema that is published is the one in its stead, or refers to what the schema itself does. -/
theorem published_cases (s : Schema) (added : Extensions) :
    (∃ value, (s.extensions.union added).find? replacementKey = some value ∧
      ofJson? value = some (s.published added)) ∨
    ((∀ value, (s.extensions.union added).find? replacementKey = some value → ofJson? value = none) ∧
      (s.published added).refs = s.refs) := by
  by_cases h : ∀ value, (s.extensions.union added).find? replacementKey = some value →
      ofJson? value = none
  · exact Or.inr ⟨h, by rw [published_of_unreplaced h, refs_withExtensions]⟩
  · push Not at h
    obtain ⟨value, hvalue, hread⟩ := h
    obtain ⟨t, ht⟩ := Option.ne_none_iff_exists'.1 hread
    exact Or.inl ⟨value, hvalue, by rw [published_of_replaced hvalue ht, ht]⟩

end Schema

/-! ## The definitions of a document -/

namespace Document

/-- A reference points at the definition of a model, which is there. -/
def PointsAt (d : Document) (ref model : String) : Prop :=
  ModelName.definitionName model ∈ d.definitions.keys ∧
    ref = "#/definitions/" ++ Pointer.escape (ModelName.definitionName model)

/-- What stands in a document for a written reference: a pointer as it is, and for a bare name the
pointer to the definition of that model. -/
def Resolves (d : Document) (written ref : String) : Prop :=
  if Reference.isPointer written then ref = written else d.PointsAt ref written

/-- A reference to a definition is no bare name. -/
theorem PointsAt.isPointer {d : Document} {ref model : String} (h : d.PointsAt ref model) :
    Reference.isPointer ref = true := by
  rw [h.2, Reference.isPointer, String.toList_append]
  rfl

/-- What stands for a written reference is no bare name. -/
theorem Resolves.isPointer {d : Document} {written ref : String} (h : d.Resolves written ref) :
    Reference.isPointer ref = true := by
  unfold Resolves at h
  split at h
  · next hwritten => rw [h, hwritten]
  · exact h.isPointer

end Document

/-- How a schema of a document comes from a definition as it is written, given the extensions that
naming adds. -/
inductive WrittenDefinition.PublishedIn (file : WrittenDefinition) (added : Extensions) (d : Document)
    (schema : Schema) : Prop where
  /-- What reads as a schema under the replacement key is published in its stead. -/
  | replaced (value : Json)
      (hvalue : (file.schema.extensions.union added).find? Schema.replacementKey = some value)
      (hschema : Schema.ofJson? value = some schema)
  /-- Otherwise its references are resolved, each in its place. -/
  | resolved
      (hnone : ∀ value, (file.schema.extensions.union added).find? Schema.replacementKey = some value →
        Schema.ofJson? value = none)
      (hrefs : List.Forall₂ d.Resolves file.schema.refs schema.refs)

namespace Settings

variable {s : Settings} {definitions : Dict String WrittenDefinition} {sets : List RouteSet}
  {d : Document}

/-- Each definition of a document is that of a needed file, resolved and published, and the models that
this depends on have definitions as well. -/
theorem exists_file_of_definition (hd : RouteSet.buildDocument (s.toConfig definitions) sets = .ok d)
    {k : String} {schema : Schema} (hk : d.definitions.find? k = some schema) : ∃ name file,
      (s.toConfig definitions).NeededBy sets name ∧ definitions.find? name = some file ∧
      k = ModelName.definitionName name ∧
      schema = (file.resolve (s.toConfig definitions).definitionPointer).schema.published
        s.definitionExtensions ∧
      ∀ x ∈ (file.resolve (s.toConfig definitions).definitionPointer).dependencies,
        ((s.toConfig definitions).definitionName x).1 ∈ d.definitions.keys := by
  obtain ⟨work, draft, h, rfl⟩ := (RouteSet.buildDocument_eq_ok_iff rfl sets d).1 hd
  rw [Document.shared_definitions, Config.inlineDocument_definitions] at hk ⊢
  obtain ⟨name, x, hneeded, hx, hname, hschema, hdeps⟩ := h.definitions_origin hk
  -- the definition of the model is the resolved one of its file
  rw [Config.resolvedDefinitions] at hx
  obtain ⟨file, hfile, rfl⟩ := Option.map_eq_some_iff.1 ((Dict.find?_map _ _ _).symm.trans hx)
  exact ⟨name, file, hneeded, hfile, hname, hschema, hdeps⟩

/-- **The file behind a definition**: each definition of a document comes from that of a model which the
services need. -/
theorem definitions_origin (hd : RouteSet.buildDocument (s.toConfig definitions) sets = .ok d)
    {k : String} {schema : Schema} (hk : d.definitions.find? k = some schema) :
    ∃ name file, (s.toConfig definitions).NeededBy sets name ∧ definitions.find? name = some file ∧
      k = ModelName.definitionName name ∧ file.PublishedIn s.definitionExtensions d schema := by
  set c := s.toConfig definitions
  obtain ⟨name, file, hneeded, hfile, hname, rfl, hdeps⟩ := exists_file_of_definition hd hk
  refine ⟨name, file, hneeded, hfile, hname, ?_⟩
  obtain ⟨hout, hnames⟩ := Schema.resolves_resolve c.definitionPointer file.schema file.dependencies
  have hextensions := Schema.extensions_resolve c.definitionPointer file.schema file.dependencies
  obtain ⟨value, hvalue, hschema⟩ | ⟨hnone, hrefs⟩ := Schema.published_cases
    (file.schema.resolve c.definitionPointer file.dependencies).1 s.definitionExtensions
  · exact .replaced value (hextensions ▸ hvalue) hschema
  · refine .resolved (hextensions ▸ hnone) ?_
    have hpointed : ((file.resolve c.definitionPointer).schema.published s.definitionExtensions).refs
        = file.schema.refs.map (pointed c.definitionPointer) := hrefs.trans hout
    rw [hpointed, List.forall₂_map_right_iff, List.forall₂_same]
    intro written hwritten
    rw [Document.Resolves, Reference.pointed]
    split
    · rfl
    · next hbare =>
      -- a bare name was noted, so the definition of that model is there
      refine ⟨hdeps written ?_, rfl⟩
      rw [WrittenDefinition.resolve, hnames, Reference.mem_noteAll_iff]
      exact Or.inr ⟨hwritten, by simpa using hbare⟩

/-- **No bare reference is left**: where nothing stands under the replacement key, each definition of a
document is that of a file with its references resolved. One that begins with the mark of a pointer
stands as it was written, and a bare name has become the pointer to a definition of the document. -/
theorem buildDocument_references {m : Manifest}
    (hfiles : ∀ name file, definitions.find? name = some file →
      Schema.replacementKey ∉ file.schema.extensions.keys)
    (hadded : Schema.replacementKey ∉ s.definitionExtensions.keys)
    (hd : WebService.buildDocument (s.toConfig definitions) m.services = .ok d) {k : String}
    {schema : Schema} (hk : d.definitions.find? k = some schema) :
    ∃ name file, definitions.find? name = some file ∧ k = ModelName.definitionName name ∧
      List.Forall₂ d.Resolves file.schema.refs schema.refs ∧
      ∀ ref ∈ schema.refs, Reference.isPointer ref = true := by
  obtain ⟨name, file, -, hfile, hname, hpublished⟩ := definitions_origin hd hk
  -- so there is nothing to be published instead
  have hnone : (file.schema.extensions.union s.definitionExtensions).find? Schema.replacementKey
      = none := by
    rw [Dict.find?_eq_none_iff, Dict.mem_keys_union, not_or]
    exact ⟨hfiles name file hfile, hadded⟩
  cases hpublished with
  | replaced value hvalue _ => exact nomatch hnone.symm.trans hvalue
  | resolved _ hrefs =>
    refine ⟨name, file, hfile, hname, hrefs, fun ref href => ?_⟩
    obtain ⟨written, -, hwritten⟩ := Run.exists_of_forall₂_left hrefs.flip href
    exact Document.Resolves.isPointer hwritten

/-- The properties of a pod: what it is made of, and an owner that no file defines. -/
def podProperties : Dict String Schema := Dict.ofList
  [("spec", Schema.reference "core/v1.PodSpec"), ("owner", Schema.reference "#/definitions/Owner")]

/-- What a pod is made of refers back to pods, and to itself. -/
def podFiles : Dict String WrittenDefinition := Dict.ofList
  [("core/v1.Pod", { schema := { properties := podProperties } }),
    ("core/v1.PodSpec", { schema :=
      { items := some (.many [Schema.reference "core/v1.Pod"])
        additional := some (.other (Schema.reference "core/v1.PodSpec")) } })]

/-- A service that lists pods. -/
def podManifest : Manifest where
  webServices := [{ rootPath := "/pods", routes :=
    [{ method := "GET", path := "/", operation := "listPods", writes := some "core/v1.Pod" }] }]

/-- Both references of a pod are pointers in the end. -/
theorem buildDocument_references_pods : ∃ d schema,
    WebService.buildDocument (toConfig {} podFiles) podManifest.services = .ok d ∧
      d.definitions.find? "v1.Pod" = some schema ∧ schema.refs.length = 2 ∧
      ∀ ref ∈ schema.refs, Reference.isPointer ref = true := by
  have hentries : ∀ e ∈ podFiles.entries, Schema.replacementKey ∉ e.2.schema.extensions.keys ∧
      e.2.schema.refs.length = 2 := by decide +kernel
  have hbuilt : (WebService.buildDocument (toConfig {} podFiles) podManifest.services).toOption.map
      (fun d => (d.definitions.find? "v1.Pod").isSome) = some true := by decide +kernel
  obtain ⟨d, hd, hfound⟩ := Run.exists_of_map_eq_some hbuilt
  obtain ⟨schema, hschema⟩ := Option.isSome_iff_exists.1 hfound
  obtain ⟨name, file, hfile, -, hrefs, hpointers⟩ := buildDocument_references
    (fun name file hfile => (hentries _ (Dict.mem_entries_of_find? hfile)).1)
    List.not_mem_nil hd hschema
  refine ⟨d, schema, hd, hschema, ?_, hpointers⟩
  rw [← hrefs.length_eq]
  exact (hentries _ (Dict.mem_entries_of_find? hfile)).2

end Settings

end Swagger
