import Mathlib.Data.List.Induction
import Swagger.Proofs.References
import Swagger.Proofs.SchemaPlaces

/-! # What resolving changes
Resolving a definition changes the references of its schema, each in its place, and nothing else at any
place; and it appends to the dependencies the bare names that are not among them, in the order in which
they are met.

* `Schema.mapRefs` — a schema with a function applied to every reference; `Schema.resolve_fst` — so are
  references resolved.
* `Reference.Noted`, `Reference.exists_noteAll_eq` — what is noted, in the order of the first occurrences.
* `WrittenDefinition.resolve_places` — all that resolving a definition does. -/

namespace Swagger

namespace Schema

/-! ## References changed in their places -/

mutual

/-- Apply a function to every reference. -/
def mapRefs (f : String → String) : Schema → Schema
  | ⟨own, items, allOf, properties, additional⟩ =>
    ⟨{ own with reference := own.reference.map f }, mapRefsItems f items, mapRefsList f allOf,
      ⟨mapRefsProperties f properties.entries⟩, mapRefsAdditional f additional⟩

/-- Apply it to the references in the properties. -/
def mapRefsProperties (f : String → String) : List (String × Schema) → List (String × Schema)
  | [] => []
  | (k, s) :: rest => (k, mapRefs f s) :: mapRefsProperties f rest

/-- Apply it to the references in a list of schemas. -/
def mapRefsList (f : String → String) : List Schema → List Schema
  | [] => []
  | s :: rest => mapRefs f s :: mapRefsList f rest

/-- Apply it to the references in the items. -/
def mapRefsItems (f : String → String) : Option (OneOrMany Schema) → Option (OneOrMany Schema)
  | none => none
  | some (.one s) => some (.one (mapRefs f s))
  | some (.many l) => some (.many (mapRefsList f l))

/-- Apply it to the references in the schema of further properties. -/
def mapRefsAdditional (f : String → String) : Option (FlagOr Schema) → Option (FlagOr Schema)
  | none => none
  | some (.flag b) => some (.flag b)
  | some (.other s) => some (.other (mapRefs f s))

end

variable (f : String → String)

/-- In a list of schemas the function is applied to each. -/
theorem mapRefsList_eq_map (l : List Schema) : mapRefsList f l = l.map (mapRefs f) := by
  induction l with
  | nil => rfl
  | cons s rest ih => rw [mapRefsList, ih, List.map_cons]

/-- In properties it is applied to each, and the names stay. -/
theorem mapRefsProperties_eq_map (l : List (String × Schema)) :
    mapRefsProperties f l = l.map fun e => (e.1, mapRefs f e.2) := by
  induction l with
  | nil => rfl
  | cons e rest ih => rw [mapRefsProperties, ih, List.map_cons]

/-- The function is applied to the reference of the schema itself, and to those of the schemas in it. -/
theorem mapRefs_eq (s : Schema) : s.mapRefs f =
    { own := { s.own with reference := s.own.reference.map f }
      items := s.items.map (OneOrMany.map (mapRefs f))
      allOf := s.allOf.map (mapRefs f)
      properties := s.properties.map (mapRefs f)
      additional := s.additional.map (FlagOr.map (mapRefs f)) } := by
  obtain ⟨own, items, allOf, ⟨properties⟩, additional⟩ := s
  have hitems : mapRefsItems f items = items.map (OneOrMany.map (mapRefs f)) := by
    rcases items with _ | ⟨t | l⟩
    · rfl
    · rfl
    · rw [mapRefsItems, mapRefsList_eq_map]
      rfl
  have hadditional : mapRefsAdditional f additional = additional.map (FlagOr.map (mapRefs f)) := by
    rcases additional with _ | ⟨b | t⟩ <;> rfl
  rw [mapRefs, hitems, hadditional, mapRefsList_eq_map, mapRefsProperties_eq_map]
  rfl

/-- The steps lead to the same places. -/
theorem inner?_mapRefs (s : Schema) (step : Step) :
    (s.mapRefs f).inner? step = (s.inner? step).map (mapRefs f) := by
  obtain ⟨own, items, allOf, properties, additional⟩ := s
  rw [mapRefs_eq]
  cases step with
  | property i => simp only [inner?, Dict.values_map, List.getElem?_map]
  | allOf i => simp only [inner?, List.getElem?_map]
  | items => rcases items with _ | ⟨t | l⟩ <;> rfl
  | item i =>
    rcases items with _ | ⟨t | l⟩
    · rfl
    · rfl
    · exact List.getElem?_map
  | additional => rcases additional with _ | ⟨b | t⟩ <;> rfl

/-- So do the ways. -/
theorem at?_mapRefs (path : List Step) (s : Schema) :
    at? path (s.mapRefs f) = (at? path s).map (mapRefs f) := by
  induction path generalizing s with
  | nil => rfl
  | cons step rest ih =>
    rw [at?, at?, inner?_mapRefs, Option.bind_map, Option.map_bind]
    exact congrArg _ (funext ih)

/-- The reference of the schema itself is changed. -/
@[simp] theorem reference_mapRefs (s : Schema) :
    (s.mapRefs f).own.reference = s.own.reference.map f := by
  rw [mapRefs_eq]

/-- Nothing but references is changed. -/
@[simp] theorem outline_mapRefs (s : Schema) : (s.mapRefs f).outline = s.outline := by
  obtain ⟨own, items, allOf, properties, additional⟩ := s
  have hitems : (items.map (OneOrMany.map (mapRefs f))).map (OneOrMany.map fun _ => empty)
      = items.map (OneOrMany.map fun _ => empty) := by
    rcases items with _ | ⟨t | l⟩ <;>
      simp only [Option.map_none, Option.map_some, OneOrMany.map, List.map_map, Function.comp_def]
  have hadditional : (additional.map (FlagOr.map (mapRefs f))).map (FlagOr.map fun _ => empty)
      = additional.map (FlagOr.map fun _ => empty) := by
    rcases additional with _ | ⟨b | t⟩ <;> rfl
  rw [mapRefs_eq, outline, outline, hitems, hadditional]
  simp only [List.map_map, Dict.map, Function.comp_def]

mutual

/-- Where the function leaves every reference alone, nothing is changed at all. -/
theorem mapRefs_eq_self : ∀ s : Schema, (∀ target ∈ s.refs, f target = target) → mapRefs f s = s
  | ⟨own, items, allOf, ⟨properties⟩, additional⟩, h => by
    simp only [refs, List.forall_mem_append] at h
    obtain ⟨hown, hproperties, hall, hitems, hadditional⟩ := h
    have hreference : own.reference.map f = own.reference := by
      cases htarget : own.reference with
      | none => rfl
      | some target => exact congrArg some (hown target (htarget ▸ List.mem_singleton_self target))
    rw [mapRefs, hreference, mapRefsProperties_eq_self properties hproperties,
      mapRefsList_eq_self allOf hall, mapRefsItems_eq_self items hitems,
      mapRefsAdditional_eq_self additional hadditional]

/-- Properties stay the same where their references do. -/
theorem mapRefsProperties_eq_self : ∀ l : List (String × Schema),
    (∀ target ∈ refsOfProperties l, f target = target) → mapRefsProperties f l = l
  | [], _ => rfl
  | (_, s) :: rest, h => by
    obtain ⟨hs, hrest⟩ := List.forall_mem_append.1 h
    rw [mapRefsProperties, mapRefs_eq_self s hs, mapRefsProperties_eq_self rest hrest]

/-- A list of schemas stays the same where the references in it do. -/
theorem mapRefsList_eq_self : ∀ l : List Schema,
    (∀ target ∈ refsOfList l, f target = target) → mapRefsList f l = l
  | [], _ => rfl
  | s :: rest, h => by
    obtain ⟨hs, hrest⟩ := List.forall_mem_append.1 h
    rw [mapRefsList, mapRefs_eq_self s hs, mapRefsList_eq_self rest hrest]

/-- Items stay the same where their references do. -/
theorem mapRefsItems_eq_self : ∀ items : Option (OneOrMany Schema),
    (∀ target ∈ refsOfItems items, f target = target) → mapRefsItems f items = items
  | none, _ => rfl
  | some (.one s), h => by rw [mapRefsItems, mapRefs_eq_self s h]
  | some (.many l), h => by rw [mapRefsItems, mapRefsList_eq_self l h]

/-- The schema of further properties stays the same where its references do. -/
theorem mapRefsAdditional_eq_self : ∀ additional : Option (FlagOr Schema),
    (∀ target ∈ refsOfAdditional additional, f target = target) →
      mapRefsAdditional f additional = additional
  | none, _ => rfl
  | some (.flag _), _ => rfl
  | some (.other s), h => by rw [mapRefsAdditional, mapRefs_eq_self s h]

end

/-- The reference of a schema itself is pointed, whatever has been noted. -/
theorem resolveOptional_fst (pointer : String → String) (reference : Option String)
    (names : List String) : (Reference.resolveOptional pointer reference names).1
      = reference.map (Reference.pointed pointer) := by
  cases reference with
  | none => rfl
  | some target =>
    rw [Reference.resolveOptional, Reference.resolve, Option.map_some, Reference.pointed]
    cases Reference.isPointer target <;> rfl

section Resolve

variable (pointer : String → String)

mutual

/-- **A resolved schema** is the written one with every bare name pointed, whatever has been noted. -/
theorem resolve_fst : ∀ (s : Schema) (names : List String),
    (resolve pointer s names).1 = s.mapRefs (Reference.pointed pointer)
  | ⟨own, items, allOf, ⟨properties⟩, additional⟩, names => by
    rw [resolve, mapRefs, resolveOptional_fst, resolveProperties_fst, resolveList_fst, resolveItems_fst,
      resolveAdditional_fst]

/-- Resolved properties are the written ones with every bare name pointed. -/
theorem resolveProperties_fst : ∀ (l : List (String × Schema)) (names : List String),
    (resolveProperties pointer l names).1 = mapRefsProperties (Reference.pointed pointer) l
  | [], _ => rfl
  | (_, s) :: rest, names => by
    rw [resolveProperties, mapRefsProperties, resolve_fst s names, resolveProperties_fst rest]

/-- So are the schemas of a resolved list. -/
theorem resolveList_fst : ∀ (l : List Schema) (names : List String),
    (resolveList pointer l names).1 = mapRefsList (Reference.pointed pointer) l
  | [], _ => rfl
  | s :: rest, names => by
    rw [resolveList, mapRefsList, resolve_fst s names, resolveList_fst rest]

/-- So are resolved items. -/
theorem resolveItems_fst : ∀ (items : Option (OneOrMany Schema)) (names : List String),
    (resolveItems pointer items names).1 = mapRefsItems (Reference.pointed pointer) items
  | none, _ => rfl
  | some (.one s), names => by rw [resolveItems, mapRefsItems, resolve_fst s names]
  | some (.many l), names => by rw [resolveItems, mapRefsItems, resolveList_fst l names]

/-- So is the resolved schema of further properties. -/
theorem resolveAdditional_fst : ∀ (additional : Option (FlagOr Schema)) (names : List String),
    (resolveAdditional pointer additional names).1
      = mapRefsAdditional (Reference.pointed pointer) additional
  | none, _ => rfl
  | some (.flag _), _ => rfl
  | some (.other s), names => by rw [resolveAdditional, mapRefsAdditional, resolve_fst s names]

end

end Resolve

end Schema

/-! ## What is noted -/

namespace Reference

/-- The last reference is noted last, if it is a bare name. -/
theorem noteAll_concat (names refs : List String) (target : String) :
    noteAll names (refs ++ [target])
      = if isPointer target then noteAll names refs else note (noteAll names refs) target := by
  rw [noteAll_append]
  rfl

/-- Of two names the one that first occurs earlier among some references. -/
def FirstBefore (refs : List String) (x y : String) : Prop :=
  ∃ before after, refs = before ++ x :: after ∧ x ∉ before ∧ y ∉ before

/-- More references do not change which of two names occurs first. -/
theorem FirstBefore.concat {refs : List String} {x y : String} (h : FirstBefore refs x y)
    (target : String) : FirstBefore (refs ++ [target]) x y := by
  obtain ⟨before, after, rfl, hx, hy⟩ := h
  exact ⟨before, after ++ [target], List.append_assoc before (x :: after) [target], hx, hy⟩

/-- A name that occurs comes before one that does not until later. -/
theorem firstBefore_concat_of_mem {refs : List String} {x target : String} (hx : x ∈ refs)
    (htarget : target ∉ refs) : FirstBefore (refs ++ [target]) x target := by
  obtain ⟨before, after, rfl, hbefore⟩ := List.eq_append_cons_of_mem hx
  exact ⟨before, after ++ [target], List.append_assoc before (x :: after) [target], hbefore,
    fun hin => htarget (List.mem_append_left _ hin)⟩

/-- The bare names among some references that have not been noted: each once, in the order in which they
first occur. -/
structure Noted (names refs noted : List String) : Prop where
  /-- No name stands twice. -/
  nodup : noted.Nodup
  /-- They are the bare names that have not been noted. -/
  mem_iff : ∀ x, x ∈ noted ↔ isPointer x = false ∧ x ∉ names ∧ x ∈ refs
  /-- They stand in order. -/
  order : noted.Pairwise (FirstBefore refs)

variable {names refs noted : List String}

/-- Without references nothing is noted. -/
theorem noted_nil (names : List String) : Noted names [] [] where
  nodup := List.nodup_nil
  mem_iff x := by simp
  order := List.Pairwise.nil

/-- A reference that is a pointer, or noted already, changes nothing. -/
theorem Noted.concat_old (h : Noted names refs noted) {target : String}
    (hold : isPointer target = false → target ∈ names ++ noted) : Noted names (refs ++ [target]) noted where
  nodup := h.nodup
  mem_iff x := by
    rw [h.mem_iff, List.mem_append, List.mem_singleton]
    constructor
    · rintro ⟨hx, hnames, hin⟩
      exact ⟨hx, hnames, Or.inl hin⟩
    · rintro ⟨hx, hnames, hin | rfl⟩
      · exact ⟨hx, hnames, hin⟩
      · exact (h.mem_iff x).1 ((List.mem_append.1 (hold hx)).resolve_left hnames)
  order := h.order.imp fun hxy => hxy.concat target

/-- Another bare name is noted last. -/
theorem Noted.concat_new (h : Noted names refs noted) {target : String}
    (hbare : isPointer target = false) (hnew : target ∉ names ++ noted) :
    Noted names (refs ++ [target]) (noted ++ [target]) where
  nodup := by
    rw [List.mem_append, not_or] at hnew
    exact List.nodup_append'.2 ⟨h.nodup, List.nodup_singleton _, List.disjoint_singleton.2 hnew.2⟩
  mem_iff x := by
    rw [List.mem_append, not_or] at hnew
    rw [List.mem_append, List.mem_append, List.mem_singleton, h.mem_iff]
    constructor
    · rintro (⟨hx, hnames, hin⟩ | rfl)
      · exact ⟨hx, hnames, Or.inl hin⟩
      · exact ⟨hbare, hnew.1, Or.inr rfl⟩
    · rintro ⟨hx, hnames, hin | rfl⟩
      · exact Or.inl ⟨hx, hnames, hin⟩
      · exact Or.inr rfl
  order := by
    rw [List.mem_append, not_or] at hnew
    have htarget : target ∉ refs := fun hin => hnew.2 ((h.mem_iff target).2 ⟨hbare, hnew.1, hin⟩)
    refine List.pairwise_append.2 ⟨h.order.imp fun hxy => hxy.concat target,
      List.pairwise_singleton _ _, fun x hx y hy => ?_⟩
    rw [List.mem_singleton.1 hy]
    exact firstBefore_concat_of_mem ((h.mem_iff x).1 hx).2.2 htarget

/-- **What is noted** of some references is appended to what has been noted. -/
theorem exists_noteAll_eq (names refs : List String) :
    ∃ noted, noteAll names refs = names ++ noted ∧ Noted names refs noted := by
  induction refs using List.reverseRecOn with
  | nil => exact ⟨[], (List.append_nil names).symm, noted_nil names⟩
  | append_singleton refs target ih =>
    obtain ⟨noted, heq, hnoted⟩ := ih
    rw [noteAll_concat, heq]
    cases hbare : isPointer target with
    | true => exact ⟨noted, rfl, hnoted.concat_old fun h => by rw [hbare] at h; cases h⟩
    | false =>
      by_cases hold : target ∈ names ++ noted
      · exact ⟨noted, if_pos (List.contains_iff_mem.2 hold), hnoted.concat_old fun _ => hold⟩
      · refine ⟨noted ++ [target], ?_, hnoted.concat_new hbare hold⟩
        have hcontains : ¬(names ++ noted).contains target = true := fun h =>
          hold (List.contains_iff_mem.1 h)
        exact (if_neg hcontains).trans (List.append_assoc _ _ _)

/-- Among pointers there is nothing to note. -/
theorem noteAll_of_pointers {refs : List String} (h : ∀ target ∈ refs, isPointer target = true)
    (names : List String) : noteAll names refs = names := by
  induction refs with
  | nil => rfl
  | cons target rest ih =>
    obtain ⟨htarget, hrest⟩ := List.forall_mem_cons.1 h
    rw [noteAll, List.foldl_cons, if_pos htarget]
    exact ih hrest

/-- A reference that is pointed is a pointer, where pointers are found. -/
theorem isPointer_pointed {pointer : String → String} (h : ∀ name, isPointer (pointer name) = true)
    (target : String) : isPointer (pointed pointer target) = true := by
  rw [pointed]
  cases htarget : isPointer target with
  | true => exact htarget
  | false => exact h target

end Reference

/-! ## Resolving a definition -/

namespace WrittenDefinition

open Schema (at? MetBefore)
open Reference (isPointer pointed)

/-- A definition that refers to nothing by its bare name is resolved already. -/
theorem resolve_of_pointers (d : WrittenDefinition) (h : ∀ target ∈ d.schema.refs, isPointer target = true)
    (pointer : String → String) : d.resolve pointer = ⟨d.schema, d.dependencies⟩ := by
  have hschema : (d.schema.resolve pointer d.dependencies).1 = d.schema := by
    rw [Schema.resolve_fst]
    exact Schema.mapRefs_eq_self _ _ fun target htarget => if_pos (h target htarget)
  have hnames : (d.schema.resolve pointer d.dependencies).2 = d.dependencies := by
    rw [(Schema.resolves_resolve pointer d.schema d.dependencies).names_eq,
      Reference.noteAll_of_pointers h]
  rw [resolve, hschema, hnames]

/-- **Resolving a definition** points every bare name in its schema, each in its place, and changes
nothing else at any place. To the dependencies it appends, once each, the bare names that are not among
them: a name that is met earlier comes earlier. If all that is found are pointers, there is nothing to be
resolved afterwards. -/
theorem resolve_places (d : WrittenDefinition) (pointer : String → String) :
    (∀ p, (at? p (d.resolve pointer).schema).map (fun s => (s.own.reference, s.outline))
      = (at? p d.schema).map fun s => (s.own.reference.map (pointed pointer), s.outline)) ∧
    (∃ noted, (d.resolve pointer).dependencies = d.dependencies ++ noted ∧ noted.Nodup ∧
      (∀ x, x ∈ noted ↔ isPointer x = false ∧ x ∉ d.dependencies ∧ ∃ p, d.schema.RefersAt p x) ∧
      noted.Pairwise fun x y =>
        ∃ p, d.schema.RefersAt p x ∧ ∀ q, d.schema.RefersAt q y → MetBefore p q) ∧
    ((∀ name, isPointer (pointer name) = true) → ∀ again,
      WrittenDefinition.resolve ⟨(d.resolve pointer).schema, (d.resolve pointer).dependencies⟩ again
        = d.resolve pointer) := by
  refine ⟨fun p => ?_, ?_, fun hpointer again => ?_⟩
  · have hschema : (d.resolve pointer).schema = d.schema.mapRefs (pointed pointer) :=
      Schema.resolve_fst pointer d.schema d.dependencies
    rw [hschema, Schema.at?_mapRefs, Option.map_map]
    refine congrArg (fun f => (at? p d.schema).map f) (funext fun s => ?_)
    simp only [Function.comp_apply, Schema.reference_mapRefs, Schema.outline_mapRefs]
  · obtain ⟨noted, heq, hnoted⟩ := Reference.exists_noteAll_eq d.dependencies d.schema.refs
    have hdependencies : (d.resolve pointer).dependencies = d.dependencies ++ noted :=
      (Schema.resolves_resolve pointer d.schema d.dependencies).names_eq.trans heq
    refine ⟨noted, hdependencies, hnoted.nodup, fun x => ?_, ?_⟩
    · rw [hnoted.mem_iff, Schema.mem_refs_iff]
    · refine (hnoted.nodup.and hnoted.order).imp ?_
      rintro x y ⟨hne, before, after, hsplit, -, hy⟩
      obtain ⟨p, hp, hfirst⟩ := Schema.exists_refersAt_of_refs_eq hsplit
      refine ⟨p, hp, fun q hq => (hfirst q y hq hy).resolve_left ?_⟩
      rintro rfl
      -- one place has one reference
      obtain ⟨s, hs, hx⟩ := hp
      obtain ⟨s', hs', hy'⟩ := hq
      obtain rfl := Option.some.inj (hs.symm.trans hs')
      exact hne (Option.some.inj (hx.symm.trans hy'))
  · refine resolve_of_pointers ⟨_, _⟩ (fun target htarget => ?_) again
    rw [show (d.resolve pointer).schema.refs = d.schema.refs.map (pointed pointer) from
      (Schema.resolves_resolve pointer d.schema d.dependencies).out_eq] at htarget
    obtain ⟨written, -, rfl⟩ := List.mem_map.1 htarget
    exact Reference.isPointer_pointed hpointer written

/-- The pointer to the definition of a name as it is. -/
def definitionAt (name : String) : String := "#/definitions/" ++ name

/-- Pods that build on a base, with a specification that refers to one twice, and to a pointer. -/
def nestedPods : WrittenDefinition where
  schema := {
    own := { reference := some "Base" }
    properties := ⟨[("meta", .reference "Meta"),
      ("spec", { allOf := [.reference "Spec", .reference "#/definitions/Old"] })]⟩
    items := some (.many [.reference "Spec"]) }
  dependencies := ["Meta"]

/-- Every reference to the specification is pointed, and it is noted once. -/
theorem resolve_places_pods :
    (∀ name, isPointer (definitionAt name) = true) ∧
    (at? [.property 1, .allOf 0] (nestedPods.resolve definitionAt).schema).map (·.own.reference)
      = some (some "#/definitions/Spec") ∧
    (at? [.property 1, .allOf 1] (nestedPods.resolve definitionAt).schema).map (·.own.reference)
      = some (some "#/definitions/Old") ∧
    "Spec" ∈ (nestedPods.resolve definitionAt).dependencies ∧
    WrittenDefinition.resolve ⟨(nestedPods.resolve definitionAt).schema,
      (nestedPods.resolve definitionAt).dependencies⟩ definitionAt = nestedPods.resolve definitionAt := by
  have hpointer : ∀ name, isPointer (definitionAt name) = true := fun name => by
    rw [definitionAt, isPointer, String.toList_append]
    rfl
  obtain ⟨hplaces, ⟨noted, hdependencies, -, hmem, -⟩, hagain⟩ := resolve_places nestedPods definitionAt
  have hreference : ∀ p, (at? p (nestedPods.resolve definitionAt).schema).map (·.own.reference)
      = (at? p nestedPods.schema).map (·.own.reference.map (pointed definitionAt)) := fun p => by
    have hplace := congrArg (Option.map Prod.fst) (hplaces p)
    rw [Option.map_map, Option.map_map] at hplace
    exact hplace
  refine ⟨hpointer, (hreference _).trans (by decide), (hreference _).trans (by decide), ?_,
    hagain hpointer definitionAt⟩
  rw [hdependencies, List.mem_append, hmem]
  exact Or.inr ⟨by decide, by decide, [.property 1, .allOf 0], _, rfl, rfl⟩

end WrittenDefinition

end Swagger
