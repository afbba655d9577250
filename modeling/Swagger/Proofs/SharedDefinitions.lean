import Swagger.Proofs.Definitions

/-! # Models that share a definition
A definition is told by its name alone. Where several models have one name, the first that the walk
along the dependency lists comes to has its definition added, and the others are passed over together
with their dependencies, whatever their schemas are. So which definitions a document has is read off
the models that the walk *meets*.

* `Config.firstNamed?` — the first of some models with a name.
* `Definitions.Walk` — the walk, from the models met so far and those still to come to.
* `Definitions.Describes` — a state of the builder by the models that were met.
* `Definitions.exists_visit_of_walk`, `Definitions.exists_walk_of_visit` — a run adds what the walk meets.
* `Config.definitionsDocument_shared` — the definitions of a document when names may be shared. -/

namespace Swagger

/-! ## Models by the names of their definitions -/

namespace Config

variable (c : Config)

/-- The first of some models whose definition has a name. -/
def firstNamed? (models : List String) (k : String) : Option String :=
  models.find? fun n => (c.definitionName n).1 = k

/-- The first model with a name is one of the models and has it. -/
theorem mem_of_firstNamed? {models : List String} {k n : String}
    (h : c.firstNamed? models k = some n) : n ∈ models ∧ (c.definitionName n).1 = k := by
  have hname := List.find?_some h
  exact ⟨List.mem_of_find?_eq_some h, by simpa using hname⟩

/-- There is a first model with a name if there is any. -/
theorem isSome_firstNamed?_iff (models : List String) (k : String) :
    (c.firstNamed? models k).isSome ↔ ∃ n ∈ models, (c.definitionName n).1 = k := by
  simp [firstNamed?]

/-- A model that comes last is the first of its name only if there was none. -/
theorem firstNamed?_concat (models : List String) (m k : String) :
    c.firstNamed? (models ++ [m]) k
      = (c.firstNamed? models k).or (if (c.definitionName m).1 = k then some m else none) := by
  rw [firstNamed?, List.find?_append, firstNamed?]
  by_cases h : (c.definitionName m).1 = k <;> simp [h]

end Config

/-! ## The walk -/

namespace Definitions

variable (c : Config) (known : Dict String Definition)

/-- The schema that is published for a model, if it has a definition. -/
def finalSchema? (model : String) : Option Schema :=
  (known.find? model).map fun d => d.schema.published (c.definitionName model).2

/-- The walk from models that have been met and models to come to next, to all that are met. -/
inductive Walk : List String → List String → List String → Prop where
  /-- There is nothing left to come to. -/
  | done (met : List String) : Walk met [] met
  /-- A model with a name that was met is passed over, and its dependencies with it. -/
  | passed {met rest last : List String} {m : String}
      (hmet : ∃ n ∈ met, (c.definitionName n).1 = (c.definitionName m).1)
      (hrest : Walk met rest last) : Walk met (m :: rest) last
  /-- A model with a new name is met, and its dependencies come next. -/
  | entered {met rest last : List String} {m : String} {d : Definition}
      (hnew : ∀ n ∈ met, (c.definitionName n).1 ≠ (c.definitionName m).1)
      (hd : known.find? m = some d) (hrest : Walk (met ++ [m]) (d.dependencies ++ rest) last) :
      Walk met (m :: rest) last

/-- The definitions that have been added are those of the models that were met. -/
structure Describes (met : List String) (built : Definitions) : Prop where
  /-- Every model that was met has a definition. -/
  exists_definition : ∀ n ∈ met, ∃ d, known.find? n = some d
  /-- Under a name stands the schema of the first model of that name. -/
  find?_eq : ∀ k, built.find? k = (c.firstNamed? met k).bind (finalSchema? c known)

variable {c known}

/-- Before any model was met there are no definitions. -/
theorem describes_empty : Describes c known [] ∅ where
  exists_definition _ hn := nomatch hn
  find?_eq _ := rfl

/-- A name is taken exactly when a model of that name was met. -/
theorem Describes.contains_iff {met : List String} {built : Definitions}
    (h : Describes c known met built) (k : String) :
    built.contains k = true ↔ ∃ n ∈ met, (c.definitionName n).1 = k := by
  rw [Dict.contains, h.find?_eq, ← c.isSome_firstNamed?_iff]
  cases hfirst : c.firstNamed? met k with
  | none => simp
  | some first =>
    -- the first model of the name has a definition, like all that were met
    obtain ⟨d, hd⟩ := h.exists_definition first (c.mem_of_firstNamed? hfirst).1
    simp [finalSchema?, hd]

/-- A name is free if no model that was met has it. -/
theorem Describes.contains_eq_false_iff {met : List String} {built : Definitions}
    (h : Describes c known met built) (k : String) :
    built.contains k = false ↔ ∀ n ∈ met, (c.definitionName n).1 ≠ k := by
  rw [← Bool.not_eq_true, h.contains_iff]
  simp

/-- Adding the definition of a model whose name is new. -/
theorem Describes.insert {met : List String} {built : Definitions} {m : String} {d : Definition}
    (h : Describes c known met built)
    (hnew : ∀ n ∈ met, (c.definitionName n).1 ≠ (c.definitionName m).1)
    (hd : known.find? m = some d) : Describes c known (met ++ [m])
      (built.insert (c.definitionName m).1 (d.schema.published (c.definitionName m).2)) := by
  constructor
  · intro n hn
    rcases List.mem_append.1 hn with hn | hn
    · exact h.exists_definition n hn
    · exact ⟨d, (List.mem_singleton.1 hn) ▸ hd⟩
  · intro k
    rw [Dict.find?_insert, c.firstNamed?_concat]
    by_cases hk : k = (c.definitionName m).1
    · -- no earlier model has the name
      have hnone : c.firstNamed? met k = none := by
        rw [← Option.not_isSome_iff_eq_none, c.isSome_firstNamed?_iff]
        rintro ⟨n, hn, hname⟩
        exact hnew n hn (hname.trans hk)
      rw [if_pos hk, hnone, Option.none_or, if_pos hk.symm, Option.bind_some, finalSchema?, hd]
      rfl
    · rw [if_neg hk, if_neg (Ne.symm hk), Option.or_none, h.find?_eq]

/-- **A walk that comes to its end** is a run that succeeds, and adds what the walk meets. -/
theorem exists_visit_of_walk {met models last : List String} {built : Definitions}
    (hwalk : Walk c known met models last) (h : Describes c known met built) :
    ∃ built', visit c known built models = .ok built' ∧ Describes c known last built' := by
  -- by induction on the walk: the names that are taken are those of the models that it met
  induction hwalk generalizing built with
  | done met => exact ⟨built, rfl, h⟩
  | passed hmet _ ih =>
    rw [visit_cons_taken _ ((h.contains_iff _).2 hmet)]
    exact ih h
  | entered hnew hd _ ih =>
    rw [visit_cons_defined _ ((h.contains_eq_false_iff _).2 hnew) hd]
    exact ih (h.insert hnew hd)

/-- **A run that succeeds** is a walk that comes to its end. -/
theorem exists_walk_of_visit {built built' : Definitions} {met models : List String}
    (hvisit : visit c known built models = .ok built') (h : Describes c known met built) :
    ∃ last, Walk c known met models last := by
  -- by induction along the run, whose state tells at every step which names the walk has met
  induction built, models using visit_induction c known generalizing met with
  | nil built => exact ⟨met, .done met⟩
  | taken built m rest hm ih =>
    rw [visit_cons_taken rest hm] at hvisit
    obtain ⟨last, hlast⟩ := ih hvisit h
    exact ⟨last, .passed ((h.contains_iff _).1 hm) hlast⟩
  | missing built m rest hm hd =>
    rw [visit_cons_missing rest hm hd] at hvisit
    exact nomatch hvisit
  | defined built m rest d hm hd ih =>
    rw [visit_cons_defined rest hm hd] at hvisit
    have hnew := (h.contains_eq_false_iff _).1 hm
    obtain ⟨last, hlast⟩ := ih hvisit (h.insert hnew hd)
    exact ⟨last, .entered hnew hd hlast⟩

/-- What a walk meets, the models that it came to lead to. -/
theorem Walk.ledTo {met models last : List String} (h : Walk c known met models last) {n : String}
    (hn : n ∈ last) : n ∈ met ∨ LedTo known models n := by
  induction h with
  | done met => exact Or.inl hn
  | @passed met rest last m _ _ ih => exact (ih hn).imp_right fun hled => hled.cons m
  | @entered met rest last m d _ hd _ ih =>
    rcases ih hn with hmem | hled
    · rcases List.mem_append.1 hmem with hmem | hmem
      · exact Or.inl hmem
      · -- the model that is met here leads to itself
        obtain rfl := List.mem_singleton.1 hmem
        exact Or.inr ⟨n, List.mem_cons_self, .refl⟩
    · exact Or.inr (hled.of_dependencies hd)

end Definitions

namespace Config

/-- The models that a document with definitions for some models meets: a walk from those listed that are
of no simple type. -/
def Meets (c : Config) (models met : List String) : Prop :=
  Definitions.Walk c c.resolvedDefinitions []
    (models.filter fun m => (SimpleType.ofName? m).isNone) met

/-- The schema that is published for a model of the configuration. -/
def finalSchema? (c : Config) (model : String) : Option Schema :=
  Definitions.finalSchema? c c.resolvedDefinitions model

/-- **Models with one name share one definition.** A document with definitions is built exactly when the
walk from the listed models comes to its end. All that it meets is needed, and under each name stands
the schema of the model of that name that it met, whatever other models have the name. -/
theorem definitionsDocument_shared (c : Config) (hc : c.complete = none) (models : List String) :
    ((∃ d, c.definitionsDocument models = .ok d) ↔ ∃ met, c.Meets models met) ∧
    ∀ d met, c.definitionsDocument models = .ok d → c.Meets models met →
      (∀ n ∈ met, c.Needed models n) ∧
      ∀ k, d.definitions.find? k = (c.firstNamed? met k).bind c.finalSchema? := by
  simp only [definitionsDocument_eq hc, ← ledTo_filter_iff, Meets]
  set listed := models.filter fun m => (SimpleType.ofName? m).isNone
  constructor
  · constructor
    · rintro ⟨d, hd⟩
      cases hrun : Definitions.visit c c.resolvedDefinitions ∅ listed with
      | error e => rw [hrun] at hd; exact nomatch hd
      | ok built => exact Definitions.exists_walk_of_visit hrun Definitions.describes_empty
    · rintro ⟨met, hmet⟩
      obtain ⟨built, hrun, -⟩ := Definitions.exists_visit_of_walk hmet Definitions.describes_empty
      exact ⟨_, by rw [hrun]; rfl⟩
  · intro d met hd hmet
    obtain ⟨built, hrun, hdescribes⟩ :=
      Definitions.exists_visit_of_walk hmet Definitions.describes_empty
    rw [hrun] at hd
    obtain rfl := Except.ok.inj hd
    refine ⟨fun n hn => (hmet.ledTo hn).resolve_left (fun h => nomatch h), fun k => ?_⟩
    rw [Document.shared_definitions, secured_definitions]
    exact hdescribes.find?_eq k

/-- Two kinds of pods, whose canonical names differ in the group alone. -/
def pods : Config where
  definitions := some fun _ => Dict.ofList
    [("apps/v1.Pod", { schema := { own := { description := "A pod of an application" } } }),
      ("core/v1.Pod", { schema := { own := { description := "A group of containers" } } })]

/-- The canonical names of both. -/
def podModels : List String := ["apps/v1.Pod", "core/v1.Pod"]

/-- What is said about a model in its final schema. -/
def finalDescription? (c : Config) (model : String) : Option String :=
  (c.finalSchema? model).map fun s => s.own.description

/-- Both kinds of pods have one name, under which only the first that is asked for is described. -/
theorem definitionsDocument_shared_pods : ∃ d, pods.definitionsDocument podModels = .ok d ∧
    (pods.definitionName "core/v1.Pod").1 = "v1.Pod" ∧
    d.definitions.find? "v1.Pod" = pods.finalSchema? "apps/v1.Pod" := by
  have hnames : ∀ n ∈ podModels, (pods.definitionName n).1 = "v1.Pod" := by decide +kernel
  have hlisted : podModels.filter (fun m => (SimpleType.ofName? m).isNone) = podModels := by
    decide +kernel
  have happs : pods.resolvedDefinitions.find? "apps/v1.Pod"
      = some { schema := { own := { description := "A pod of an application" } } } := rfl
  -- the second model is passed over
  have hmeets : pods.Meets podModels ["apps/v1.Pod"] := by
    rw [Meets, hlisted]
    exact .entered (fun n hn => nomatch hn) happs
      (.passed ⟨"apps/v1.Pod", List.mem_cons_self, by decide +kernel⟩ (.done _))
  obtain ⟨hbuilt, hdefinitions⟩ := definitionsDocument_shared pods rfl podModels
  obtain ⟨d, hd⟩ := hbuilt.2 ⟨_, hmeets⟩
  have hfirst : pods.firstNamed? ["apps/v1.Pod"] "v1.Pod" = some "apps/v1.Pod" := by decide +kernel
  have hfind := (hdefinitions d _ hd hmeets).2 "v1.Pod"
  rw [hfirst] at hfind
  exact ⟨d, hd, hnames _ (List.mem_cons_of_mem _ List.mem_cons_self), hfind⟩

/-- Two needed models may have one name and different schemas without an error. -/
theorem definitionsDocument_shared_silently :
    ¬∀ (c : Config) (models : List String) (d : Document), c.complete = none →
      c.definitionsDocument models = .ok d → ∀ a b, a ≠ b → c.Needed models a → c.Needed models b →
        (c.definitionName a).1 = (c.definitionName b).1 → c.finalSchema? a = c.finalSchema? b := by
  intro h
  have hbuilt : (pods.definitionsDocument podModels).toOption.isSome := by decide +kernel
  obtain ⟨d, hd⟩ := Run.exists_of_isSome hbuilt
  have hneeded : ∀ n ∈ podModels, pods.Needed podModels n := by
    intro n hn
    have hall : ∀ n ∈ podModels, SimpleType.ofName? n = none := by decide +kernel
    exact ⟨n, hn, hall n hn, .refl⟩
  have hsame := h pods podModels d rfl hd "apps/v1.Pod" "core/v1.Pod" (by decide)
    (hneeded _ (by decide)) (hneeded _ (by decide)) (by decide +kernel)
  have hdescriptions :
      pods.finalDescription? "apps/v1.Pod" ≠ pods.finalDescription? "core/v1.Pod" := by
    decide +kernel
  exact hdescriptions (congrArg (Option.map fun s : Schema => s.own.description) hsame)

end Config

end Swagger
