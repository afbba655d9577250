import Mathlib.Data.List.Nodup
import Swagger.Proofs.Definitions

/-! # The calls that add a definition
Adding a model's definition calls itself for every dependency, and the calls share what has been added so
far. A call is told here by what it leaves behind, also when it fails: the definitions, and in which order
they were inserted. No bound on the depth is needed: whatever the dependencies are, and whatever models
share a name, the calls come to an end.

* `Definitions.Calls` — calls for some models, one after the other, as they are made.
* `Definitions.exists_calls`, `Definitions.Calls.unique` — the calls come to an end, and to one only.
* `Definitions.Calls.visit_eq` — which is that of `Definitions.add`.
* `Definitions.Outcome.Sound` — what calls leave behind; `Definitions.Calls.sound` is the induction over
  them.
* `Definitions.add_calls` — all of this for the call for one model. -/

namespace Swagger

namespace Definitions

/-- What calls leave behind. -/
structure Outcome where
  /-- The definitions. -/
  built : Definitions
  /-- The models whose definitions were inserted, in order. -/
  inserted : List String
  /-- The model without a definition that made the calls fail, if any did. -/
  missing : Option String

/-- The result of a call. -/
def Outcome.result (o : Outcome) : Except BuildError Definitions :=
  match o.missing with
  | none => .ok o.built
  | some m => .error (.missingDefinition m)

variable (c : Config) (known : Dict String Definition)

/-- The definitions with that of a model inserted. -/
def withDefinition (built : Definitions) (m : String) (d : Definition) : Definitions :=
  built.insert (c.definitionName m).1 (d.schema.published (c.definitionName m).2)

/-- **Calls for some models**, one after the other, until one fails. -/
inductive Calls : Definitions → List String → Outcome → Prop
  /-- There is no model left. -/
  | nil (built : Definitions) : Calls built [] ⟨built, [], none⟩
  /-- The name of the model is taken. -/
  | taken {built : Definitions} {m : String} {rest : List String} {o : Outcome}
      (hm : built.contains (c.definitionName m).1 = true) (next : Calls built rest o) :
      Calls built (m :: rest) o
  /-- The model has no definition. -/
  | missing {built : Definitions} {m : String} {rest : List String}
      (hm : built.contains (c.definitionName m).1 = false) (hd : known.find? m = none) :
      Calls built (m :: rest) ⟨built, [], some m⟩
  /-- The definition of the model is inserted, and a call for one of its dependencies fails. -/
  | failed {built : Definitions} {m x : String} {rest : List String} {d : Definition} {o : Outcome}
      (hm : built.contains (c.definitionName m).1 = false) (hd : known.find? m = some d)
      (inner : Calls (withDefinition c built m d) d.dependencies o) (hx : o.missing = some x) :
      Calls built (m :: rest) ⟨o.built, m :: o.inserted, some x⟩
  /-- The definition of the model is inserted, and its dependencies are gone through. -/
  | added {built : Definitions} {m : String} {rest : List String} {d : Definition} {o o' : Outcome}
      (hm : built.contains (c.definitionName m).1 = false) (hd : known.find? m = some d)
      (inner : Calls (withDefinition c built m d) d.dependencies o) (hx : o.missing = none)
      (next : Calls o.built rest o') :
      Calls built (m :: rest) ⟨o'.built, m :: o.inserted ++ o'.inserted, o'.missing⟩

variable {c known} {built : Definitions} {models : List String} {o o' : Outcome}

/-! ## The calls come to an end -/

/-- Calls leave alone what was there. -/
theorem Calls.extends (h : Calls c known built models o) : Extends built o.built := by
  induction h with
  | nil built => exact .refl built
  | taken _ _ ih => exact ih
  | missing _ _ => exact .refl _
  | failed hm _ _ _ ih => exact (extends_insert hm _).trans ih
  | added hm _ _ _ _ ih ihnext => exact ((extends_insert hm _).trans ih).trans ihnext

variable (c known) in
/-- **The calls come to an end.** When a definition has been inserted, fewer models remain for the calls for
its dependencies, and no more for those that come after. -/
theorem exists_calls (built : Definitions) (models : List String) :
    ∃ o, Calls c known built models o := by
  induction hcard : (remaining c known built).card using Nat.strong_induction_on
    generalizing built models with
  | _ n ih =>
    induction models with
    | nil => exact ⟨_, .nil built⟩
    | cons m rest ihrest =>
      cases hm : built.contains (c.definitionName m).1 with
      | true =>
        obtain ⟨o, ho⟩ := ihrest
        exact ⟨o, .taken hm ho⟩
      | false =>
        cases hd : known.find? m with
        | none => exact ⟨_, .missing hm hd⟩
        | some d =>
          have hlt := remaining_insert_lt c known hd hm (d.schema.published (c.definitionName m).2)
          obtain ⟨o, ho⟩ := ih _ (hcard ▸ hlt) _ d.dependencies rfl
          cases hx : o.missing with
          | some x => exact ⟨_, .failed hm hd ho hx⟩
          | none =>
            have hle := remaining_card_le c known ho.extends
            obtain ⟨o', ho'⟩ := ih _ (hcard ▸ hle.trans_lt hlt) o.built rest rfl
            exact ⟨_, .added hm hd ho hx ho'⟩

/-- Calls come to one end only. -/
theorem Calls.unique (h : Calls c known built models o) (h' : Calls c known built models o') :
    o = o' := by
  induction h generalizing o' with
  | nil built =>
    cases h'
    rfl
  | taken hm next ih =>
    cases h' with
    | taken _ next' => exact ih next'
    | _ => simp_all
  | missing hm hd =>
    cases h' with
    | missing => rfl
    | _ => simp_all
  | failed hm hd inner hx ih =>
    cases h' with
    | failed _ hd' inner' hx' =>
      obtain rfl := Option.some.inj (hd.symm.trans hd')
      obtain rfl := ih inner'
      obtain rfl := Option.some.inj (hx.symm.trans hx')
      rfl
    | added _ hd' inner' hx' =>
      obtain rfl := Option.some.inj (hd.symm.trans hd')
      obtain rfl := ih inner'
      rw [hx] at hx'
      cases hx'
    | _ => simp_all
  | added hm hd inner hx next ih ihnext =>
    cases h' with
    | failed _ hd' inner' hx' =>
      obtain rfl := Option.some.inj (hd.symm.trans hd')
      obtain rfl := ih inner'
      rw [hx] at hx'
      cases hx'
    | added _ hd' inner' _ next' =>
      obtain rfl := Option.some.inj (hd.symm.trans hd')
      obtain rfl := ih inner'
      obtain rfl := ihnext next'
      rfl
    | _ => simp_all

/-- Calls that did not fail come to their definitions. -/
theorem Outcome.result_of_missing_eq_none (h : o.missing = none) : o.result = .ok o.built := by
  rw [result, h]

/-- Calls that failed come to the model without a definition. -/
theorem Outcome.result_of_missing_eq_some {x : String} (h : o.missing = some x) :
    o.result = .error (.missingDefinition x) := by
  rw [result, h]

/-- **What calls come to** is what a run comes to that is told without a bound. -/
theorem Calls.visit_eq (h : Calls c known built models o) :
    visit c known built models = o.result := by
  induction h with
  | nil built => rfl
  | taken hm _ ih => rw [visit_cons_taken _ hm, ih]
  | missing hm hd => exact visit_cons_missing _ hm hd
  | @failed built m x rest d o hm hd _ hx ih =>
    rw [withDefinition, visit] at ih
    rw [visit_cons_defined _ hm hd, visit, List.foldlM_append, ih, Outcome.result_of_missing_eq_some hx]
    rfl
  | @added built m rest d o o' hm hd _ hx _ ih ihnext =>
    rw [withDefinition, visit] at ih
    rw [visit_cons_defined _ hm hd, visit, List.foldlM_append, ih, Outcome.result_of_missing_eq_none hx]
    exact ihnext

/-! ## What calls leave behind -/

/-- The names of the definitions that were inserted, in order. -/
def Outcome.names (c : Config) (o : Outcome) : List String :=
  o.inserted.map fun n => (c.definitionName n).1

variable (c known) in
/-- **What calls for some models leave behind**: all that was there, and what they inserted, under free
names of which none is used twice. -/
structure Outcome.Sound (built : Definitions) (models : List String) (o : Outcome) : Prop where
  /-- All that was there stays as it was. -/
  kept : Extends built o.built
  /-- What is there was there, or was inserted. -/
  mem_keys_iff : ∀ k, k ∈ o.built.keys ↔ k ∈ built.keys ∨ k ∈ o.names c
  /-- No name is used twice. -/
  nodup : (o.names c).Nodup
  /-- No name was taken. -/
  free : ∀ k ∈ o.names c, k ∉ built.keys
  /-- The definitions of the models that were inserted are there. -/
  definition : ∀ n ∈ o.inserted, ∃ d, known.find? n = some d ∧
    o.built.find? (c.definitionName n).1 = some (d.schema.published (c.definitionName n).2)
  /-- On success the names of the models are taken. -/
  listed : o.missing = none → ∀ m ∈ models, (c.definitionName m).1 ∈ o.built.keys
  /-- On success so are the names of all dependencies of what was inserted. -/
  closed : o.missing = none → ∀ n ∈ o.inserted, ∀ d, known.find? n = some d →
    ∀ x ∈ d.dependencies, (c.definitionName x).1 ∈ o.built.keys
  /-- A model that made the calls fail has no definition, and its name is free. -/
  missing : ∀ x, o.missing = some x → known.find? x = none ∧ (c.definitionName x).1 ∉ o.built.keys

/-- A name that is taken stays so. -/
theorem Extends.mem_keys {built built' : Definitions} (h : Extends built built') {k : String}
    (hk : k ∈ built.keys) : k ∈ built'.keys :=
  (Dict.contains_iff_mem_keys _ _).1 (h.contains ((Dict.contains_iff_mem_keys _ _).2 hk))

/-- A free name is none of the keys. -/
theorem not_mem_keys_of_contains {k : String} (h : built.contains k = false) : k ∉ built.keys := by
  rwa [Dict.contains_eq_false_iff, Dict.find?_eq_none_iff] at h

/-- Where nothing is inserted, what matters is whether the calls failed. -/
theorem Outcome.Sound.of_inserted_eq_nil {missing : Option String}
    (hlisted : missing = none → ∀ m ∈ models, (c.definitionName m).1 ∈ built.keys)
    (hmissing : ∀ x, missing = some x → known.find? x = none ∧ (c.definitionName x).1 ∉ built.keys) :
    Outcome.Sound c known built models ⟨built, [], missing⟩ where
  kept := .refl built
  mem_keys_iff _ := (or_iff_left List.not_mem_nil).symm
  nodup := List.nodup_nil
  free _ hk := absurd hk List.not_mem_nil
  definition _ hn := absurd hn List.not_mem_nil
  listed := hlisted
  closed _ _ hn := absurd hn List.not_mem_nil
  missing := hmissing

/-- A definition that is inserted takes its name. -/
theorem mem_keys_withDefinition (built : Definitions) (m : String) (d : Definition) (k : String) :
    k ∈ (withDefinition c built m d).keys ↔ k = (c.definitionName m).1 ∨ k ∈ built.keys :=
  Dict.mem_keys_insert _ _ _ _

/-- A definition is inserted, and the calls for the dependencies follow. -/
theorem Outcome.Sound.insert {m : String} {d : Definition}
    (hm : built.contains (c.definitionName m).1 = false) (hd : known.find? m = some d)
    (h : Outcome.Sound c known (withDefinition c built m d) d.dependencies o) :
    Outcome.Sound c known built [m] ⟨o.built, m :: o.inserted, o.missing⟩ where
  kept := (extends_insert hm _).trans h.kept
  mem_keys_iff k := by
    rw [h.mem_keys_iff, mem_keys_withDefinition]
    simp only [Outcome.names, List.map_cons, List.mem_cons]
    tauto
  nodup := by
    refine List.nodup_cons.2 ⟨fun hin => ?_, h.nodup⟩
    exact h.free _ hin ((mem_keys_withDefinition _ _ _ _).2 (Or.inl rfl))
  free := by
    refine List.forall_mem_cons.2 ⟨not_mem_keys_of_contains hm, fun k hk hin => ?_⟩
    exact h.free k hk ((mem_keys_withDefinition _ _ _ _).2 (Or.inr hin))
  definition := by
    refine List.forall_mem_cons.2 ⟨⟨d, hd, h.kept ?_⟩, h.definition⟩
    exact Dict.find?_insert_self _ _ _
  listed _ := by
    refine List.forall_mem_singleton.2 (h.kept.mem_keys ?_)
    exact (mem_keys_withDefinition _ _ _ _).2 (Or.inl rfl)
  closed hnone := by
    refine List.forall_mem_cons.2 ⟨fun d' hd' => ?_, h.closed hnone⟩
    obtain rfl := Option.some.inj (hd.symm.trans hd')
    exact h.listed hnone
  missing := h.missing

/-- More calls follow those that did not fail. -/
theorem Outcome.Sound.append {models' : List String} (h : Outcome.Sound c known built models o)
    (hnone : o.missing = none) (h' : Outcome.Sound c known o.built models' o') :
    Outcome.Sound c known built (models ++ models')
      ⟨o'.built, o.inserted ++ o'.inserted, o'.missing⟩ where
  kept := h.kept.trans h'.kept
  mem_keys_iff k := by
    rw [h'.mem_keys_iff, h.mem_keys_iff]
    simp only [Outcome.names, List.map_append, List.mem_append, or_assoc]
  nodup := by
    rw [Outcome.names, List.map_append]
    refine List.nodup_append'.2 ⟨h.nodup, h'.nodup, fun k hk hk' => ?_⟩
    exact h'.free k hk' ((h.mem_keys_iff k).2 (Or.inr hk))
  free k hk := by
    rw [Outcome.names, List.map_append, List.mem_append] at hk
    exact hk.elim (h.free k) fun hk hin => h'.free k hk (h.kept.mem_keys hin)
  definition := by
    refine List.forall_mem_append.2 ⟨fun n hn => ?_, h'.definition⟩
    obtain ⟨d, hd, hfind⟩ := h.definition n hn
    exact ⟨d, hd, h'.kept hfind⟩
  listed hnone' :=
    List.forall_mem_append.2 ⟨fun m hm => h'.kept.mem_keys (h.listed hnone m hm), h'.listed hnone'⟩
  closed hnone' := by
    refine List.forall_mem_append.2 ⟨fun n hn d hd x hx => ?_, h'.closed hnone'⟩
    exact h'.kept.mem_keys (h.closed hnone n hn d hd x hx)
  missing := h'.missing

/-- **Every call is sound.** -/
theorem Calls.sound (h : Calls c known built models o) : Outcome.Sound c known built models o := by
  induction h with
  | nil built => exact .of_inserted_eq_nil (fun _ m hm => absurd hm List.not_mem_nil) (by simp)
  | @taken built m rest o hm _ ih =>
    have hname : (c.definitionName m).1 ∈ built.keys := (Dict.contains_iff_mem_keys _ _).1 hm
    have htaken : Outcome.Sound c known built [m] ⟨built, [], none⟩ :=
      .of_inserted_eq_nil (fun _ => List.forall_mem_singleton.2 hname) (by simp)
    exact htaken.append rfl ih
  | missing hm hd =>
    refine .of_inserted_eq_nil (fun h => by cases h) fun x hx => ?_
    obtain rfl := Option.some.inj hx
    exact ⟨hd, not_mem_keys_of_contains hm⟩
  | @failed built m x rest d o hm hd _ hx ih =>
    -- the models after the one that failed are not reached
    have hfailed := ih.insert hm hd
    rw [hx] at hfailed
    exact { hfailed with listed := fun h => by cases h }
  | added hm hd _ hx _ ih ihnext => exact (ih.insert hm hd).append hx ihnext

/-- **Adding a definition comes to an end** on every graph of dependencies, however models are named, and
whatever is there already. It leaves alone what was there, also when it fails, and inserts under free names
only, each at most once. When it succeeds, the name of the model is taken, and for every model whose
definition was inserted those of all its dependencies. -/
theorem add_calls (c : Config) (known : Dict String Definition) (built : Definitions) (m : String) :
    ∃ o, (∀ o', Calls c known built [m] o' ↔ o' = o) ∧ add c known built m = o.result ∧
      (∀ k s, built.find? k = some s → o.built.find? k = some s) ∧
      (o.names c).Nodup ∧ (∀ k ∈ o.names c, k ∉ built.keys) ∧
      (∀ k, k ∈ o.built.keys ↔ k ∈ built.keys ∨ k ∈ o.names c) ∧
      (∀ n ∈ o.inserted, ∃ d, known.find? n = some d ∧
        o.built.find? (c.definitionName n).1 = some (d.schema.published (c.definitionName n).2) ∧
        (o.missing = none → ∀ x ∈ d.dependencies, (c.definitionName x).1 ∈ o.built.keys)) ∧
      (o.missing = none → (c.definitionName m).1 ∈ o.built.keys) ∧
      ∀ x, o.missing = some x → known.find? x = none ∧ (c.definitionName x).1 ∉ o.built.keys := by
  obtain ⟨o, ho⟩ := exists_calls c known built [m]
  have hsound := ho.sound
  have hresult : add c known built m = o.result := by
    rw [← ho.visit_eq, visit, List.foldlM_cons]
    exact (bind_pure _).symm
  refine ⟨o, fun o' => ⟨fun h => h.unique ho, fun h => h ▸ ho⟩, hresult, fun _ _ h => hsound.kept h,
    hsound.nodup, hsound.free, hsound.mem_keys_iff, fun n hn => ?_,
    fun hnone => hsound.listed hnone m (List.mem_singleton_self m), hsound.missing⟩
  obtain ⟨d, hd, hfind⟩ := hsound.definition n hn
  exact ⟨d, hd, hfind, fun hnone => hsound.closed hnone n hn d hd⟩

/-- All models have one name. -/
def oneName : Config where
  definitionNaming := some fun _ => ("Model", ∅)

/-- Of a ring of models that all have one name, one definition is inserted, and that is enough. -/
theorem add_calls_oneName : ∃ o, Calls oneName Config.ring.resolvedDefinitions ∅ ["a"] o ∧
    add oneName Config.ring.resolvedDefinitions ∅ "a" = .ok o.built ∧ o.names oneName = ["Model"] := by
  obtain ⟨o, hcalls, hresult, -, hnodup, -, hkeys, -, hlisted, -⟩ :=
    add_calls oneName Config.ring.resolvedDefinitions ∅ "a"
  have hsuccess : (add oneName Config.ring.resolvedDefinitions ∅ "a").toOption.isSome = true := by
    decide +kernel
  have hnone : o.missing = none := by
    cases hx : o.missing with
    | none => rfl
    | some x =>
      rw [hresult, Outcome.result_of_missing_eq_some hx] at hsuccess
      cases hsuccess
  have hmem : "Model" ∈ o.names oneName := ((hkeys _).1 (hlisted hnone)).resolve_left List.not_mem_nil
  have hall : ∀ k ∈ o.names oneName, k = "Model" := List.forall_mem_map.2 fun _ _ => rfl
  refine ⟨o, (hcalls o).2 rfl, by rw [hresult, Outcome.result_of_missing_eq_none hnone], ?_⟩
  refine List.perm_singleton.1 ((List.perm_ext_iff_of_nodup hnodup (List.nodup_singleton _)).2 fun k => ?_)
  rw [List.mem_singleton]
  exact ⟨hall k, fun hk => hk ▸ hmem⟩

end Definitions

end Swagger
