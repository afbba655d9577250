import Mathlib.Data.Finset.Card
import Mathlib.Data.Set.Function
import Mathlib.Logic.Relation
import Swagger.Proofs.Run
import Swagger.Proofs.Sharing

/-! # Definitions are the dependency closure
A model's definition is added together with all that it needs, depth first, and what has been added is
told by its *name*. The bound on the depth plays no part: a level is entered only when a name is added
that some model with a definition has, and there are fewer of those at every level.

* `Definitions.remaining` — the models whose names are still free; `add_eq` is the recursion without
  a bound.
* `Definitions.visit` — several models one after the other; `visit_induction` follows the list of what
  is still to be done, into which the dependencies of an added model are put.
* `Definitions.Needs`, `Definitions.Needed` — what the dependency lists lead to.
* `Schema.PublishedAs` — the schema that is stored for a model.
* `Config.definitionsDocument_spec` — the definitions of a document are those that are needed. -/

namespace Swagger

namespace Definitions

variable (c : Config) (known : Dict String Definition)

/-! ## The bound on the depth -/

/-- The models that have a definition and whose name is free. -/
def remaining (built : Definitions) : Finset String :=
  known.keys.toFinset.filter fun m => built.contains (c.definitionName m).1 = false

/-- All that was there stays as it was. -/
def Extends (built built' : Definitions) : Prop :=
  ∀ ⦃k : String⦄ ⦃s : Schema⦄, built.find? k = some s → built'.find? k = some s

/-- All that is there is there. -/
theorem Extends.refl (built : Definitions) : Extends built built := fun _ _ h => h

/-- What stays and stays again stays. -/
theorem Extends.trans {b₁ b₂ b₃ : Definitions} (h₁ : Extends b₁ b₂) (h₂ : Extends b₂ b₃) :
    Extends b₁ b₃ := fun _ _ h => h₂ (h₁ h)

/-- A name that is taken is taken later on. -/
theorem Extends.contains {built built' : Definitions} (h : Extends built built') {k : String}
    (hk : built.contains k = true) : built'.contains k = true := by
  obtain ⟨s, hs⟩ := (Dict.contains_iff _ _).1 hk
  exact (Dict.contains_iff _ _).2 ⟨s, h hs⟩

/-- Adding under a free name keeps all that was there. -/
theorem extends_insert {built : Definitions} {k : String} (hk : built.contains k = false)
    (s : Schema) : Extends built (built.insert k s) := by
  intro k₁ s₁ h
  have hne : k₁ ≠ k := by
    rintro rfl
    rw [(Dict.contains_eq_false_iff _ _).1 hk] at h
    exact nomatch h
  rw [Dict.find?_insert, if_neg hne, h]

/-- A name that is free after an addition was free before. -/
theorem remaining_subset {built built' : Definitions} (h : Extends built built') :
    remaining c known built' ⊆ remaining c known built := by
  intro m hm
  rw [remaining, Finset.mem_filter] at hm ⊢
  refine ⟨hm.1, ?_⟩
  by_contra hc
  have htaken := h.contains (by simpa using hc)
  rw [hm.2] at htaken
  exact Bool.noConfusion htaken

/-- Fewer models remain when more definitions are there. -/
theorem remaining_card_le {built built' : Definitions} (h : Extends built built') :
    (remaining c known built').card ≤ (remaining c known built).card :=
  Finset.card_le_card (remaining_subset c known h)

/-- Adding a definition under its free name leaves fewer. -/
theorem remaining_insert_lt {built : Definitions} {m : String} {d : Definition}
    (hd : known.find? m = some d) (hm : built.contains (c.definitionName m).1 = false)
    (s : Schema) :
    (remaining c known (built.insert (c.definitionName m).1 s)).card
      < (remaining c known built).card := by
  have hsub := remaining_subset c known (extends_insert hm s)
  have hmem : m ∈ remaining c known built := by
    rw [remaining, Finset.mem_filter, List.mem_toFinset]
    exact ⟨(Dict.mem_keys_iff _ _).2 ⟨d, hd⟩, hm⟩
  -- the model itself is among those that no longer remain
  have hgone : m ∉ remaining c known (built.insert (c.definitionName m).1 s) := by
    rw [remaining, Finset.mem_filter, Dict.contains, Dict.find?_insert_self]
    exact fun h => Bool.noConfusion h.2
  exact Finset.card_lt_card ((Finset.ssubset_iff_of_subset hsub).2 ⟨m, hmem, hgone⟩)

/-- The bound on the depth exceeds the number of models that remain. -/
theorem remaining_card_lt (built : Definitions) :
    (remaining c known built).card < known.entries.length + 1 := by
  have h₁ := Finset.card_filter_le known.keys.toFinset
    fun m => built.contains (c.definitionName m).1 = false
  have h₂ := List.toFinset_card_le known.keys
  rw [remaining]
  simp only [Dict.keys, List.length_map] at h₁ h₂ ⊢
  omega

variable {c known}

/-- Whatever the bound, a successful addition keeps all that was there. -/
theorem extends_addWithin {levels : Nat} {built built' : Definitions} {m : String}
    (h : addWithin c known levels built m = .ok built') : Extends built built' := by
  induction levels generalizing built m built' with
  | zero => exact nomatch h
  | succ levels ih =>
    simp only [addWithin] at h
    split at h
    · obtain rfl : built = built' := by simpa using h
      exact .refl built
    · next hm =>
      split at h
      · exact nomatch h
      · refine Run.foldlM_induction (fun _ b => Extends built b) ?_
          (extends_insert (by simpa using hm) _) h
        exact fun _ _ _ _ hb hstep => hb.trans (ih hstep)

/-- Two bounds that both exceed the number of remaining models make no difference. -/
theorem addWithin_congr {levels levels' : Nat} {built : Definitions} (m : String)
    (h : (remaining c known built).card < levels) (h' : (remaining c known built).card < levels') :
    addWithin c known levels built m = addWithin c known levels' built m := by
  induction levels generalizing levels' built m with
  | zero => omega
  | succ levels ih =>
    obtain _ | levels' := levels'
    · omega
    simp only [addWithin]
    split
    · rfl
    · next hm =>
      split
      · rfl
      · next d hd =>
        -- The bounds are one less for the dependencies, and fewer models remain all the while.
        have hlt := remaining_insert_lt c known hd (by simpa using hm)
          (d.schema.published (c.definitionName m).2)
        refine Run.foldlM_congr (fun b => Extends _ b) ?_ ?_ (Extends.refl _)
        · exact fun _ _ _ hb hstep => hb.trans (extends_addWithin hstep)
        · intro b x hb
          have hle := remaining_card_le c known hb
          exact ih x (by omega) (by omega)

/-- **The recursion without a bound.** -/
theorem add_eq (built : Definitions) (m : String) :
    add c known built m =
      if built.contains (c.definitionName m).1 then .ok built
      else
        match known.find? m with
        | none => .error (.missingDefinition m)
        | some d =>
          d.dependencies.foldlM (add c known)
            (built.insert (c.definitionName m).1 (d.schema.published (c.definitionName m).2)) := by
  rw [add, addWithin]
  by_cases hm : built.contains (c.definitionName m).1 = true
  · rw [if_pos hm, if_pos hm]
  · rw [if_neg hm, if_neg hm]
    cases hd : known.find? m with
    | none => rfl
    | some d =>
      have hlt := remaining_insert_lt c known hd (by simpa using hm)
        (d.schema.published (c.definitionName m).2)
      -- The level below and the bound from the outside both exceed what remains for a dependency.
      have hall := remaining_card_lt c known built
      refine Run.foldlM_congr (fun b => Extends _ b) ?_ ?_ (Extends.refl _)
      · exact fun _ _ _ hb hstep => hb.trans (extends_addWithin hstep)
      · intro b x hb
        have hle := remaining_card_le c known hb
        exact addWithin_congr x (by omega) (by omega)

/-! ## The list of what is still to be done -/

variable (c known)

/-- Add several models one after the other. -/
def visit (built : Definitions) (models : List String) : Except BuildError Definitions :=
  models.foldlM (add c known) built

variable {c known}

/-- Without models there is nothing to be done. -/
@[simp] theorem visit_nil (built : Definitions) : visit c known built [] = .ok built := rfl

/-- A model whose name is taken needs nothing. -/
theorem visit_cons_taken {built : Definitions} {m : String} (rest : List String)
    (hm : built.contains (c.definitionName m).1 = true) :
    visit c known built (m :: rest) = visit c known built rest := by
  rw [visit, List.foldlM_cons, add_eq, if_pos hm]
  rfl

/-- A model without a definition ends the run. -/
theorem visit_cons_missing {built : Definitions} {m : String} (rest : List String)
    (hm : built.contains (c.definitionName m).1 = false) (hd : known.find? m = none) :
    visit c known built (m :: rest) = .error (.missingDefinition m) := by
  rw [visit, List.foldlM_cons, add_eq, if_neg (by simp [hm]), hd]
  rfl

/-- The dependencies of a model that is added are put in front of what is still to be done. -/
theorem visit_cons_defined {built : Definitions} {m : String} {d : Definition} (rest : List String)
    (hm : built.contains (c.definitionName m).1 = false) (hd : known.find? m = some d) :
    visit c known built (m :: rest)
      = visit c known (built.insert (c.definitionName m).1 (d.schema.published (c.definitionName m).2))
          (d.dependencies ++ rest) := by
  rw [visit, List.foldlM_cons, add_eq, if_neg (by simp [hm]), hd, visit, List.foldlM_append]

/-- **Induction along a run.** Each step takes the first model of the list: its name is taken, or it
has no definition, or it is added and its dependencies come first. -/
theorem visit_induction (c : Config) (known : Dict String Definition)
    {P : Definitions → List String → Prop} (nil : ∀ built, P built [])
    (taken : ∀ built m rest, built.contains (c.definitionName m).1 = true → P built rest →
      P built (m :: rest))
    (missing : ∀ built m rest, built.contains (c.definitionName m).1 = false →
      known.find? m = none → P built (m :: rest))
    (defined : ∀ built m rest d, built.contains (c.definitionName m).1 = false →
      known.find? m = some d →
      P (built.insert (c.definitionName m).1 (d.schema.published (c.definitionName m).2))
        (d.dependencies ++ rest) → P built (m :: rest))
    (built : Definitions) (models : List String) : P built models := by
  -- The list gets shorter in every step but one, in which fewer models remain.
  induction hcard : (remaining c known built).card using Nat.strong_induction_on
    generalizing built models with
  | _ n ih =>
    induction models with
    | nil => exact nil built
    | cons m rest ihrest =>
      by_cases hm : built.contains (c.definitionName m).1 = true
      · exact taken built m rest hm ihrest
      · have hm' : built.contains (c.definitionName m).1 = false := by simpa using hm
        cases hd : known.find? m with
        | none => exact missing built m rest hm' hd
        | some d =>
          have hlt := remaining_insert_lt c known hd hm'
            (d.schema.published (c.definitionName m).2)
          exact defined built m rest d hm' hd (ih _ (hcard ▸ hlt) _ _ rfl)

/-- What is added anew stays where it was, and takes every listed name. -/
theorem visit_extends {built built' : Definitions} {models : List String}
    (h : visit c known built models = .ok built') :
    Extends built built' ∧ ∀ m ∈ models, built'.contains (c.definitionName m).1 = true := by
  induction built, models using visit_induction c known with
  | nil built =>
    obtain rfl : built = built' := by simpa using h
    exact ⟨.refl built, by simp⟩
  | taken built m rest hm ih =>
    rw [visit_cons_taken rest hm] at h
    obtain ⟨hext, hrest⟩ := ih h
    exact ⟨hext, List.forall_mem_cons.2 ⟨hext.contains hm, hrest⟩⟩
  | missing built m rest hm hd =>
    rw [visit_cons_missing rest hm hd] at h
    exact nomatch h
  | defined built m rest d hm hd ih =>
    rw [visit_cons_defined rest hm hd] at h
    obtain ⟨hext, hrest⟩ := ih h
    refine ⟨(extends_insert hm _).trans hext, List.forall_mem_cons.2 ⟨?_, fun x hx => ?_⟩⟩
    · -- the name of `m` is taken by its definition and stays taken
      refine hext.contains ?_
      rw [Dict.contains, Dict.find?_insert_self]
      rfl
    · exact hrest x (List.mem_append_right _ hx)

/-! ## What the dependency lists lead to -/

/-- A model's definition lists another model. -/
def DependsOn (known : Dict String Definition) (m n : String) : Prop :=
  ∃ d, known.find? m = some d ∧ n ∈ d.dependencies

/-- A model is another one or leads to it through dependency lists. -/
def Needs (known : Dict String Definition) : String → String → Prop :=
  Relation.ReflTransGen (DependsOn known)

/-- The models that some of the listed ones lead to. -/
def LedTo (known : Dict String Definition) (models : List String) (n : String) : Prop :=
  ∃ m ∈ models, Needs known m n

/-- What some models lead to, they lead to with another one before them. -/
theorem LedTo.cons {models : List String} {n : String} (h : LedTo known models n) (m : String) :
    LedTo known (m :: models) n :=
  let ⟨x, hx, hn⟩ := h
  ⟨x, List.mem_cons_of_mem _ hx, hn⟩

/-- What the dependencies of a model lead to, the model leads to. -/
theorem LedTo.of_dependencies {m n : String} {d : Definition} {rest : List String}
    (hd : known.find? m = some d) (h : LedTo known (d.dependencies ++ rest) n) :
    LedTo known (m :: rest) n := by
  obtain ⟨x, hx, hn⟩ := h
  rcases List.mem_append.1 hx with hx | hx
  · exact ⟨m, List.mem_cons_self, hn.head ⟨d, hd, hx⟩⟩
  · exact ⟨x, List.mem_cons_of_mem _ hx, hn⟩

/-- Where an entry of a run comes from: it was there, or it is the definition of a model that the list
leads to, and the names of that model's dependencies are taken in the end. -/
theorem visit_origin {built built' : Definitions} {models : List String}
    (h : visit c known built models = .ok built') {k : String} {s : Schema}
    (hs : built'.find? k = some s) :
    built.find? k = some s ∨ ∃ n d, LedTo known models n ∧ known.find? n = some d ∧
      k = (c.definitionName n).1 ∧ s = d.schema.published (c.definitionName n).2 ∧
      ∀ x ∈ d.dependencies, built'.contains (c.definitionName x).1 = true := by
  induction built, models using visit_induction c known with
  | nil built =>
    obtain rfl : built = built' := by simpa using h
    exact Or.inl hs
  | taken built m rest hm ih =>
    rw [visit_cons_taken rest hm] at h
    refine (ih h).imp_right ?_
    rintro ⟨n, d, hled, hrest⟩
    exact ⟨n, d, hled.cons m, hrest⟩
  | missing built m rest hm hd =>
    rw [visit_cons_missing rest hm hd] at h
    exact nomatch h
  | defined built m rest d hm hd ih =>
    rw [visit_cons_defined rest hm hd] at h
    obtain ⟨hext, htaken⟩ := visit_extends h
    rcases ih h with hins | ⟨n, d', hled, hrest⟩
    · rw [Dict.find?_insert] at hins
      split at hins
      · -- the entry is that of `m`, whose dependencies have been gone through in the end
        next hk =>
        refine Or.inr ⟨m, d, ⟨m, List.mem_cons_self, .refl⟩, hd, hk, (Option.some.inj hins).symm, ?_⟩
        exact fun x hx => htaken x (List.mem_append_left _ hx)
      · exact Or.inl hins
    · exact Or.inr ⟨n, d', hled.of_dependencies hd, hrest⟩

/-- A run fails only for a model without a definition that the list leads to. -/
theorem visit_error {built : Definitions} {models : List String} {e : BuildError}
    (h : visit c known built models = .error e) :
    ∃ n, LedTo known models n ∧ known.find? n = none ∧ e = .missingDefinition n := by
  induction built, models using visit_induction c known with
  | nil built => exact nomatch h
  | taken built m rest hm ih =>
    rw [visit_cons_taken rest hm] at h
    obtain ⟨n, hled, hn⟩ := ih h
    exact ⟨n, hled.cons m, hn⟩
  | missing built m rest hm hd =>
    rw [visit_cons_missing rest hm hd] at h
    exact ⟨m, ⟨m, List.mem_cons_self, .refl⟩, hd, (Except.error.inj h).symm⟩
  | defined built m rest d hm hd ih =>
    rw [visit_cons_defined rest hm hd] at h
    obtain ⟨n, hled, hn⟩ := ih h
    exact ⟨n, hled.of_dependencies hd, hn⟩

/-- A run succeeds where all models that the list leads to have definitions. -/
theorem exists_visit (built : Definitions) {models : List String}
    (h : ∀ n, LedTo known models n → ∃ d, known.find? n = some d) :
    ∃ built', visit c known built models = .ok built' := by
  cases hrun : visit c known built models with
  | ok built' => exact ⟨built', rfl⟩
  | error e =>
    obtain ⟨n, hn, hmissing, -⟩ := visit_error hrun
    obtain ⟨d, hd⟩ := h n hn
    exact nomatch hmissing.symm.trans hd

/-- A run keeps the definitions in order. -/
theorem sorted_of_visit {built built' : Definitions} {models : List String} (hsorted : built.Sorted)
    (h : visit c known built models = .ok built') : built'.Sorted := by
  induction built, models using visit_induction c known with
  | nil built =>
    obtain rfl : built = built' := by simpa using h
    exact hsorted
  | taken built m rest hm ih =>
    rw [visit_cons_taken rest hm] at h
    exact ih hsorted h
  | missing built m rest hm hd =>
    rw [visit_cons_missing rest hm hd] at h
    exact nomatch h
  | defined built m rest d hm hd ih =>
    rw [visit_cons_defined rest hm hd] at h
    exact ih (hsorted.insert _ _) h

/-- **The run from nothing, when no name is shared.** Every model that the list leads to has a
definition, and its name is taken by just that definition. -/
theorem visit_closure {built : Definitions} {models : List String}
    (hinj : Set.InjOn (fun n => (c.definitionName n).1) {n | LedTo known models n})
    (h : visit c known ∅ models = .ok built) {n : String} (hn : LedTo known models n) :
    ∃ d, known.find? n = some d ∧
      built.find? (c.definitionName n).1 = some (d.schema.published (c.definitionName n).2) := by
  -- An entry under the name of `n` comes from a model of that name, which can only be `n` itself.
  have horigin : ∀ n, LedTo known models n → built.contains (c.definitionName n).1 = true →
      ∃ d, known.find? n = some d ∧
        built.find? (c.definitionName n).1 = some (d.schema.published (c.definitionName n).2) ∧
        ∀ x ∈ d.dependencies, built.contains (c.definitionName x).1 = true := by
    intro n hn hcon
    obtain ⟨s, hs⟩ := (Dict.contains_iff _ _).1 hcon
    rcases visit_origin h hs with hempty | ⟨n', d, hn', hd, hname, rfl, hdeps⟩
    · simp at hempty
    · obtain rfl : n = n' := hinj hn hn' hname
      exact ⟨d, hd, hs, hdeps⟩
  suffices hcon : built.contains (c.definitionName n).1 = true by
    obtain ⟨d, hd, hs, -⟩ := horigin n hn hcon
    exact ⟨d, hd, hs⟩
  -- A listed model has its name taken, and one with its name taken passes that on to its dependencies.
  obtain ⟨m, hm, hneeds⟩ := hn
  induction hneeds with
  | refl => exact (visit_extends h).2 m hm
  | @tail x y hx hstep ih =>
    obtain ⟨d, hd, hy⟩ := hstep
    obtain ⟨d', hd', -, hdeps⟩ := horigin x ⟨m, hm, hx⟩ ih
    obtain rfl : d = d' := Option.some.inj (hd.symm.trans hd')
    exact hdeps y hy

/-- The names that are taken after a run from nothing are those of the models that the list leads to. -/
theorem mem_keys_of_visit {built : Definitions} {models : List String}
    (hinj : Set.InjOn (fun n => (c.definitionName n).1) {n | LedTo known models n})
    (h : visit c known ∅ models = .ok built) (k : String) :
    k ∈ built.keys ↔ ∃ n, LedTo known models n ∧ k = (c.definitionName n).1 := by
  rw [Dict.mem_keys_iff]
  constructor
  · rintro ⟨s, hs⟩
    rcases visit_origin h hs with hempty | ⟨n, d, hn, -, hk, -⟩
    · simp at hempty
    · exact ⟨n, hn, hk⟩
  · rintro ⟨n, hn, rfl⟩
    obtain ⟨d, -, hd⟩ := visit_closure hinj h hn
    exact ⟨_, hd⟩

/-- The entries after a run from nothing are the definitions of the models that the list leads to. -/
theorem find?_visit_iff {built : Definitions} {models : List String}
    (hinj : Set.InjOn (fun n => (c.definitionName n).1) {n | LedTo known models n})
    (h : visit c known ∅ models = .ok built) (k : String) (s : Schema) :
    built.find? k = some s ↔ ∃ n d, LedTo known models n ∧ known.find? n = some d ∧
      k = (c.definitionName n).1 ∧ s = d.schema.published (c.definitionName n).2 := by
  constructor
  · intro hs
    obtain hempty | ⟨n, d, hn, hd, hk, hschema, -⟩ := visit_origin h hs
    · simp at hempty
    · exact ⟨n, d, hn, hd, hk, hschema⟩
  · rintro ⟨n, d, hn, hd, rfl, rfl⟩
    obtain ⟨d', hd', hs⟩ := visit_closure hinj h hn
    obtain rfl : d = d' := Option.some.inj (hd.symm.trans hd')
    exact hs

/-- Models of simple types need no definition; the others are added one after the other. -/
theorem addAll_eq_visit (built : Definitions) (models : List String) :
    addAll c known built models
      = visit c known built (models.filter fun m => (SimpleType.ofName? m).isNone) := by
  induction models generalizing built with
  | nil => rfl
  | cons m rest ih =>
    rw [addAll, List.foldlM_cons, List.filter_cons]
    cases ht : SimpleType.ofName? m with
    | some t =>
      rw [schemaFor, ht]
      exact ih built
    | none =>
      rw [schemaFor, ht, Option.isNone_none, if_pos rfl, visit, List.foldlM_cons]
      cases hadd : add c known built m with
      | error e => rfl
      | ok built' => exact ih built'

end Definitions

/-! ## The schema that is stored -/

/-- What stands under a key when extensions have been added that win over the schema's own. -/
def Schema.mergedExtension (s : Schema) (added : Extensions) (k : String) : Option Json :=
  (added.find? k).or (s.extensions.find? k)

/-- A schema as it is published: if one reads as a schema under the replacement key, that one, and else
the schema itself with the merged extensions, of which the replacement is left out. -/
structure Schema.PublishedAs (s : Schema) (added : Extensions) (out : Schema) : Prop where
  /-- What reads as a schema is published in the schema's stead. -/
  replaced : ∀ value r, s.mergedExtension added Schema.replacementKey = some value →
    Schema.ofJson? value = some r → out = r
  /-- Otherwise only the extensions change. -/
  kept : (∀ value, s.mergedExtension added Schema.replacementKey = some value →
      Schema.ofJson? value = none) →
    out = s.withExtensions out.extensions ∧ ∀ k, out.extensions.find? k =
      if k = Schema.replacementKey then none else s.mergedExtension added k

/-- What is published of a schema is what is told by the replacement key and the merged extensions. -/
theorem Schema.publishedAs_published (s : Schema) {added : Extensions} (h : added.Sorted) :
    s.PublishedAs added (s.published added) := by
  have hmerged : ∀ k, (s.extensions.union added).find? k = s.mergedExtension added k :=
    Dict.find?_union s.extensions h
  simp only [published, hmerged]
  constructor
  · intro value r hvalue hr
    simp [hvalue, hr]
  · intro hnone
    cases hvalue : s.mergedExtension added replacementKey with
    | none =>
      refine ⟨rfl, fun k => ?_⟩
      simp only [extensions_withExtensions, hmerged]
      split
      · next hk => rw [hk, hvalue]
      · rfl
    | some value =>
      simp only [hnone value hvalue]
      refine ⟨rfl, fun k => ?_⟩
      simp only [extensions_withExtensions, Dict.find?_erase, hmerged]

/-! ## Documents of definitions -/

namespace Config

/-- The models that a document with definitions for some models needs. -/
def Needed (c : Config) (models : List String) (n : String) : Prop :=
  ∃ m ∈ models, SimpleType.ofName? m = none ∧ Definitions.Needs c.resolvedDefinitions m n

/-- A model is needed if those that are no simple types lead to it. -/
theorem ledTo_filter_iff (c : Config) (models : List String) (n : String) :
    Definitions.LedTo c.resolvedDefinitions
        (models.filter fun m => (SimpleType.ofName? m).isNone) n ↔ c.Needed models n := by
  simp only [Definitions.LedTo, Needed, List.mem_filter, Option.isNone_iff_eq_none, and_assoc]

/-- A document of definitions is built from what the listed models lead to. -/
theorem definitionsDocument_eq {c : Config} (hc : c.complete = none) (models : List String) :
    c.definitionsDocument models =
      (Definitions.visit c c.resolvedDefinitions ∅
        (models.filter fun m => (SimpleType.ofName? m).isNone)).map
          fun built => (c.secured { c.blank with definitions := built }).shared := by
  rw [definitionsDocument, Definitions.addAll_eq_visit]
  cases Definitions.visit c c.resolvedDefinitions ∅
      (models.filter fun m => (SimpleType.ofName? m).isNone) with
  | error e => rfl
  | ok built => exact finish_eq_shared hc rfl

/-- **Definitions are exactly the dependency closure.** Where no two needed models share a name, a
document with definitions is built exactly when every needed model has one, fails for a needed model
that has none, and holds under the names of the needed models just their schemas. The extensions that
come with a name stand in order, as they do in every dictionary that is built. -/
theorem definitionsDocument_spec (c : Config) (hc : c.complete = none) (models : List String)
    (hinj : Set.InjOn (fun n => (c.definitionName n).1) {n | c.Needed models n})
    (hsorted : ∀ n, (c.definitionName n).2.Sorted) :
    ((∃ d, c.definitionsDocument models = .ok d) ↔
      ∀ n, c.Needed models n → ∃ x, c.resolvedDefinitions.find? n = some x) ∧
    (∀ e, c.definitionsDocument models = .error e →
      ∃ n, c.Needed models n ∧ c.resolvedDefinitions.find? n = none ∧ e = .missingDefinition n) ∧
    ∀ d, c.definitionsDocument models = .ok d →
      (∀ k, k ∈ d.definitions.keys ↔ ∃ n, c.Needed models n ∧ k = (c.definitionName n).1) ∧
      ∀ n, c.Needed models n → ∃ x s, c.resolvedDefinitions.find? n = some x ∧
        d.definitions.find? (c.definitionName n).1 = some s ∧
        x.schema.PublishedAs (c.definitionName n).2 s := by
  simp only [definitionsDocument_eq hc, ← ledTo_filter_iff] at hinj ⊢
  set listed := models.filter fun m => (SimpleType.ofName? m).isNone
  cases hrun : Definitions.visit c c.resolvedDefinitions ∅ listed with
  | error e =>
    -- a needed model without a definition is what the run failed for
    obtain ⟨n, hn, hmissing, he⟩ := Definitions.visit_error hrun
    simp only [Except.map]
    refine ⟨⟨fun ⟨d, hd⟩ => (nomatch hd), fun hall => ?_⟩, ?_, fun d hd => (nomatch hd)⟩
    · obtain ⟨x, hx⟩ := hall n hn
      rw [hmissing] at hx
      exact nomatch hx
    · rintro e' ⟨⟩
      exact ⟨n, hn, hmissing, he⟩
  | ok built =>
    -- every needed model has its definition, and nothing else is there
    have hclosure := fun n hn => Definitions.visit_closure hinj hrun (n := n) hn
    simp only [Except.map]
    refine ⟨⟨fun _ n hn => ?_, fun _ => ⟨_, rfl⟩⟩, fun e he => (nomatch he), ?_⟩
    · obtain ⟨x, hx, -⟩ := hclosure n hn
      exact ⟨x, hx⟩
    rintro d ⟨⟩
    simp only [Document.shared_definitions, secured_definitions]
    refine ⟨fun k => Definitions.mem_keys_of_visit hinj hrun k, fun n hn => ?_⟩
    obtain ⟨x, hx, hs⟩ := hclosure n hn
    exact ⟨x, _, hx, hs, Schema.publishedAs_published _ (hsorted n)⟩

/-- Two models that need each other, one of which also needs itself. -/
def ring : Config where
  definitions := some fun _ =>
    Dict.ofList [("a", { dependencies := ["b", "a"] }), ("b", { dependencies := ["a"] })]
  definitionNaming := some fun n => (n, ∅)

/-- A ring of models is needed as a whole, and built as a whole. -/
theorem definitionsDocument_ring : ∃ d, ring.definitionsDocument ["a", "string"] = .ok d ∧
    d.definitions.keys = ["a", "b"] ∧ ∀ n, ring.Needed ["a", "string"] n ↔ n = "a" ∨ n = "b" := by
  have hkeys : (ring.definitionsDocument ["a", "string"]).toOption.map (fun d => d.definitions.keys)
      = some ["a", "b"] := by decide +kernel
  obtain ⟨-, -, hok⟩ := definitionsDocument_spec ring rfl ["a", "string"] (fun _ _ _ _ h => h)
    fun _ => Dict.sorted_empty
  cases hd : ring.definitionsDocument ["a", "string"] with
  | error e => rw [hd] at hkeys; exact nomatch hkeys
  | ok d =>
    rw [hd] at hkeys
    have hk : d.definitions.keys = ["a", "b"] := Option.some.inj hkeys
    refine ⟨d, rfl, hk, fun n => ?_⟩
    have hn := (hok d hd).1 n
    rw [hk] at hn
    simp only [List.mem_cons, List.not_mem_nil, or_false] at hn
    rw [hn]
    exact ⟨fun h => ⟨n, h, rfl⟩, fun ⟨m, hm, h⟩ => h ▸ hm⟩

end Config

end Swagger
