import Swagger.Proofs.Run
import Swagger.Proofs.SchemaRoundTrip

/-! # Places in a schema
A place in a schema is told by the way into it, step by step. The references of a schema are listed in the
order in which their places are met.

* `Schema.Step`, `Schema.at?` — a way into a schema, and what stands at its end.
* `Schema.MetBefore` — which of two places is met first.
* `Schema.outline` — what a schema says, its reference and the schemas inside it apart.
* `Schema.steps`, `Schema.refs_eq_flatMap` — the steps from one place, in their order.
* `Schema.mem_refs_iff`, `Schema.exists_refersAt_of_refs_eq` — the references at all places, in their order. -/

namespace Swagger

/-- Apply a function to the value, or to all values of the list. -/
def OneOrMany.map {α β : Type} (f : α → β) : OneOrMany α → OneOrMany β
  | .one a => .one (f a)
  | .many l => .many (l.map f)

/-- Apply a function to a value of the other kind. -/
def FlagOr.map {α β : Type} (f : α → β) : FlagOr α → FlagOr β
  | .flag b => .flag b
  | .other a => .other (f a)

namespace Schema

/-! ## Ways into a schema -/

/-- One step into a schema. -/
inductive Step where
  /-- To a property, by its number in the order of the keys. -/
  | property (i : Nat)
  /-- To a schema of `allOf`, by its number. -/
  | allOf (i : Nat)
  /-- To the schema of all items. -/
  | items
  /-- To the schema of the item at a position. -/
  | item (i : Nat)
  /-- To the schema of further properties. -/
  | additional

/-- Take one step. -/
def inner? (s : Schema) : Step → Option Schema
  | .property i => s.properties.values[i]?
  | .allOf i => s.allOf[i]?
  | .items =>
    match s.items with
    | some (.one t) => some t
    | _ => none
  | .item i =>
    match s.items with
    | some (.many l) => l[i]?
    | _ => none
  | .additional =>
    match s.additional with
    | some (.other t) => some t
    | _ => none

/-- What stands in a schema at the end of a way. -/
def at? : List Step → Schema → Option Schema
  | [], s => some s
  | step :: rest, s => (s.inner? step).bind (at? rest)

/-- What a schema says, with its reference left out and every schema inside it left empty: which properties
it has, how many schemas `allOf` holds, and the kind of its items and of further properties. -/
def outline (s : Schema) : Schema where
  own := { s.own with reference := none }
  items := s.items.map (OneOrMany.map fun _ => empty)
  allOf := s.allOf.map fun _ => empty
  properties := s.properties.map fun _ => empty
  additional := s.additional.map (FlagOr.map fun _ => empty)

/-- The steps from one place, in the order in which they are taken: first those to the properties, then
those to `allOf`, then those to items, and that to further properties last. -/
def Step.rank : Step → Nat × Nat
  | .property i => (0, i)
  | .allOf i => (1, i)
  | .items => (2, 0)
  | .item i => (2, i)
  | .additional => (3, 0)

/-- Of two steps from one place the one that is taken earlier. -/
def Step.Before (a b : Step) : Prop :=
  a.rank.1 < b.rank.1 ∨ a.rank.1 = b.rank.1 ∧ a.rank.2 < b.rank.2

/-- **A place is met before another one**: it is on the way to it, or the ways part and the step of the
first is taken earlier. -/
abbrev MetBefore (p q : List Step) : Prop := List.Lex Step.Before p q

/-- A schema has a reference at the end of a way. -/
def RefersAt (s : Schema) (p : List Step) (target : String) : Prop :=
  ∃ t, at? p s = some t ∧ t.own.reference = some target

/-! ## The steps from one place -/

/-- Steps to the schemas of a list. -/
def numbered (step : Nat → Step) (l : List Schema) : List (Step × Schema) :=
  l.zipIdx.map fun e => (step e.2, e.1)

/-- The steps to items. -/
def itemSteps : Option (OneOrMany Schema) → List (Step × Schema)
  | none => []
  | some (.one t) => [(.items, t)]
  | some (.many l) => numbered .item l

/-- The step to further properties. -/
def additionalSteps : Option (FlagOr Schema) → List (Step × Schema)
  | some (.other t) => [(.additional, t)]
  | _ => []

/-- All steps into a schema and where they lead, in the order in which they are taken. -/
def steps (s : Schema) : List (Step × Schema) :=
  numbered .property s.properties.values ++ (numbered .allOf s.allOf ++
    (itemSteps s.items ++ additionalSteps s.additional))

/-- The steps to a list of schemas lead to each by its number. -/
theorem mem_numbered_iff (step : Nat → Step) (l : List Schema) (a : Step) (t : Schema) :
    (a, t) ∈ numbered step l ↔ ∃ i, step i = a ∧ l[i]? = some t := by
  simp only [numbered, List.mem_map, Prod.exists, List.mem_zipIdx_iff_getElem?, Prod.mk.injEq]
  constructor
  · rintro ⟨u, i, hi, ha, rfl⟩
    exact ⟨i, ha, hi⟩
  · rintro ⟨i, ha, hi⟩
    exact ⟨t, i, hi, ha, rfl⟩

/-- The steps into a schema are those that lead somewhere. -/
theorem mem_steps_iff (s : Schema) (a : Step) (t : Schema) :
    (a, t) ∈ s.steps ↔ s.inner? a = some t := by
  obtain ⟨own, items, allOf, properties, additional⟩ := s
  simp only [steps, List.mem_append, mem_numbered_iff]
  constructor
  · rintro (⟨i, rfl, hi⟩ | ⟨i, rfl, hi⟩ | hitems | hadditional)
    · exact hi
    · exact hi
    · rcases items with _ | ⟨u | l⟩
      · exact absurd hitems List.not_mem_nil
      · obtain ⟨rfl, rfl⟩ := Prod.mk.inj (List.mem_singleton.1 hitems)
        rfl
      · obtain ⟨i, rfl, hi⟩ := (mem_numbered_iff _ _ _ _).1 hitems
        exact hi
    · rcases additional with _ | ⟨b | u⟩
      · exact absurd hadditional List.not_mem_nil
      · exact absurd hadditional List.not_mem_nil
      · obtain ⟨rfl, rfl⟩ := Prod.mk.inj (List.mem_singleton.1 hadditional)
        rfl
  · intro h
    cases a with
    | property i => exact Or.inl ⟨i, rfl, h⟩
    | allOf i => exact Or.inr (Or.inl ⟨i, rfl, h⟩)
    | items =>
      rcases items with _ | ⟨u | l⟩
      · cases h
      · obtain rfl := Option.some.inj h
        exact Or.inr (Or.inr (Or.inl (List.mem_singleton_self _)))
      · cases h
    | item i =>
      rcases items with _ | ⟨u | l⟩
      · cases h
      · cases h
      · exact Or.inr (Or.inr (Or.inl ((mem_numbered_iff _ _ _ _).2 ⟨i, rfl, h⟩)))
    | additional =>
      rcases additional with _ | ⟨b | u⟩
      · cases h
      · cases h
      · obtain rfl := Option.some.inj h
        exact Or.inr (Or.inr (Or.inr (List.mem_singleton_self _)))

/-- The references in a list of schemas are those behind the steps to it. -/
theorem flatMap_numbered (step : Nat → Step) (l : List Schema) :
    ((numbered step l).flatMap fun e => e.2.refs) = refsOfList l := by
  have hlist : ∀ l : List Schema, refsOfList l = l.flatMap refs := fun l => by
    induction l with
    | nil => rfl
    | cons s rest ih => rw [refsOfList, ih, List.flatMap_cons]
  have hfirst : l = l.zipIdx.map Prod.fst := (List.zipIdx_map_fst 0 l).symm
  rw [hlist]
  conv_rhs => rw [hfirst]
  rw [numbered, List.flatMap_map, List.flatMap_map]

/-- The references of a schema are its own, and those of the schemas in it in the order of the steps. -/
theorem refs_eq_flatMap (s : Schema) :
    s.refs = s.own.reference.toList ++ s.steps.flatMap fun e => e.2.refs := by
  obtain ⟨own, items, allOf, ⟨properties⟩, additional⟩ := s
  have hproperties : refsOfProperties properties = refsOfList (properties.map Prod.snd) := by
    induction properties with
    | nil => rfl
    | cons e rest ih => rw [refsOfProperties, ih, List.map_cons, refsOfList]
  have hitems : (itemSteps items).flatMap (fun e => e.2.refs) = refsOfItems items := by
    rcases items with _ | ⟨t | l⟩
    · rfl
    · exact List.flatMap_singleton _ _
    · exact flatMap_numbered _ l
  have hadditional : (additionalSteps additional).flatMap (fun e => e.2.refs)
      = refsOfAdditional additional := by
    rcases additional with _ | ⟨b | t⟩
    · rfl
    · rfl
    · exact List.flatMap_singleton _ _
  rw [refs, steps, List.flatMap_append, List.flatMap_append, List.flatMap_append, flatMap_numbered,
    flatMap_numbered, hitems, hadditional, hproperties, Dict.values]

/-- Steps of one kind are listed by their numbers. -/
theorem pairwise_numbered (step : Nat → Step) (h : ∀ i j, i < j → (step i).Before (step j))
    (l : List Schema) : (numbered step l).Pairwise fun a b => a.1.Before b.1 := by
  have hnumbers : (l.zipIdx.map Prod.snd).Pairwise (· < ·) := by
    rw [List.zipIdx_map_snd]
    exact List.pairwise_lt_range'
  rw [numbered, List.pairwise_map]
  exact (List.pairwise_map.1 hnumbers).imp (h _ _)

/-- The steps to items are listed in their order. -/
theorem pairwise_itemSteps (items : Option (OneOrMany Schema)) :
    (itemSteps items).Pairwise fun a b => a.1.Before b.1 := by
  rcases items with _ | ⟨t | l⟩
  · exact List.Pairwise.nil
  · exact List.pairwise_singleton _ _
  · exact pairwise_numbered .item (fun _ _ h => Or.inr ⟨rfl, h⟩) l

/-- There is at most one step to further properties. -/
theorem pairwise_additionalSteps (additional : Option (FlagOr Schema)) :
    (additionalSteps additional).Pairwise fun a b => a.1.Before b.1 := by
  rcases additional with _ | ⟨b | t⟩
  · exact List.Pairwise.nil
  · exact List.Pairwise.nil
  · exact List.pairwise_singleton _ _

/-- The steps to a list of schemas are of one kind. -/
theorem rank_of_mem_numbered (step : Nat → Step) {n : Nat} (h : ∀ i, (step i).rank.1 = n)
    (l : List Schema) : ∀ e ∈ numbered step l, e.1.rank.1 = n := by
  rintro ⟨a, t⟩ he
  obtain ⟨i, rfl, -⟩ := (mem_numbered_iff _ _ _ _).1 he
  exact h i

/-- The steps to items are of the third kind. -/
theorem rank_of_mem_itemSteps (items : Option (OneOrMany Schema)) :
    ∀ e ∈ itemSteps items, e.1.rank.1 = 2 := by
  rcases items with _ | ⟨t | l⟩
  · exact fun e he => absurd he List.not_mem_nil
  · exact List.forall_mem_singleton.2 rfl
  · exact rank_of_mem_numbered .item (fun _ => rfl) l

/-- The step to further properties is of the last kind. -/
theorem rank_of_mem_additionalSteps (additional : Option (FlagOr Schema)) :
    ∀ e ∈ additionalSteps additional, e.1.rank.1 = 3 := by
  rcases additional with _ | ⟨b | t⟩
  · exact fun e he => absurd he List.not_mem_nil
  · exact fun e he => absurd he List.not_mem_nil
  · exact List.forall_mem_singleton.2 rfl

/-- Steps of one kind come before those of later kinds. -/
theorem pairwise_append_steps {l l' : List (Step × Schema)} {n : Nat}
    (hl : l.Pairwise fun a b => a.1.Before b.1) (hl' : l'.Pairwise fun a b => a.1.Before b.1)
    (hbefore : ∀ e ∈ l, e.1.rank.1 = n) (hafter : ∀ e ∈ l', n < e.1.rank.1) :
    (l ++ l').Pairwise fun a b => a.1.Before b.1 :=
  List.pairwise_append.2 ⟨hl, hl', fun a ha b hb => Or.inl (hbefore a ha ▸ hafter b hb)⟩

/-- The steps are listed in the order in which they are taken. -/
theorem pairwise_steps (s : Schema) : s.steps.Pairwise fun a b => a.1.Before b.1 := by
  have hproperties := rank_of_mem_numbered .property (fun _ => rfl) s.properties.values
  have hall := rank_of_mem_numbered .allOf (fun _ => rfl) s.allOf
  have hitems := rank_of_mem_itemSteps s.items
  have hadditional := rank_of_mem_additionalSteps s.additional
  refine pairwise_append_steps (pairwise_numbered .property (fun _ _ h => Or.inr ⟨rfl, h⟩) _)
    (pairwise_append_steps (pairwise_numbered .allOf (fun _ _ h => Or.inr ⟨rfl, h⟩) _)
      (pairwise_append_steps (pairwise_itemSteps _) (pairwise_additionalSteps _) hitems ?_) hall ?_)
    hproperties ?_
  · exact fun e he => hadditional e he ▸ by decide
  · refine List.forall_mem_append.2 ⟨fun e he => hitems e he ▸ by decide, fun e he => ?_⟩
    exact hadditional e he ▸ by decide
  · refine List.forall_mem_append.2 ⟨fun e he => hall e he ▸ by decide, ?_⟩
    refine List.forall_mem_append.2 ⟨fun e he => hitems e he ▸ by decide, fun e he => ?_⟩
    exact hadditional e he ▸ by decide

/-- What a step leads to stands in the schema. -/
theorem mem_inner_of_inner? {s t : Schema} {a : Step} (h : s.inner? a = some t) : t ∈ s.inner := by
  obtain ⟨own, items, allOf, properties, additional⟩ := s
  simp only [inner, List.mem_append, or_assoc]
  cases a with
  | property i => exact Or.inr (Or.inr (Or.inl (List.mem_of_getElem? h)))
  | allOf i => exact Or.inr (Or.inl (List.mem_of_getElem? h))
  | items =>
    rcases items with _ | ⟨u | l⟩
    · cases h
    · exact Or.inl (List.mem_singleton.2 (Option.some.inj h).symm)
    · cases h
  | item i =>
    rcases items with _ | ⟨u | l⟩
    · cases h
    · cases h
    · exact Or.inl (List.mem_of_getElem? h)
  | additional =>
    rcases additional with _ | ⟨b | u⟩
    · cases h
    · cases h
    · exact Or.inr (Or.inr (Or.inr (List.mem_singleton.2 (Option.some.inj h).symm)))

/-! ## The order in which references are met -/

/-- What holds of a schema when it holds of all that a step into it leads to holds of every schema. -/
theorem step_induction {P : Schema → Prop} (h : ∀ s, (∀ a t, s.inner? a = some t → P t) → P s)
    (s : Schema) : P s :=
  WellFounded.induction (measure fun s : Schema => (Node.ofJson s.toJson).depth).wf s fun s ih =>
    h s fun _ t ha => ih t (depth_lt_of_mem_inner t (mem_inner_of_inner? ha))

/-- At the end of the empty way stands the reference of the schema itself. -/
theorem refersAt_nil_iff (s : Schema) (target : String) :
    s.RefersAt [] target ↔ s.own.reference = some target := by
  simp [RefersAt, at?]

/-- At the end of a longer way stands a reference of the schema to which the first step leads. -/
theorem refersAt_cons_iff (s : Schema) (a : Step) (p : List Step) (target : String) :
    s.RefersAt (a :: p) target ↔ ∃ t, s.inner? a = some t ∧ t.RefersAt p target := by
  simp only [RefersAt, at?, Option.bind_eq_some_iff]
  constructor
  · rintro ⟨u, ⟨t, ha, hu⟩, htarget⟩
    exact ⟨t, ha, u, hu, htarget⟩
  · rintro ⟨t, ha, u, hu, htarget⟩
    exact ⟨u, ⟨t, ha, hu⟩, htarget⟩

/-- The references of a schema are those at all its places. -/
theorem mem_refs_iff (s : Schema) (target : String) : target ∈ s.refs ↔ ∃ p, s.RefersAt p target := by
  induction s using step_induction with
  | h s ih =>
    rw [refs_eq_flatMap, List.mem_append, Option.mem_toList, List.mem_flatMap]
    constructor
    · rintro (hown | ⟨⟨a, t⟩, ha, htarget⟩)
      · exact ⟨[], (s.refersAt_nil_iff target).2 hown⟩
      · have ha := (mem_steps_iff s a t).1 ha
        obtain ⟨p, hp⟩ := (ih a t ha).1 htarget
        exact ⟨a :: p, (s.refersAt_cons_iff a p target).2 ⟨t, ha, hp⟩⟩
    · rintro ⟨_ | ⟨a, p⟩, hp⟩
      · exact Or.inl ((s.refersAt_nil_iff target).1 hp)
      · obtain ⟨t, ha, hp⟩ := (s.refersAt_cons_iff a p target).1 hp
        exact Or.inr ⟨(a, t), (mem_steps_iff s a t).2 ha, (ih a t ha).2 ⟨p, hp⟩⟩

/-- Where a reference is listed: it is that of the schema itself, or listed after it among those of the
schemas in it. -/
theorem own_or_split_of_refs_eq {s : Schema} {before after : List String} {target : String}
    (h : s.refs = before ++ target :: after) :
    s.own.reference = some target ∨ ∃ before', before = s.own.reference.toList ++ before' ∧
      (s.steps.flatMap fun e => e.2.refs) = before' ++ target :: after := by
  rw [refs_eq_flatMap] at h
  cases hown : s.own.reference with
  | none =>
    rw [hown] at h
    exact Or.inr ⟨before, rfl, h⟩
  | some own =>
    rw [hown] at h
    cases before with
    | nil => exact Or.inl (congrArg some (List.cons_eq_cons.1 h).1)
    | cons first before =>
      obtain ⟨rfl, hrest⟩ := List.cons_eq_cons.1 h
      exact Or.inr ⟨before, rfl, hrest⟩

/-- **References are met in the order in which they are listed**: each stands at a place that is met before
all other places with a reference that is not listed earlier. -/
theorem exists_refersAt_of_refs_eq {s : Schema} {before after : List String} {target : String}
    (h : s.refs = before ++ target :: after) :
    ∃ p, s.RefersAt p target ∧
      ∀ q other, s.RefersAt q other → other ∉ before → q = p ∨ MetBefore p q := by
  induction s using step_induction generalizing before after target with
  | h s ih =>
    obtain hown | ⟨before, rfl, hsteps⟩ := own_or_split_of_refs_eq h
    · refine ⟨[], (s.refersAt_nil_iff target).2 hown, fun q other hq hother => ?_⟩
      cases q with
      | nil => exact Or.inl rfl
      | cons a q => exact Or.inr .nil
    · -- the reference is in what one of the steps leads to
      obtain ⟨earlier, ⟨a, t⟩, later, us, vs, hsplit, ht, rfl⟩ := Run.exists_split_of_flatMap_eq hsteps
      have ha : s.inner? a = some t :=
        (mem_steps_iff s a t).1 (hsplit ▸ List.mem_append_right _ List.mem_cons_self)
      obtain ⟨p, hp, hfirst⟩ := ih a t ha ht
      refine ⟨a :: p, (s.refersAt_cons_iff a p target).2 ⟨t, ha, hp⟩, fun q other hq hother => ?_⟩
      simp only [List.mem_append, Option.mem_toList, List.mem_flatMap, not_or] at hother
      obtain ⟨hown, hearlier, hus⟩ := hother
      cases q with
      | nil => exact absurd ((s.refersAt_nil_iff other).1 hq) hown
      | cons b q =>
        obtain ⟨u, hb, hq⟩ := (s.refersAt_cons_iff b q other).1 hq
        have hmem := (mem_steps_iff s b u).2 hb
        rw [hsplit, List.mem_append, List.mem_cons] at hmem
        rcases hmem with hmem | hmem | hmem
        · exact absurd ⟨(b, u), hmem, (u.mem_refs_iff other).2 ⟨q, hq⟩⟩ hearlier
        · obtain ⟨rfl, rfl⟩ := Prod.mk.inj hmem
          exact (hfirst q other hq hus).imp (congrArg (b :: ·)) .cons
        · have horder := s.pairwise_steps
          rw [hsplit, List.pairwise_append, List.pairwise_cons] at horder
          exact Or.inr (.rel (horder.2.1.1 (b, u) hmem))

end Schema

end Swagger
