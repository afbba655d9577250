import Mathlib.Data.List.Forall2
import Mathlib.Data.List.Perm.Basic

/-! # Runs that may fail
A run takes steps one after the other and stops at the first that fails. A run that succeeded can be
taken apart into its steps, and what every step keeps the whole run keeps.

* `Run.bind_eq_ok`, `Run.bind_eq_error` — two steps, taken apart.
* `Run.mapM_eq_ok` — a list of independent steps; `Run.exists_of_mapM_eq_ok`,
  `Run.mem_iff_of_mapM_eq_ok` and `Run.map_of_mapM_eq_ok` relate what they are done to and their results,
  `Run.exists_mapM_of_perm` does them in another order.
* `Run.foldlM_induction` — what holds after each step of a successful run.
* `Run.exists_of_foldlM_eq_error` — the step at which a run failed.
* `Run.foldlM_congr` — runs whose steps agree.
* `Run.exists_split_of_flatMap_eq` — the part of a run in which a step stands. -/

namespace Swagger

namespace Run

universe u v w

variable {ε : Type u} {α : Type v} {β : Type v}

/-- Two steps succeed when both do. -/
theorem bind_eq_ok {x : Except ε α} {f : α → Except ε β} {b : β} :
    x >>= f = .ok b ↔ ∃ a, x = .ok a ∧ f a = .ok b := by
  cases x with
  | error e => simp [bind, Except.bind]
  | ok a => simp [bind, Except.bind]

/-- Two steps fail when the first does, or the second does after it. -/
theorem bind_eq_error {x : Except ε α} {f : α → Except ε β} {e : ε} :
    x >>= f = .error e ↔ x = .error e ∨ ∃ a, x = .ok a ∧ f a = .error e := by
  cases x with
  | error e => simp [bind, Except.bind]
  | ok a => simp [bind, Except.bind]

/-- A value that is returned is the result. -/
theorem pure_eq_ok {a b : α} : (pure a : Except ε α) = .ok b ↔ a = b := by
  simp [pure, Except.pure]

/-- A run with a result succeeded. -/
theorem exists_of_isSome {x : Except ε α} (h : x.toOption.isSome = true) : ∃ a, x = .ok a := by
  cases x with
  | error e => exact nomatch h
  | ok a => exact ⟨a, rfl⟩

/-- What is told of a result is told of a success. -/
theorem exists_of_map_eq_some {γ : Type w} {x : Except ε α} {f : α → γ} {c : γ}
    (h : x.toOption.map f = some c) : ∃ a, x = .ok a ∧ f a = c := by
  cases x with
  | error e => exact nomatch h
  | ok a => exact ⟨a, rfl, Option.some.inj h⟩

/-- Independent steps succeed when each does, and give their results in order. -/
theorem mapM_eq_ok {γ : Type w} {f : γ → Except ε α} {l : List γ} {xs : List α} :
    l.mapM f = .ok xs ↔ List.Forall₂ (fun c x => f c = .ok x) l xs := by
  induction l generalizing xs with
  | nil =>
    rw [List.mapM_nil, pure_eq_ok, List.forall₂_nil_left_iff]
    exact eq_comm
  | cons c rest ih =>
    rw [List.mapM_cons, bind_eq_ok, List.forall₂_cons_left_iff]
    constructor
    · rintro ⟨x, hx, h⟩
      obtain ⟨ys, hys, h⟩ := bind_eq_ok.1 h
      exact ⟨x, ys, hx, ih.1 hys, (pure_eq_ok.1 h).symm⟩
    · rintro ⟨x, ys, hx, hys, rfl⟩
      exact ⟨x, hx, bind_eq_ok.2 ⟨ys, ih.2 hys, rfl⟩⟩

/-- Lists whose elements are related in order relate each element of the first to one of the second. -/
theorem exists_of_forall₂_left {γ : Type w} {R : γ → α → Prop} {l : List γ} {xs : List α}
    (h : List.Forall₂ R l xs) {c : γ} (hc : c ∈ l) : ∃ x ∈ xs, R c x := by
  induction h with
  | nil => exact nomatch hc
  | cons hx hrest ih =>
    rcases List.mem_cons.1 hc with rfl | hc
    · exact ⟨_, List.mem_cons_self, hx⟩
    · obtain ⟨x, hmem, hx⟩ := ih hc
      exact ⟨x, List.mem_cons_of_mem _ hmem, hx⟩

/-- Each of the independent steps gave one of the results. -/
theorem exists_of_mapM_eq_ok {γ : Type w} {f : γ → Except ε α} {l : List γ} {xs : List α}
    (h : l.mapM f = .ok xs) {c : γ} (hc : c ∈ l) : ∃ x ∈ xs, f c = .ok x :=
  exists_of_forall₂_left (mapM_eq_ok.1 h) hc

/-- Independent steps fail when one of them does. -/
theorem exists_of_mapM_eq_error {γ : Type w} {f : γ → Except ε α} {l : List γ} {e : ε}
    (h : l.mapM f = .error e) : ∃ c ∈ l, f c = .error e := by
  induction l with
  | nil => exact nomatch h
  | cons c rest ih =>
    rw [List.mapM_cons] at h
    rcases bind_eq_error.1 h with hc | ⟨x, -, h⟩
    · exact ⟨c, List.mem_cons_self, hc⟩
    · rcases bind_eq_error.1 h with hrest | ⟨xs, -, h⟩
      · obtain ⟨c', hmem, hc'⟩ := ih hrest
        exact ⟨c', List.mem_cons_of_mem _ hmem, hc'⟩
      · exact nomatch h

/-- The results are those of the independent steps. -/
theorem mem_iff_of_mapM_eq_ok {γ : Type w} {f : γ → Except ε α} {l : List γ} {xs : List α}
    (h : l.mapM f = .ok xs) (x : α) : x ∈ xs ↔ ∃ c ∈ l, f c = .ok x := by
  induction mapM_eq_ok.1 h with
  | nil => simp
  | @cons c y l xs hc hrest ih =>
    simp only [List.mem_cons, ih (mapM_eq_ok.2 hrest), exists_eq_or_imp, hc, Except.ok.injEq]
    exact or_congr_left eq_comm

/-- What independent steps carry over from what they are done to stands in their results in order. -/
theorem map_of_mapM_eq_ok {γ : Type w} {δ : Type*} {f : γ → Except ε α} {l : List γ} {xs : List α}
    (h : l.mapM f = .ok xs) {before : γ → δ} {after : α → δ}
    (hkeep : ∀ c x, f c = .ok x → after x = before c) : xs.map after = l.map before := by
  induction mapM_eq_ok.1 h with
  | nil => rfl
  | cons hc hrest ih => rw [List.map_cons, List.map_cons, hkeep _ _ hc, ih (mapM_eq_ok.2 hrest)]

/-- Independent steps may be done in another order, which their results are then in too. -/
theorem exists_mapM_of_perm {γ : Type w} {f : γ → Except ε α} {l l' : List γ} {xs : List α}
    (hperm : l.Perm l') (h : l.mapM f = .ok xs) : ∃ xs', l'.mapM f = .ok xs' ∧ xs.Perm xs' := by
  obtain ⟨xs', hxs', hperm'⟩ := List.perm_comp_forall₂ hperm.symm (mapM_eq_ok.1 h)
  exact ⟨xs', mapM_eq_ok.2 hxs', hperm'.symm⟩

/-- What independent steps give may be changed in each of them, or afterwards. -/
theorem mapM_map {γ : Type w} (g : γ → Except ε α) (f : α → β) (l : List γ) :
    (l.mapM fun c => (g c).map f) = (l.mapM g).map (List.map f) := by
  induction l with
  | nil => rfl
  | cons c rest ih =>
    rw [List.mapM_cons, List.mapM_cons, ih]
    cases g c with
    | error e => rfl
    | ok a => cases rest.mapM g <;> rfl

/-- Where independent steps succeed, so do steps of which each succeeds if its counterpart does. -/
theorem exists_mapM_of_forall₂ {γ γ' : Type w} {α' : Type v} {R : γ → γ' → Prop} {S : α → α' → Prop}
    {f : γ → Except ε α} {f' : γ' → Except ε α'} {l : List γ} {l' : List γ'} {xs : List α}
    (hl : List.Forall₂ R l l') (h : l.mapM f = .ok xs)
    (hstep : ∀ c ∈ l, ∀ c' x, R c c' → f c = .ok x → ∃ x', f' c' = .ok x' ∧ S x x') :
    ∃ xs', l'.mapM f' = .ok xs' ∧ List.Forall₂ S xs xs' := by
  induction hl generalizing xs with
  | nil =>
    obtain rfl : [] = xs := pure_eq_ok.1 h
    exact ⟨[], rfl, .nil⟩
  | @cons c c' l l' hc hrest ih =>
    rw [List.mapM_cons, bind_eq_ok] at h
    obtain ⟨x, hx, h⟩ := h
    obtain ⟨ys, hys, h⟩ := bind_eq_ok.1 h
    obtain rfl := pure_eq_ok.1 h
    obtain ⟨x', hx', hS⟩ := hstep c List.mem_cons_self c' x hc hx
    obtain ⟨ys', hys', hforall⟩ := ih hys fun c hmem => hstep c (List.mem_cons_of_mem _ hmem)
    refine ⟨x' :: ys', ?_, .cons hS hforall⟩
    rw [List.mapM_cons]
    exact bind_eq_ok.2 ⟨x', hx', bind_eq_ok.2 ⟨ys', hys', rfl⟩⟩

/-- What holds at the start and is kept by every step, given the steps done before it, holds at the end
of a successful run. -/
theorem foldlM_induction {γ : Type w} {f : β → γ → Except ε β} (P : List γ → β → Prop)
    (step : ∀ done c b b', P done b → f b c = .ok b' → P (done ++ [c]) b') {l : List γ} {b b' : β}
    (init : P [] b) (h : l.foldlM f b = .ok b') : P l b' := by
  -- the statement for the steps that are left, whatever was done before them
  suffices hgen : ∀ (rest done : List γ) (b : β), P done b → rest.foldlM f b = .ok b' →
      P (done ++ rest) b' from hgen l [] b init h
  intro rest
  induction rest with
  | nil =>
    intro done b hb h
    obtain rfl : b = b' := pure_eq_ok.1 h
    simpa using hb
  | cons c rest ih =>
    intro done b hb h
    rw [List.foldlM_cons] at h
    obtain ⟨b₁, hc, hrest⟩ := bind_eq_ok.1 h
    simpa using ih (done ++ [c]) b₁ (step done c b b₁ hb hc) hrest

/-- A run that failed did so at one of its steps, after all earlier ones had been done. -/
theorem exists_of_foldlM_eq_error {γ : Type w} {f : β → γ → Except ε β} {l : List γ} {b : β} {e : ε}
    (h : l.foldlM f b = .error e) : ∃ done c rest b', l = done ++ c :: rest ∧
      done.foldlM f b = .ok b' ∧ f b' c = .error e := by
  induction l generalizing b with
  | nil => exact nomatch h
  | cons c rest ih =>
    rw [List.foldlM_cons] at h
    rcases bind_eq_error.1 h with hc | ⟨b₁, hc, hrest⟩
    · exact ⟨[], c, rest, b, rfl, rfl, hc⟩
    · obtain ⟨done, c', rest', b', rfl, hdone, hc'⟩ := ih hrest
      refine ⟨c :: done, c', rest', b', rfl, ?_, hc'⟩
      rw [List.foldlM_cons]
      exact bind_eq_ok.2 ⟨b₁, hc, hdone⟩

/-- Two runs are equal when their steps are, wherever the run may come. -/
theorem foldlM_congr {γ : Type w} {f g : β → γ → Except ε β} (P : β → Prop)
    (kept : ∀ b c b', P b → f b c = .ok b' → P b') (heq : ∀ b c, P b → f b c = g b c) {l : List γ}
    {b : β} (hb : P b) : l.foldlM f b = l.foldlM g b := by
  induction l generalizing b with
  | nil => rfl
  | cons c rest ih =>
    rw [List.foldlM_cons, List.foldlM_cons, ← heq b c hb]
    cases hc : f b c with
    | error e => rfl
    | ok b' =>
      -- both runs go on from the same place, where `P` still holds
      exact ih (kept b c b' hb hc)

/-- A step of a run that is made of parts stands in one of them, after the parts before it. -/
theorem exists_split_of_flatMap_eq {γ : Type v} {δ : Type w} {f : γ → List δ} {l : List γ}
    {xs ys : List δ} {b : δ} (h : l.flatMap f = xs ++ b :: ys) :
    ∃ before a after us vs, l = before ++ a :: after ∧ f a = us ++ b :: vs ∧
      xs = before.flatMap f ++ us := by
  induction l generalizing xs with
  | nil => simp at h
  | cons a rest ih =>
    rw [List.flatMap_cons, List.append_eq_append_iff] at h
    rcases h with ⟨zs, rfl, hrest⟩ | ⟨zs, ha, hzs⟩
    · -- it stands further on
      obtain ⟨before, a', after, us, vs, rfl, ha', rfl⟩ := ih hrest
      exact ⟨a :: before, a', after, us, vs, rfl, ha', by rw [List.flatMap_cons, List.append_assoc]⟩
    · cases zs with
      | nil =>
        have hrest : rest.flatMap f = [] ++ b :: ys := hzs.symm
        obtain ⟨before, a', after, us, vs, rfl, ha', hxs⟩ := ih hrest
        refine ⟨a :: before, a', after, us, vs, rfl, ha', ?_⟩
        rw [List.flatMap_cons, List.append_assoc, ← hxs, ha, List.append_nil, List.append_nil]
      | cons z zs =>
        obtain ⟨rfl, -⟩ := List.cons_eq_cons.1 hzs
        exact ⟨[], a, rest, xs, zs, rfl, ha, rfl⟩

end Run

end Swagger
