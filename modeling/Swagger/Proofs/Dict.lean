import Mathlib.Data.List.Induction
import Mathlib.Data.List.Nodup
import Mathlib.Data.List.Sort
import Swagger.Route

/-! # The theory of dictionaries
What is found after each operation, and what the order of the entries is worth: a sorted dictionary
has each key once, so an entry stands in it exactly when it is found.

* `Dict.find?_insert`, `Dict.find?_erase`, `Dict.find?_map`, `Dict.find?_adjust` — looking up after a change.
* `Dict.mem_entries_iff` — entries of a sorted dictionary are what is found.
* `Dict.find?_foldl_insertNew`, `Dict.find?_foldl_insert`, `Dict.find?_insertAll` — looking up after many
  changes; `Dict.find?_ofList_iff` — of some pairs the last under a key is found.
* `Dict.Fresh` — pairs that can be stored without replacing anything.
* `Dict.insert_comm`, `Dict.insertAll_insertAll_of_subset` — the order of insertions under different keys
  does not matter, and pairs that are all replaced need not be stored.
* `Dict.Sorted.ext` — a sorted dictionary is told by what is found in it; `Dict.union_comm` — so the order
  of a union does not matter where the dictionaries agree. -/

namespace Swagger

namespace Dict

universe u v w

variable {κ : Type u} {α : Type v} {β : Type w}

/-! ## Keys and lookup -/

/-- Changing a value keeps the keys. -/
@[simp] theorem keys_adjust [BEq κ] (d : Dict κ α) (k : κ) (f : α → α) :
    (d.adjust k f).keys = d.keys := by
  rw [keys, adjust, List.map_map]
  refine List.map_congr_left fun e _ => ?_
  simp only [Function.comp_apply]
  split <;> rfl

/-- A dictionary is empty when it has no key. -/
theorem isEmpty_iff (d : Dict κ α) : d.isEmpty = true ↔ d.keys = [] := by
  rw [isEmpty, keys, List.isEmpty_iff, List.map_eq_nil_iff]

/-- The values after a change of all values. -/
@[simp] theorem values_map (f : α → β) (d : Dict κ α) : (d.map f).values = d.values.map f := by
  simp [values, map, Function.comp_def]

section Lookup

variable [BEq κ]

/-- A dictionary has a key if something is found under it. -/
theorem contains_iff (d : Dict κ α) (k : κ) : d.contains k = true ↔ ∃ v, d.find? k = some v := by
  rw [contains, Option.isSome_iff_exists]

/-- It has no key under which nothing is found. -/
theorem contains_eq_false_iff (d : Dict κ α) (k : κ) : d.contains k = false ↔ d.find? k = none := by
  rw [contains, Option.isSome_eq_false_iff, Option.isNone_iff_eq_none]

variable [LawfulBEq κ]

/-- An entry with another key is passed over. -/
theorem lookup_cons_of_ne {k k' : κ} (h : k ≠ k') (v : α) (l : List (κ × α)) :
    ((k', v) :: l).lookup k = l.lookup k := by
  rw [List.lookup_cons, beq_eq_false_iff_ne.2 h]

/-- A key is there exactly when something is found under it. -/
theorem mem_keys_iff (d : Dict κ α) (k : κ) : k ∈ d.keys ↔ ∃ v, d.find? k = some v := by
  obtain ⟨l⟩ := d
  simp only [keys, find?]
  induction l with
  | nil => simp
  | cons e rest ih =>
    obtain ⟨k', v'⟩ := e
    by_cases h : k = k'
    · subst h; simp
    · simpa [lookup_cons_of_ne h, h] using ih

/-- A dictionary has the keys that are listed. -/
theorem contains_iff_mem_keys (d : Dict κ α) (k : κ) : d.contains k = true ↔ k ∈ d.keys := by
  rw [contains_iff, mem_keys_iff]

/-- Nothing is found under a key that is not listed. -/
theorem find?_eq_none_iff (d : Dict κ α) (k : κ) : d.find? k = none ↔ k ∉ d.keys := by
  rw [mem_keys_iff, ← Option.isSome_iff_exists, Option.not_isSome_iff_eq_none]

/-- Two dictionaries agree wherever both hold something. -/
def Agree (d e : Dict κ α) : Prop :=
  ∀ ⦃k v w⦄, d.find? k = some v → e.find? k = some w → v = w

/-- Dictionaries without a common key agree. -/
theorem agree_of_disjoint {d e : Dict κ α} (h : d.keys.Disjoint e.keys) : d.Agree e :=
  fun k v w hv hw =>
    absurd ((mem_keys_iff e k).2 ⟨w, hw⟩) (h ((mem_keys_iff d k).2 ⟨v, hv⟩))

/-- What is found is an entry. -/
theorem mem_entries_of_find? {d : Dict κ α} {k : κ} {v : α} (h : d.find? k = some v) :
    (k, v) ∈ d.entries := by
  obtain ⟨l⟩ := d
  simp only [find?] at h
  induction l with
  | nil => simp at h
  | cons e rest ih =>
    obtain ⟨k', v'⟩ := e
    by_cases hk : k = k'
    · subst hk
      obtain rfl : v' = v := by simpa using h
      exact List.mem_cons_self
    · rw [lookup_cons_of_ne hk] at h
      exact List.mem_cons_of_mem _ (ih h)

/-- What is found is the value of the first entry with the key. -/
theorem find?_eq_map_find? (d : Dict κ α) (k : κ) :
    d.find? k = (d.entries.find? fun e => e.1 == k).map Prod.snd := by
  obtain ⟨l⟩ := d
  simp only [find?]
  induction l with
  | nil => rfl
  | cons e rest ih =>
    obtain ⟨k', v'⟩ := e
    by_cases hk : k = k'
    · subst hk; simp
    · rw [lookup_cons_of_ne hk, ih, List.find?_cons_of_neg (by simpa using Ne.symm hk)]

/-- Looking up after a change of the values that depends on their keys. -/
theorem find?_mapWithKey (f : κ → α → β) (d : Dict κ α) (k : κ) :
    (d.mapWithKey f).find? k = (d.find? k).map (f k) := by
  obtain ⟨l⟩ := d
  simp only [find?, mapWithKey]
  induction l with
  | nil => rfl
  | cons e rest ih =>
    obtain ⟨k', v'⟩ := e
    by_cases hk : k = k'
    · subst hk; simp
    · simpa [lookup_cons_of_ne hk] using ih

/-- Looking up after a change of the values. -/
@[simp] theorem find?_map (f : α → β) (d : Dict κ α) (k : κ) :
    (d.map f).find? k = (d.find? k).map f :=
  find?_mapWithKey (fun _ => f) d k

/-- Looking up after a change of one value. -/
theorem find?_adjust [DecidableEq κ] (d : Dict κ α) (k k₁ : κ) (f : α → α) :
    (d.adjust k f).find? k₁ = if k₁ = k then (d.find? k₁).map f else d.find? k₁ := by
  have hadjust : d.adjust k f = d.mapWithKey fun k' v => if k' = k then f v else v := by
    refine congrArg Dict.mk (List.map_congr_left fun e _ => ?_)
    by_cases h : e.1 = k <;> simp [h]
  rw [hadjust, find?_mapWithKey]
  by_cases h : k₁ = k <;> simp [h]

/-- Looking up among the entries whose keys pass a test. -/
theorem lookup_filter_key (p : κ → Bool) (l : List (κ × α)) (k : κ) :
    (l.filter fun e => p e.1).lookup k = if p k then l.lookup k else none := by
  induction l with
  | nil => simp
  | cons e rest ih =>
    obtain ⟨k', v'⟩ := e
    by_cases hk : k = k'
    · subst hk
      by_cases hp : p k = true
      · simp [hp]
      · simpa [hp] using ih
    · rw [lookup_cons_of_ne hk]
      by_cases hp : p k' = true
      · simpa [hp, lookup_cons_of_ne hk] using ih
      · simpa [hp] using ih

/-- Where each key stands once, the pairs of a list are what is looked up in it. -/
theorem mem_iff_lookup {l : List (κ × α)} (hn : (l.map Prod.fst).Nodup) (k : κ) (v : α) :
    (k, v) ∈ l ↔ l.lookup k = some v := by
  refine ⟨fun hm => ?_, fun h => mem_entries_of_find? (d := ⟨l⟩) h⟩
  induction l with
  | nil => simp at hm
  | cons e rest ih =>
    obtain ⟨k', v'⟩ := e
    rw [List.map_cons, List.nodup_cons] at hn
    rcases List.mem_cons.1 hm with heq | hrest
    · obtain ⟨rfl, rfl⟩ := Prod.mk.inj heq
      simp
    · -- the key stands further on, so it is not the first one
      have hk : k ≠ k' := by
        rintro rfl
        exact hn.1 (List.mem_map.2 ⟨_, hrest, rfl⟩)
      rw [lookup_cons_of_ne hk]
      exact ih hn.2 hrest

/-- Looking up after a removal. -/
theorem find?_erase [DecidableEq κ] (d : Dict κ α) (k k₁ : κ) :
    (d.erase k).find? k₁ = if k₁ = k then none else d.find? k₁ := by
  rw [erase, find?, lookup_filter_key (fun k' => !(k' == k))]
  by_cases h : k₁ = k
  · simp [h]
  · simp [h, find?]

/-- The keys after a removal are the other ones. -/
theorem mem_keys_erase (d : Dict κ α) (k k₁ : κ) : k₁ ∈ (d.erase k).keys ↔ k₁ ∈ d.keys ∧ k₁ ≠ k := by
  simp only [keys, erase, List.mem_map, List.mem_filter, Bool.not_eq_true', beq_eq_false_iff_ne]
  constructor
  · rintro ⟨e, ⟨he, hne⟩, rfl⟩
    exact ⟨⟨e, he, rfl⟩, hne⟩
  · rintro ⟨⟨e, he, rfl⟩, hne⟩
    exact ⟨e, ⟨he, hne⟩, rfl⟩

/-- A key that is not there need not be removed. -/
theorem erase_of_not_mem {d : Dict κ α} {k : κ} (h : k ∉ d.keys) : d.erase k = d := by
  refine congrArg Dict.mk (List.filter_eq_self.2 fun e he => ?_)
  have hne : e.1 ≠ k := fun heq => h (heq ▸ List.mem_map_of_mem he)
  simpa using hne

end Lookup

/-! ## Insertion -/

section Insertion

variable [Ord κ]

/-- The keys after an insertion are the new key and the earlier ones. -/
theorem mem_keys_insert [Std.LawfulEqOrd κ] (d : Dict κ α) (k k₁ : κ) (v : α) :
    k₁ ∈ (d.insert k v).keys ↔ k₁ = k ∨ k₁ ∈ d.keys := by
  obtain ⟨l⟩ := d
  simp only [keys, Dict.insert]
  induction l with
  | nil => simp [insertEntry]
  | cons e rest ih =>
    obtain ⟨k', v'⟩ := e
    simp only [insertEntry]
    split
    · simp
    · next heq =>
      obtain rfl : k = k' := Std.LawfulEqOrd.eq_of_compare heq
      simp
    · simp only [List.map_cons, List.mem_cons, ih]
      tauto

/-- Storing a value and changing all values may be done in either order. -/
theorem map_insert (f : α → β) (d : Dict κ α) (k : κ) (v : α) :
    (d.insert k v).map f = (d.map f).insert k (f v) := by
  obtain ⟨l⟩ := d
  refine congrArg Dict.mk ?_
  simp only [map, Dict.insert]
  induction l with
  | nil => rfl
  | cons e rest ih =>
    obtain ⟨k', v'⟩ := e
    simp only [insertEntry, List.map_cons]
    cases compare k k' with
    | lt => rfl
    | eq => rfl
    | gt => exact congrArg (List.cons (k', f v')) ih

variable [BEq κ] [LawfulBEq κ] [Std.LawfulEqOrd κ] [DecidableEq κ]

/-- Looking up after an insertion. -/
theorem find?_insert (d : Dict κ α) (k k₁ : κ) (v : α) :
    (d.insert k v).find? k₁ = if k₁ = k then some v else d.find? k₁ := by
  by_cases h : k₁ = k
  · subst h; simp
  · rw [if_neg h, find?_insert_of_ne d h]

/-- Looking up after an insertion that leaves an old value alone. -/
theorem find?_insertNew (d : Dict κ α) (k k₁ : κ) (v : α) :
    (d.insertNew k v).find? k₁ = (d.find? k₁).or (if k₁ = k then some v else none) := by
  unfold insertNew
  by_cases hc : d.contains k = true
  · -- the key is taken, and keeps its value
    rw [if_pos hc]
    by_cases h : k₁ = k
    · subst h
      obtain ⟨x, hx⟩ := (contains_iff d k₁).1 hc
      simp [hx]
    · simp [h]
  · rw [if_neg hc, find?_insert]
    by_cases h : k₁ = k
    · subst h
      have hn : d.find? k₁ = none := (contains_eq_false_iff d k₁).1 (by simpa using hc)
      simp [hn]
    · simp [h]

/-- After storing many values where the keys are free, an old value stands, else the first new one. -/
theorem find?_foldl_insertNew {γ : Type*} (key : γ → κ) (value : γ → α) (l : List γ) (d : Dict κ α)
    (k : κ) :
    (l.foldl (fun d x => d.insertNew (key x) (value x)) d).find? k
      = (d.find? k).or ((l.find? fun x => key x == k).map value) := by
  induction l generalizing d with
  | nil => simp
  | cons x rest ih =>
    rw [List.foldl_cons, ih, find?_insertNew]
    by_cases h : k = key x
    · -- later values under the key of `x` no longer count
      subst h
      cases d.find? (key x) <;> simp
    · have hb : (key x == k) = false := by simpa using fun e => h e.symm
      simp [h, hb]

/-- After storing many values, the last new one stands, else an old one. -/
theorem find?_foldl_insert {γ : Type*} (key : γ → κ) (value : γ → α) (l : List γ) (d : Dict κ α)
    (k : κ) :
    (l.foldl (fun d x => d.insert (key x) (value x)) d).find? k
      = (((l.filter fun x => key x == k).getLast?).map value).or (d.find? k) := by
  induction l using List.reverseRecOn with
  | nil => rfl
  | append_singleton l x ih =>
    rw [List.foldl_concat, find?_insert, List.filter_append]
    by_cases h : k = key x
    · -- earlier values under the key of `x` no longer count
      subst h
      simp
    · have hb : (key x == k) = false := by simpa using fun e => h e.symm
      rw [if_neg h, ih, List.filter_singleton, hb]
      simp

end Insertion

/-! ## Sorted dictionaries -/

section Sorted

variable [Ord κ]

/-- An insertion that leaves an old value alone keeps a dictionary sorted. -/
theorem Sorted.insertNew [BEq κ] [Std.TransOrd κ] [Std.LawfulEqOrd κ] {d : Dict κ α}
    (h : d.Sorted) (k : κ) (v : α) : (d.insertNew k v).Sorted := by
  unfold Dict.insertNew
  split
  · exact h
  · exact h.insert k v

/-- Whether a dictionary is sorted shows in its keys alone. -/
theorem sorted_iff_pairwise_keys (d : Dict κ α) :
    d.Sorted ↔ d.keys.Pairwise fun k k' => compare k k' = .lt := by
  rw [Sorted, keys, List.pairwise_map]

/-- Changing a value keeps a dictionary sorted. -/
theorem Sorted.adjust [BEq κ] {d : Dict κ α} (h : d.Sorted) (k : κ) (f : α → α) :
    (d.adjust k f).Sorted := by
  rw [sorted_iff_pairwise_keys, keys_adjust]
  exact (sorted_iff_pairwise_keys d).1 h

variable [Std.LawfulEqOrd κ]

/-- In a sorted dictionary each key stands once. -/
theorem Sorted.nodup_keys {d : Dict κ α} (h : d.Sorted) : d.keys.Nodup := by
  unfold Dict.keys
  rw [List.Nodup, List.pairwise_map]
  refine List.Pairwise.imp (fun {a b} hab e => ?_) h
  rw [e, Std.ReflOrd.compare_self] at hab
  exact Ordering.noConfusion hab

variable [BEq κ] [LawfulBEq κ]

/-- The entries of a sorted dictionary are what is found in it. -/
theorem mem_entries_iff {d : Dict κ α} (h : d.Sorted) (k : κ) (v : α) :
    (k, v) ∈ d.entries ↔ d.find? k = some v :=
  mem_iff_lookup h.nodup_keys k v

/-- The values of a sorted dictionary are what is found in it. -/
theorem mem_values_iff {d : Dict κ α} (h : d.Sorted) (v : α) :
    v ∈ d.values ↔ ∃ k, d.find? k = some v := by
  rw [values, List.mem_map]
  constructor
  · rintro ⟨e, he, rfl⟩
    exact ⟨e.1, (mem_entries_iff h e.1 e.2).1 he⟩
  · rintro ⟨k, hk⟩
    exact ⟨(k, v), mem_entries_of_find? hk, rfl⟩

end Sorted

/-! ## Many insertions -/

section Many

/-- Pairs may be stored in two parts. -/
theorem insertAll_append [Ord κ] (d : Dict κ α) (l l' : List (κ × α)) :
    d.insertAll (l ++ l') = (d.insertAll l).insertAll l' :=
  List.foldl_append

/-- The keys after pairs were stored are theirs and the earlier ones. -/
theorem mem_keys_insertAll [Ord κ] [Std.LawfulEqOrd κ] (d : Dict κ α) (l : List (κ × α))
    (k : κ) : k ∈ (d.insertAll l).keys ↔ k ∈ l.map Prod.fst ∨ k ∈ d.keys := by
  induction l generalizing d with
  | nil => simp [insertAll]
  | cons e rest ih =>
    rw [insertAll, List.foldl_cons]
    -- what is left is an `insertAll` into the dictionary with the first pair
    refine (ih (d.insert e.1 e.2)).trans ?_
    rw [mem_keys_insert, List.map_cons, List.mem_cons]
    tauto

/-- The keys of a union are those of either. -/
theorem mem_keys_union [Ord κ] [Std.LawfulEqOrd κ] (d e : Dict κ α) (k : κ) :
    k ∈ (d.union e).keys ↔ k ∈ d.keys ∨ k ∈ e.keys :=
  (mem_keys_insertAll d e.entries k).trans Or.comm

/-- Pairs are fresh for a dictionary when no key stands twice, be it there or among them. -/
def Fresh [BEq κ] (d : Dict κ α) (l : List (κ × α)) : Prop :=
  (l.map Prod.fst).Nodup ∧ ∀ k ∈ l.map Prod.fst, d.contains k = false

variable [Ord κ] [BEq κ] [LawfulBEq κ] [Std.LawfulEqOrd κ]

/-- Pairs are fresh when some are and the others are after them. -/
theorem fresh_append (d : Dict κ α) (l l' : List (κ × α)) :
    d.Fresh (l ++ l') ↔ d.Fresh l ∧ (d.insertAll l).Fresh l' := by
  have hcontains : ∀ (e : Dict κ α) k, e.contains k = false ↔ k ∉ e.keys := fun e k => by
    rw [contains_eq_false_iff, find?_eq_none_iff]
  simp only [Fresh, hcontains, mem_keys_insertAll, List.map_append, List.nodup_append,
    List.mem_append]
  -- A key that the later pairs share with the earlier ones is there once these are stored.
  constructor
  · rintro ⟨⟨hl, hl', hdisj⟩, hnew⟩
    exact ⟨⟨hl, fun k hk => hnew k (Or.inl hk)⟩, hl',
      fun k hk h => h.elim (fun h => hdisj k h k hk rfl) (hnew k (Or.inr hk))⟩
  · rintro ⟨⟨hl, hnew⟩, hl', hnew'⟩
    exact ⟨⟨hl, hl', fun k hk k' hk' e => hnew' k' hk' (Or.inl (e ▸ hk))⟩,
      fun k hk => hk.elim (hnew k) fun hk h => hnew' k hk (Or.inr h)⟩

variable [DecidableEq κ]

/-- What is found after pairs were stored is one of them, or was there. -/
theorem mem_or_find?_of_find?_insertAll {d : Dict κ α} {l : List (κ × α)} {k : κ} {v : α}
    (h : (d.insertAll l).find? k = some v) : (k, v) ∈ l ∨ d.find? k = some v := by
  induction l generalizing d with
  | nil => exact Or.inr h
  | cons e rest ih =>
    rw [insertAll, List.foldl_cons] at h
    obtain hmem | hfind := ih (d := d.insert e.1 e.2) h
    · exact Or.inl (List.mem_cons_of_mem _ hmem)
    · rw [find?_insert] at hfind
      split at hfind
      · -- the pair is the first one
        next hk =>
        obtain rfl := Option.some.inj hfind
        exact Or.inl (hk ▸ List.mem_cons_self)
      · exact Or.inr hfind

/-- After pairs with distinct keys were stored, what they hold is found, and else what was there. -/
theorem find?_insertAll (d : Dict κ α) {l : List (κ × α)} (hn : (l.map Prod.fst).Nodup) (k : κ) :
    (d.insertAll l).find? k = (l.lookup k).or (d.find? k) := by
  induction l generalizing d with
  | nil => simp [insertAll]
  | cons e rest ih =>
    obtain ⟨k', v'⟩ := e
    rw [List.map_cons, List.nodup_cons] at hn
    rw [insertAll, List.foldl_cons]
    refine (ih (d.insert k' v') hn.2).trans ?_
    rw [find?_insert]
    by_cases h : k = k'
    · subst h
      have hnone : rest.lookup k = none := (find?_eq_none_iff (Dict.mk rest) k).2 hn.1
      simp [hnone]
    · simp [lookup_cons_of_ne h, h]

/-- A union holds what the second dictionary holds, and else what the first does. -/
theorem find?_union (d : Dict κ α) {e : Dict κ α} (he : e.Sorted) (k : κ) :
    (d.union e).find? k = (e.find? k).or (d.find? k) :=
  find?_insertAll d he.nodup_keys k

/-- The pairs of a list in which each key stands once are what is found in its dictionary. -/
theorem find?_ofList_eq_some_iff {l : List (κ × α)} (hn : (l.map Prod.fst).Nodup) (k : κ) (v : α) :
    (ofList l).find? k = some v ↔ (k, v) ∈ l := by
  rw [ofList, find?_insertAll ∅ hn, find?_empty, Option.or_none, mem_iff_lookup hn]

/-- **The last pair under a key counts.** -/
theorem find?_ofList_iff (l : List (κ × α)) (k : κ) (v : α) :
    (ofList l).find? k = some v ↔
      ∃ before after, l = before ++ (k, v) :: after ∧ k ∉ after.map Prod.fst := by
  induction l using List.reverseRecOn with
  | nil => simp [ofList, insertAll]
  | append_singleton l e ih =>
    obtain ⟨k', v'⟩ := e
    have hlast : ofList (l ++ [(k', v')]) = (ofList l).insert k' v' := by
      rw [ofList, insertAll_append]
      rfl
    rw [hlast, find?_insert]
    constructor
    · intro hfind
      by_cases hk : k = k'
      · rw [if_pos hk] at hfind
        obtain rfl := Option.some.inj hfind
        exact ⟨l, [], by rw [hk], List.not_mem_nil⟩
      · rw [if_neg hk, ih] at hfind
        obtain ⟨before, after, rfl, hafter⟩ := hfind
        exact ⟨before, after ++ [(k', v')], by simp, by simp [hafter, hk]⟩
    · rintro ⟨before, after, hl, hafter⟩
      rcases List.eq_nil_or_concat after with rfl | ⟨after, e, rfl⟩
      · obtain ⟨-, he⟩ := List.append_inj' hl rfl
        cases he
        exact if_pos rfl
      · rw [List.concat_eq_append, ← List.cons_append, ← List.append_assoc] at hl
        obtain ⟨hinit, he⟩ := List.append_inj' hl rfl
        cases he
        simp only [List.concat_eq_append, List.map_append, List.map_singleton, List.mem_append,
          List.mem_singleton, not_or] at hafter
        rw [if_neg hafter.2]
        exact ih.2 ⟨before, after, hinit, hafter.1⟩

end Many

/-! ## Insertions that do not count -/

section Replaced

variable [Ord κ] [Std.LawfulEqOrd κ]

/-- Of two values stored under one key the second counts. -/
theorem insert_insert_self (d : Dict κ α) (k : κ) (v w : α) :
    (d.insert k v).insert k w = d.insert k w := by
  obtain ⟨l⟩ := d
  refine congrArg Dict.mk ?_
  simp only [Dict.insert]
  induction l with
  | nil => simp [insertEntry]
  | cons e rest ih =>
    obtain ⟨k', v'⟩ := e
    simp only [insertEntry]
    cases h : compare k k' with
    | lt => simp [insertEntry]
    | eq => simp [insertEntry]
    | gt => simp [insertEntry, h, ih]

variable [Std.TransOrd κ]

/-- Entries with two keys in order may be put in either order. -/
theorem insertEntry_comm_of_lt {k k' : κ} (h : compare k k' = .lt) (v w : α) (l : List (κ × α)) :
    insertEntry k' w (insertEntry k v l) = insertEntry k v (insertEntry k' w l) := by
  have hgt : compare k' k = .gt := Std.OrientedCmp.gt_of_lt h
  induction l with
  | nil => simp [insertEntry, h, hgt]
  | cons e rest ih =>
    obtain ⟨k₀, v₀⟩ := e
    simp only [insertEntry]
    cases hk : compare k k₀ with
    | lt => cases hk' : compare k' k₀ <;> simp [insertEntry, h, hgt, hk, hk']
    | eq =>
      obtain rfl : k = k₀ := Std.LawfulEqOrd.eq_of_compare hk
      simp [insertEntry, hgt]
    | gt =>
      -- the greater key goes past the entry, too
      have hk' : compare k' k₀ = .gt := Std.TransCmp.gt_trans hgt hk
      simp [insertEntry, hk, hk', ih]

/-- Values under different keys may be stored in either order. -/
theorem insert_comm {k k' : κ} (h : k ≠ k') (d : Dict κ α) (v w : α) :
    (d.insert k v).insert k' w = (d.insert k' w).insert k v := by
  cases hk : compare k k' with
  | lt => exact congrArg Dict.mk (insertEntry_comm_of_lt hk v w d.entries)
  | eq => exact absurd (Std.LawfulEqOrd.eq_of_compare hk) h
  | gt =>
    have hlt : compare k' k = .lt := Std.OrientedCmp.lt_of_gt hk
    exact congrArg Dict.mk (insertEntry_comm_of_lt hlt w v d.entries).symm

/-- A value need not be stored where a later pair has its key. -/
theorem insertAll_insert_of_mem {k : κ} {l : List (κ × α)} (h : k ∈ l.map Prod.fst) (d : Dict κ α)
    (v : α) : (d.insert k v).insertAll l = d.insertAll l := by
  induction l generalizing d with
  | nil => simp at h
  | cons e rest ih =>
    simp only [insertAll, List.foldl_cons]
    by_cases hk : k = e.1
    · rw [hk, insert_insert_self]
    · rw [insert_comm hk]
      exact ih ((List.mem_cons.1 h).resolve_left hk) _

/-- Pairs need not be stored where later pairs have all their keys. -/
theorem insertAll_insertAll_of_subset {l l' : List (κ × α)} (h : l'.map Prod.fst ⊆ l.map Prod.fst)
    (d : Dict κ α) : (d.insertAll l').insertAll l = d.insertAll l := by
  induction l' generalizing d with
  | nil => rfl
  | cons e rest ih =>
    obtain ⟨he, hrest⟩ := List.cons_subset.1 h
    exact (ih hrest (d.insert e.1 e.2)).trans (insertAll_insert_of_mem he d e.2)

end Replaced

/-! ## Equality -/

section Equality

variable [Ord κ] [Std.TransOrd κ]

/-- Two lists that increase strictly by a key, and have the same members, are one. -/
theorem eq_of_mem_iff_of_increasing {γ : Type w} (key : γ → κ) {l l' : List γ}
    (hl : l.Pairwise fun a b => compare (key a) (key b) = .lt)
    (hl' : l'.Pairwise fun a b => compare (key a) (key b) = .lt) (h : ∀ a, a ∈ l ↔ a ∈ l') :
    l = l' := by
  have hirrefl : Std.Irrefl fun a b : γ => compare (key a) (key b) = .lt :=
    ⟨fun a ha => by rw [Std.ReflOrd.compare_self] at ha; exact nomatch ha⟩
  have hantisymm : Std.Antisymm fun a b : γ => compare (key a) (key b) = .lt :=
    ⟨fun a b hab hba => absurd (Std.TransCmp.lt_trans hab hba) (hirrefl.irrefl a)⟩
  exact hl.eq_of_mem_iff hl' h

variable [Std.LawfulEqOrd κ]

/-- A union with a sorted dictionary is sorted. -/
theorem Sorted.union {d : Dict κ α} (hd : d.Sorted) (e : Dict κ α) : (d.union e).Sorted :=
  hd.insertAll e.entries

variable [BEq κ] [LawfulBEq κ]

/-- **Sorted dictionaries in which the same is found are one.** -/
theorem Sorted.ext {d e : Dict κ α} (hd : d.Sorted) (he : e.Sorted)
    (h : ∀ k, d.find? k = e.find? k) : d = e := by
  have hentries : d.entries = e.entries := by
    refine eq_of_mem_iff_of_increasing Prod.fst hd he fun x => ?_
    rw [mem_entries_iff hd, mem_entries_iff he, h x.1]
  exact congrArg Dict.mk hentries

variable [DecidableEq κ]

/-- What a dictionary is made of gives it back. -/
theorem ofList_entries {d : Dict κ α} (h : d.Sorted) : ofList d.entries = d := by
  refine (sorted_ofList _).ext h fun k => Option.ext fun v => ?_
  rw [find?_ofList_eq_some_iff h.nodup_keys, mem_entries_iff h]

/-- The entries of the dictionary of a list come from the list. -/
theorem mem_of_mem_entries_ofList {l : List (κ × α)} {e : κ × α} (h : e ∈ (ofList l).entries) :
    e ∈ l := by
  have hfind := (mem_entries_iff (sorted_ofList l) e.1 e.2).1 h
  refine (mem_or_find?_of_find?_insertAll hfind).resolve_right fun hempty => ?_
  rw [find?_empty] at hempty
  cases hempty

/-- The dictionary of pairs with distinct keys has their values, if in another order. -/
theorem values_ofList_perm {l : List (κ × α)} (hn : (l.map Prod.fst).Nodup) :
    (ofList l).values.Perm (l.map Prod.snd) := by
  have hentries : (ofList l).entries.Nodup := (sorted_ofList l).nodup_keys.of_map _
  refine List.Perm.map _ ((List.perm_ext_iff_of_nodup hentries (hn.of_map _)).2 fun e => ?_)
  rw [mem_entries_iff (sorted_ofList l), find?_ofList_eq_some_iff hn]

/-- Where dictionaries agree, it does not matter which one has the word. -/
theorem union_comm {d e : Dict κ α} (hd : d.Sorted) (he : e.Sorted) (h : d.Agree e) :
    d.union e = e.union d := by
  refine (hd.union e).ext (he.union d) fun k => ?_
  rw [find?_union d he, find?_union e hd]
  cases hk : d.find? k with
  | none => rw [Option.or_none, Option.none_or]
  | some v =>
    cases hk' : e.find? k with
    | none => rfl
    | some w => rw [h hk hk']

/-- A dictionary in which is found what is found in either of two others is their union, and these
agree. -/
theorem eq_union_of_find?_iff {d e f : Dict κ α} (hd : d.Sorted) (he : e.Sorted) (hf : f.Sorted)
    (h : ∀ k v, f.find? k = some v ↔ d.find? k = some v ∨ e.find? k = some v) :
    f = d.union e ∧ d.Agree e := by
  have hagree : d.Agree e := by
    intro k v w hv hw
    exact Option.some.inj (((h k v).2 (Or.inl hv)).symm.trans ((h k w).2 (Or.inr hw)))
  refine ⟨hf.ext (hd.union e) fun k => Option.ext fun v => ?_, hagree⟩
  rw [h k v, find?_union d he]
  cases hk : e.find? k with
  | none => simp
  | some w =>
    rw [Option.some_or]
    refine ⟨fun hv => hv.elim (fun hv => ?_) id, Or.inr⟩
    rw [hagree hv hk]

/-- Pairs with distinct keys are stored as their dictionary is. -/
theorem insertAll_eq_union {d : Dict κ α} (hd : d.Sorted) {l : List (κ × α)}
    (hn : (l.map Prod.fst).Nodup) : d.insertAll l = d.union (ofList l) := by
  refine (hd.insertAll l).ext (hd.union _) fun k => ?_
  rw [find?_insertAll d hn, find?_union d (sorted_ofList l), ofList, find?_insertAll ∅ hn,
    find?_empty, Option.or_none]

end Equality

end Dict

end Swagger
