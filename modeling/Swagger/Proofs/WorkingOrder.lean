import Swagger.Proofs.Surviving

/-! # The order in which routes are worked on
The surviving routes are worked on service by service, the routes of a service path by path, and the
routes of a path as they were registered. So each service sorts its routes by their paths, and the sort
is stable.

* `Stable.sortBy` — a stable sort by a key; `Stable.sortBy_eq` — the one list that is sorted and keeps
  the order of equal keys.
* `RouteSet.inOrder`, `Config.inOrder` — the surviving routes in the order in which they are worked on.
* `Config.inOrder_eq_flatMap` — this is the order of the live groups. -/

namespace Swagger

/-! ## Stable sorting -/

namespace Stable

universe u v

variable {α : Type u} {κ : Type v} [Ord κ]

/-- Whether an element may stand before another by its key. -/
def precedes (key : α → κ) (a b : α) : Bool := (compare (key a) (key b)).isLE

/-- A list sorted by a key, in which elements with one key stay in their order. -/
def sortBy (key : α → κ) (l : List α) : List α := l.mergeSort (precedes key)

variable (key : α → κ)

/-- Sorting neither makes nor loses an element. -/
theorem sortBy_perm (l : List α) : (sortBy key l).Perm l := List.mergeSort_perm _ _

variable [Std.TransOrd κ]

/-- Precedence is transitive. -/
theorem precedes_trans (a b c : α) (hab : precedes key a b = true) (hbc : precedes key b c = true) :
    precedes key a c = true :=
  Std.TransCmp.isLE_trans hab hbc

/-- Of two elements one precedes the other. -/
theorem precedes_total (a b : α) : (precedes key a b || precedes key b a) = true := by
  have hswap : compare (key b) (key a) = (compare (key a) (key b)).swap := Std.OrientedCmp.eq_swap
  rw [precedes, precedes, hswap]
  cases compare (key a) (key b) <;> rfl

/-- Sorted elements precede those after them. -/
theorem pairwise_sortBy (l : List α) :
    (sortBy key l).Pairwise fun a b => precedes key a b = true :=
  List.pairwise_mergeSort (precedes_trans key) (precedes_total key) l

variable [Std.LawfulEqOrd κ] [DecidableEq κ] {key}

/-- The elements with one key stay in their order. -/
theorem filter_sortBy (l : List α) (k : κ) :
    (sortBy key l).filter (fun a => key a = k) = l.filter fun a => key a = k := by
  have hsorted : (l.filter fun a => key a = k).Pairwise fun a b => precedes key a b = true := by
    refine List.pairwise_of_forall_mem_list fun a ha b hb => ?_
    have hka : key a = k := of_decide_eq_true (List.mem_filter.1 ha).2
    have hkb : key b = k := of_decide_eq_true (List.mem_filter.1 hb).2
    rw [precedes, hka, hkb]
    exact Std.ReflCmp.isLE_rfl
  -- they are a sorted part of the list, and stay a part of it when it is sorted
  have hsub := (List.sublist_mergeSort (precedes_trans key) (precedes_total key) hsorted
    List.filter_sublist).filter fun a => key a = k
  rw [List.filter_filter] at hsub
  simp only [Bool.and_self] at hsub
  exact (hsub.eq_of_length ((sortBy_perm key l).filter _).length_eq.symm).symm

/-- Two sorted lists with the same elements of each key in the same order are one. -/
theorem eq_of_filter_eq {l l' : List α} (hl : l.Pairwise fun a b => precedes key a b = true)
    (hl' : l'.Pairwise fun a b => precedes key a b = true)
    (h : ∀ k, l.filter (fun a => key a = k) = l'.filter fun a => key a = k) : l = l' := by
  induction l generalizing l' with
  | nil =>
    cases l' with
    | nil => rfl
    | cons b rest' => simpa using h (key b)
  | cons a rest ih =>
    cases l' with
    | nil => simpa using h (key a)
    | cons b rest' =>
      rw [List.pairwise_cons] at hl hl'
      have hmem : ∀ x, x ∈ a :: rest ↔ x ∈ b :: rest' := by
        intro x
        have hx := congrArg (x ∈ ·) (h (key x))
        simpa using hx
      have hab : precedes key a b = true := by
        rcases List.mem_cons.1 ((hmem b).2 List.mem_cons_self) with rfl | hb
        · exact Std.ReflCmp.isLE_rfl
        · exact hl.1 b hb
      have hba : precedes key b a = true := by
        rcases List.mem_cons.1 ((hmem a).1 List.mem_cons_self) with rfl | ha
        · exact Std.ReflCmp.isLE_rfl
        · exact hl'.1 a ha
      have hkey : key a = key b :=
        Std.LawfulEqOrd.eq_of_compare (Std.OrientedCmp.isLE_antisymm hab hba)
      -- the first elements have one key, and are the first of their key
      have hhead := h (key a)
      simp only [List.filter_cons, hkey, decide_true, if_true, List.cons.injEq] at hhead
      obtain ⟨rfl, -⟩ := hhead
      refine congrArg (List.cons a) (ih hl.2 hl'.2 fun k => ?_)
      have hk := h k
      simp only [List.filter_cons] at hk
      split at hk
      · exact (List.cons.inj hk).2
      · exact hk

/-- The stable sort of a list is the sorted list with the same elements of each key in their order. -/
theorem sortBy_eq {l l' : List α} (hl' : l'.Pairwise fun a b => precedes key a b = true)
    (h : ∀ k, l.filter (fun a => key a = k) = l'.filter fun a => key a = k) : sortBy key l = l' :=
  eq_of_filter_eq (pairwise_sortBy key l) hl' fun k => (filter_sortBy l k).trans (h k)

end Stable

/-! ## Routes -/

namespace RouteSet

/-- The surviving routes of a service, path by path, and those of a path as they were registered. -/
def inOrder (c : Config) (s : RouteSet) : List Route := Stable.sortBy Route.path (s.surviving c)

/-- The live groups of a service are those of some paths in order. -/
theorem exists_live_eq_map (c : Config) (s : RouteSet) : ∃ paths : List String,
    s.live c = paths.map s.groupAt ∧ paths.Pairwise fun p q => compare p q = .lt := by
  have hsorted : s.groups.keys.Pairwise fun p q => compare p q = .lt := by
    rw [Dict.keys, List.pairwise_map]
    exact s.sorted_groups
  unfold live
  split
  · exact ⟨[], rfl, List.Pairwise.nil⟩
  · rw [List.filter_map]
    exact ⟨_, rfl, hsorted.sublist List.filter_sublist⟩

/-- Of the groups of distinct paths, the routes of one path are those of its group. -/
theorem filter_flatMap_groupAt (s : RouteSet) {paths : List String} (hn : paths.Nodup) (k : String) :
    (paths.flatMap fun path => (s.groupAt path).supported).filter (fun r => r.path = k)
      = if k ∈ paths then (s.groupAt k).supported else [] := by
  induction paths with
  | nil => rfl
  | cons path rest ih =>
    rw [List.nodup_cons] at hn
    rw [List.flatMap_cons, List.filter_append, ih hn.2]
    have hpath : ∀ r ∈ (s.groupAt path).supported, r.path = path := fun r hr =>
      ((s.mem_supported_groupAt path r).1 hr).2.1
    by_cases h : path = k
    · -- all routes of the group have the path, and no later group has it
      subst h
      rw [List.filter_eq_self.2 fun r hr => decide_eq_true (hpath r hr), if_neg hn.1,
        List.append_nil, if_pos List.mem_cons_self]
    · have hnone : (s.groupAt path).supported.filter (fun r => r.path = k) = [] := by
        rw [List.filter_eq_nil_iff]
        exact fun r hr hk => h ((hpath r hr).symm.trans (of_decide_eq_true hk))
      simp [hnone, Ne.symm h]

/-- The surviving routes that were registered under the path of a live group are those of the group. -/
theorem filter_path_of_live {c : Config} {s : RouteSet} {k : String} (h : s.groupAt k ∈ s.live c) :
    (s.surviving c).filter (fun r => r.path = k) = (s.groupAt k).supported := by
  obtain ⟨hroot, hpath, -⟩ := (s.mem_live c _).1 h
  rw [surviving, PathGroup.supported, groupAt, routesAt, List.filter_filter, List.filter_filter]
  refine List.filter_congr fun r _ => Bool.eq_iff_iff.2 ?_
  simp only [Bool.and_eq_true, decide_eq_true_eq]
  constructor
  · rintro ⟨hk, -, -, hmethod⟩
    exact ⟨hmethod, hk⟩
  · rintro ⟨hmethod, rfl⟩
    exact ⟨rfl, hroot, hpath, hmethod⟩

/-- Under the path of a group that is not live no route survives. -/
theorem filter_path_of_not_live {c : Config} {s : RouteSet} {k : String}
    (h : s.groupAt k ∉ s.live c) : (s.surviving c).filter (fun r => r.path = k) = [] := by
  rw [List.filter_eq_nil_iff]
  intro r hr hk
  obtain rfl : r.path = k := of_decide_eq_true hk
  exact h ((s.mem_surviving_iff c r).1 hr).1

/-- The surviving routes of a service in order are those of its live groups. -/
theorem inOrder_eq_flatMap (c : Config) (s : RouteSet) :
    s.inOrder c = (s.live c).flatMap PathGroup.supported := by
  obtain ⟨paths, hlive, hsorted⟩ := s.exists_live_eq_map c
  have hn : paths.Nodup := hsorted.imp fun {p q} h e => by
    rw [e, Std.ReflOrd.compare_self] at h
    exact nomatch h
  rw [hlive, List.flatMap_map]
  have hpath : ∀ path, ∀ r ∈ (s.groupAt path).supported, r.path = path := fun path r hr =>
    ((s.mem_supported_groupAt path r).1 hr).2.1
  refine Stable.sortBy_eq (List.pairwise_flatMap.2 ⟨fun path _ => ?_, ?_⟩) fun k => ?_
  · -- within a group all paths are one
    refine List.pairwise_of_forall_mem_list fun r hr r' hr' => ?_
    rw [Stable.precedes, hpath path r hr, hpath path r' hr']
    exact Std.ReflCmp.isLE_rfl
  · refine hsorted.imp fun {p q} h r hr r' hr' => ?_
    rw [Stable.precedes, hpath p r hr, hpath q r' hr', h]
    rfl
  · rw [s.filter_flatMap_groupAt hn]
    by_cases hk : s.groupAt k ∈ s.live c
    · rw [filter_path_of_live hk]
      obtain ⟨path, hmem, heq⟩ := List.mem_map.1 (hlive ▸ hk)
      -- a live group has a route, which tells its path
      obtain ⟨r, hr⟩ := List.exists_mem_of_ne_nil _ ((s.mem_live c _).1 hk).2.2.1
      obtain rfl : k = path := (hpath k r hr).symm.trans (hpath path r (heq ▸ hr))
      rw [if_pos hmem]
    · rw [filter_path_of_not_live hk, if_neg]
      rw [hlive] at hk
      exact fun hmem => hk (List.mem_map_of_mem hmem)

end RouteSet

namespace Config

/-- The surviving routes in the order in which they are worked on. -/
def inOrder (c : Config) (sets : List RouteSet) : List Route := sets.flatMap (RouteSet.inOrder c)

/-- They are the surviving routes in another order. -/
theorem inOrder_perm (c : Config) (sets : List RouteSet) :
    (c.inOrder sets).Perm (c.surviving sets) :=
  List.Perm.flatMap_left sets fun s _ => Stable.sortBy_perm Route.path (s.surviving c)

/-- They are those of the live groups, group by group. -/
theorem inOrder_eq_flatMap (c : Config) (sets : List RouteSet) :
    c.inOrder sets = (c.live sets).flatMap fun x => x.2.supported := by
  rw [inOrder, live, List.flatMap_assoc]
  refine congrArg (fun f => sets.flatMap f) (funext fun s => ?_)
  rw [s.inOrder_eq_flatMap, List.flatMap_map]

end Config

end Swagger
