import Swagger.Node
import Swagger.Proofs.Dict

/-! # Trees of JSON
What a program that reads or writes JSON relies on: which numbers a tree holds, that no key stands twice
in an object, and, for the free values that a document carries without looking into them, that the
members of every object stand in the order of their keys.

* `Number.Fits`, `Json.NumbersFit` — the numbers that a tree holds.
* `Json.WellFormed` — a tree as it is written; `Json.Free` — a tree as a free value.
* `Node.settled?_ofJson` — the kinds of a tree are decided already.
* `Node.json?_ofJson`, `Node.free_of_json?` — reading a free value gives it back, and whatever is read as
  one is one.
* `Node.depth_lt_of_mem_items`, `Node.depth_lt_of_mem_members` — what stands inside is less deep. -/

namespace Swagger

/-- A number that a tree holds: an integer of sixty-four bits, with or without a sign, or a finite
double. -/
def Number.Fits : Number → Prop
  | .int i => -0x8000000000000000 ≤ i ∧ i < 0x10000000000000000
  | .real d => d.isFinite = true

namespace Json

/-! ## Properties of trees -/

mutual

/-- Every number in the value is one that a tree holds. -/
def NumbersFit : Json → Prop
  | .num n => n.Fits
  | .arr items => ItemsNumbersFit items
  | .obj members => MembersNumbersFit members
  | _ => True

/-- Every number in the items is one that a tree holds. -/
def ItemsNumbersFit : List Json → Prop
  | [] => True
  | x :: rest => x.NumbersFit ∧ ItemsNumbersFit rest

/-- Every number in the values of the members is one that a tree holds. -/
def MembersNumbersFit : List (String × Json) → Prop
  | [] => True
  | (_, x) :: rest => x.NumbersFit ∧ MembersNumbersFit rest

end

/-- The numbers of an array fit if those of its items do. -/
theorem numbersFit_arr_iff (items : List Json) :
    (arr items).NumbersFit ↔ ∀ x ∈ items, x.NumbersFit := by
  rw [NumbersFit]
  induction items with
  | nil => simp [ItemsNumbersFit]
  | cons x rest ih => rw [ItemsNumbersFit, ih, List.forall_mem_cons]

/-- The numbers of an object fit if those of its members do. -/
theorem numbersFit_obj_iff (members : List (String × Json)) :
    (obj members).NumbersFit ↔ ∀ e ∈ members, e.2.NumbersFit := by
  rw [NumbersFit]
  induction members with
  | nil => simp [MembersNumbersFit]
  | cons e rest ih => rw [MembersNumbersFit, ih, List.forall_mem_cons]

/-- An array repeats no key if none of its items does. -/
theorem keysDistinct_arr_iff (items : List Json) :
    (arr items).KeysDistinct ↔ ∀ x ∈ items, x.KeysDistinct := by
  rw [KeysDistinct]
  induction items with
  | nil => simp [ItemsKeysDistinct]
  | cons x rest ih => rw [ItemsKeysDistinct, ih, List.forall_mem_cons]

/-- An object repeats no key if its own keys are distinct and no member repeats one. -/
theorem keysDistinct_obj_iff (members : List (String × Json)) :
    (obj members).KeysDistinct ↔
      (members.map Prod.fst).Nodup ∧ ∀ e ∈ members, e.2.KeysDistinct := by
  rw [KeysDistinct]
  refine and_congr Iff.rfl ?_
  induction members with
  | nil => simp [MembersKeysDistinct]
  | cons e rest ih => rw [MembersKeysDistinct, ih, List.forall_mem_cons]

/-- An array is canonical if its items are. -/
theorem canonical_arr_iff (items : List Json) :
    (arr items).Canonical ↔ ∀ x ∈ items, x.Canonical := by
  rw [Canonical]
  induction items with
  | nil => simp [ItemsCanonical]
  | cons x rest ih => rw [ItemsCanonical, ih, List.forall_mem_cons]

/-- An object is canonical if its keys are in order and its members are canonical. -/
theorem canonical_obj_iff (members : List (String × Json)) :
    (obj members).Canonical ↔ (Dict.mk members).Sorted ∧ ∀ e ∈ members, e.2.Canonical := by
  rw [Canonical]
  refine and_congr Iff.rfl ?_
  induction members with
  | nil => simp [MembersCanonical]
  | cons e rest ih => rw [MembersCanonical, ih, List.forall_mem_cons]

mutual

/-- Where members stand in the order of their keys, no key stands twice. -/
theorem Canonical.keysDistinct : ∀ {j : Json}, j.Canonical → j.KeysDistinct
  | .null, _ | .bool _, _ | .num _, _ | .str _, _ => trivial
  | .arr _, h => ItemsCanonical.keysDistinct h
  | .obj _, h => ⟨h.1.nodup_keys, MembersCanonical.keysDistinct h.2⟩

/-- Canonical items repeat no key. -/
theorem ItemsCanonical.keysDistinct : ∀ {items : List Json}, ItemsCanonical items →
    ItemsKeysDistinct items
  | [], _ => trivial
  | _ :: _, h => ⟨Canonical.keysDistinct h.1, ItemsCanonical.keysDistinct h.2⟩

/-- Canonical members repeat no key. -/
theorem MembersCanonical.keysDistinct : ∀ {members : List (String × Json)},
    MembersCanonical members → MembersKeysDistinct members
  | [], _ => trivial
  | _ :: _, h => ⟨Canonical.keysDistinct h.1, MembersCanonical.keysDistinct h.2⟩

end

/-- A tree as it is written: no key stands twice in an object, and its numbers are those of a tree. -/
structure WellFormed (j : Json) : Prop where
  /-- No key stands twice in an object. -/
  keysDistinct : j.KeysDistinct
  /-- The numbers are those of a tree. -/
  numbersFit : j.NumbersFit

/-- A free value: the members of each object stand in the order of their keys, and its numbers are those
of a tree. -/
structure Free (j : Json) : Prop where
  /-- Members stand in the order of their keys. -/
  canonical : j.Canonical
  /-- The numbers are those of a tree. -/
  numbersFit : j.NumbersFit

/-- A free value is well formed. -/
theorem Free.wellFormed {j : Json} (h : j.Free) : j.WellFormed :=
  ⟨h.canonical.keysDistinct, h.numbersFit⟩

/-- A boolean has no keys. -/
@[simp] theorem keysDistinct_bool (b : Bool) : (bool b).KeysDistinct := trivial

/-- A number has no keys. -/
@[simp] theorem keysDistinct_num (n : Number) : (num n).KeysDistinct := trivial

/-- A text has no keys. -/
@[simp] theorem keysDistinct_str (s : String) : (str s).KeysDistinct := trivial

/-- A text is well formed. -/
theorem wellFormed_str (s : String) : (str s).WellFormed := ⟨trivial, trivial⟩

/-- A boolean is well formed. -/
theorem wellFormed_bool (b : Bool) : (bool b).WellFormed := ⟨trivial, trivial⟩

/-- An array of well-formed items is well formed. -/
theorem wellFormed_arr {items : List Json} (h : ∀ x ∈ items, x.WellFormed) :
    (arr items).WellFormed :=
  ⟨(keysDistinct_arr_iff items).2 fun x hx => (h x hx).keysDistinct,
    (numbersFit_arr_iff items).2 fun x hx => (h x hx).numbersFit⟩

/-- An object with distinct keys and well-formed members is well formed. -/
theorem wellFormed_obj {members : List (String × Json)} (hn : (members.map Prod.fst).Nodup)
    (h : ∀ e ∈ members, e.2.WellFormed) : (obj members).WellFormed :=
  ⟨(keysDistinct_obj_iff members).2 ⟨hn, fun e he => (h e he).keysDistinct⟩,
    (numbersFit_obj_iff members).2 fun e he => (h e he).numbersFit⟩

/-- A boolean is not null. -/
theorem bool_ne_null (b : Bool) : bool b ≠ null := by
  intro h
  cases h

/-- A number is not null. -/
theorem num_ne_null (n : Number) : num n ≠ null := by
  intro h
  cases h

/-- A text is not null. -/
theorem str_ne_null (s : String) : str s ≠ null := by
  intro h
  cases h

/-- An array is not null. -/
theorem arr_ne_null (items : List Json) : arr items ≠ null := by
  intro h
  cases h

/-- An object is not null. -/
theorem obj_ne_null (members : List (String × Json)) : obj members ≠ null := by
  intro h
  cases h

/-- An array is free if its items are. -/
theorem free_arr_iff (items : List Json) : (arr items).Free ↔ ∀ x ∈ items, x.Free := by
  constructor
  · intro h x hx
    exact ⟨(canonical_arr_iff items).1 h.canonical x hx,
      (numbersFit_arr_iff items).1 h.numbersFit x hx⟩
  · intro h
    exact ⟨(canonical_arr_iff items).2 fun x hx => (h x hx).canonical,
      (numbersFit_arr_iff items).2 fun x hx => (h x hx).numbersFit⟩

/-- An object is free if its keys are in order and its members are free. -/
theorem free_obj_iff (members : List (String × Json)) :
    (obj members).Free ↔ (Dict.mk members).Sorted ∧ ∀ e ∈ members, e.2.Free := by
  constructor
  · intro h
    obtain ⟨hsorted, hmembers⟩ := (canonical_obj_iff members).1 h.canonical
    exact ⟨hsorted, fun e he => ⟨hmembers e he, (numbersFit_obj_iff members).1 h.numbersFit e he⟩⟩
  · rintro ⟨hsorted, h⟩
    exact ⟨(canonical_obj_iff members).2 ⟨hsorted, fun e he => (h e he).canonical⟩,
      (numbersFit_obj_iff members).2 fun e he => (h e he).numbersFit⟩

end Json

/-! ## Reading free values -/

namespace Node

/-- The nodes of items are made item by item. -/
theorem ofItems_eq_map (items : List Json) : ofItems items = items.map ofJson := by
  induction items with
  | nil => rfl
  | cons x rest ih => rw [ofItems, ih, List.map_cons]

/-- The nodes of members are made member by member, with quoted keys. -/
theorem ofMembers_eq_map (members : List (String × Json)) :
    ofMembers members = members.map fun e => (.str e.1 true, ofJson e.2) := by
  induction members with
  | nil => rfl
  | cons e rest ih => rw [ofMembers, ih, List.map_cons]

mutual

/-- The kinds of a tree are decided already. -/
theorem settled?_ofJson : ∀ j : Json, (ofJson j).settled? = some (ofJson j)
  | .null | .bool _ | .num _ | .str _ => rfl
  | .arr items => by simp [ofJson, settled?, settledItems?_ofItems items]
  | .obj members => by simp [ofJson, settled?, settledEntries?_ofMembers members]

/-- Nothing is left to be settled in the nodes of items. -/
theorem settledItems?_ofItems : ∀ items : List Json,
    settledItems? (ofItems items) = some (ofItems items)
  | [] => rfl
  | x :: rest => by
    simp [ofItems, settledItems?, settled?_ofJson x, settledItems?_ofItems rest]

/-- Nothing is left to be settled in the nodes of members. -/
theorem settledEntries?_ofMembers : ∀ members : List (String × Json),
    settledEntries? (ofMembers members) = some (ofMembers members)
  | [] => rfl
  | (_, x) :: rest => by
    simp [ofMembers, settledEntries?, settled?, settled?_ofJson x, settledEntries?_ofMembers rest]

end

mutual

/-- Reading a free value as one gives it back. -/
theorem json?_ofJson : ∀ j : Json, j.Free → (ofJson j).json? = some j
  | .null, _ | .bool _, _ | .num (.int _), _ | .str _, _ => rfl
  | .num (.real d), h => by
    have hd : d.isFinite = true := h.numbersFit
    simp [ofJson, json?, freeNumber, hd]
  | .arr items, h => by
    simp [ofJson, json?, jsonItems?_ofItems items ((Json.free_arr_iff items).1 h)]
  | .obj members, h => by
    obtain ⟨hsorted, hmembers⟩ := (Json.free_obj_iff members).1 h
    simp [ofJson, json?, jsonMembers?_ofMembers members hmembers, Json.ofDict,
      Dict.ofList_entries hsorted]

/-- Free items are read again from their nodes. -/
theorem jsonItems?_ofItems : ∀ items : List Json, (∀ x ∈ items, x.Free) →
    jsonItems? (ofItems items) = some items
  | [], _ => rfl
  | x :: rest, h => by
    obtain ⟨hx, hrest⟩ := List.forall_mem_cons.1 h
    simp [ofItems, jsonItems?, json?_ofJson x hx, jsonItems?_ofItems rest hrest]

/-- Free members are read again from their nodes. -/
theorem jsonMembers?_ofMembers : ∀ members : List (String × Json), (∀ e ∈ members, e.2.Free) →
    jsonMembers? (ofMembers members) = some members
  | [], _ => rfl
  | (k, x) :: rest, h => by
    obtain ⟨hx, hrest⟩ := List.forall_mem_cons.1 h
    simp [ofMembers, jsonMembers?, text?, json?_ofJson x hx, jsonMembers?_ofMembers rest hrest]

end

mutual

/-- What is read as a free value is one, and it is only null where null was written. -/
theorem free_of_json? : ∀ t : Json, t.NumbersFit → ∀ j, (ofJson t).json? = some j →
    j.Free ∧ (j = .null → t = .null)
  | .null, _, j, h => by
    obtain rfl : .null = j := Option.some.inj h
    exact ⟨⟨trivial, trivial⟩, fun _ => rfl⟩
  | .bool b, _, j, h => by
    obtain rfl : .bool b = j := Option.some.inj h
    exact ⟨⟨trivial, trivial⟩, fun h => by cases h⟩
  | .num n, ht, j, h => by
    have hnumber : freeNumber n = .num n := by
      cases n with
      | int i => rfl
      | real d => exact if_pos ht
    obtain rfl : .num n = j := hnumber ▸ Option.some.inj h
    exact ⟨⟨trivial, ht⟩, fun h => by cases h⟩
  | .str s, _, j, h => by
    obtain rfl : .str s = j := Option.some.inj h
    exact ⟨⟨trivial, trivial⟩, fun h => by cases h⟩
  | .arr items, ht, j, h => by
    simp only [ofJson, json?] at h
    obtain ⟨xs, hxs, rfl⟩ := Option.map_eq_some_iff.1 h
    exact ⟨(Json.free_arr_iff xs).2
      (free_of_jsonItems? items ((Json.numbersFit_arr_iff items).1 ht) xs hxs), fun h => by cases h⟩
  | .obj members, ht, j, h => by
    simp only [ofJson, json?] at h
    obtain ⟨ms, hms, rfl⟩ := Option.map_eq_some_iff.1 h
    have hfree := free_of_jsonMembers? members ((Json.numbersFit_obj_iff members).1 ht) ms hms
    exact ⟨(Json.free_obj_iff _).2 ⟨Dict.sorted_ofList ms,
      fun e he => hfree e (Dict.mem_of_mem_entries_ofList he)⟩, fun h => by cases h⟩

/-- Items that are read from a tree are free. -/
theorem free_of_jsonItems? : ∀ items : List Json, (∀ x ∈ items, x.NumbersFit) → ∀ xs,
    jsonItems? (ofItems items) = some xs → ∀ x ∈ xs, x.Free
  | [], _, xs, h => by
    obtain rfl : [] = xs := Option.some.inj h
    exact fun x hx => absurd hx List.not_mem_nil
  | x :: rest, ht, xs, h => by
    obtain ⟨hx, hrest⟩ := List.forall_mem_cons.1 ht
    simp only [ofItems, jsonItems?, Option.bind_eq_bind, Option.bind_eq_some_iff] at h
    obtain ⟨y, hy, ys, hys, h⟩ := h
    obtain rfl := Option.some.inj h
    exact List.forall_mem_cons.2 ⟨(free_of_json? x hx y hy).1, free_of_jsonItems? rest hrest ys hys⟩

/-- Members that are read from a tree are free. -/
theorem free_of_jsonMembers? : ∀ members : List (String × Json),
    (∀ e ∈ members, e.2.NumbersFit) → ∀ ms, jsonMembers? (ofMembers members) = some ms →
      ∀ e ∈ ms, e.2.Free
  | [], _, ms, h => by
    obtain rfl : [] = ms := Option.some.inj h
    exact fun e he => absurd he List.not_mem_nil
  | (k, x) :: rest, ht, ms, h => by
    obtain ⟨hx, hrest⟩ := List.forall_mem_cons.1 ht
    simp only [ofMembers, jsonMembers?, text?, Option.bind_eq_bind, Option.bind_some,
      Option.bind_eq_some_iff] at h
    obtain ⟨y, hy, ys, hys, h⟩ := h
    obtain rfl := Option.some.inj h
    exact List.forall_mem_cons.2
      ⟨(free_of_json? x hx y hy).1, free_of_jsonMembers? rest hrest ys hys⟩

end

/-! ## Depth -/

/-- An item is less deep than its array. -/
theorem depth_lt_of_mem_items {items : List Json} {x : Json} (h : x ∈ items) :
    (ofJson x).depth < (ofJson (.arr items)).depth := by
  rw [ofJson, depth, Nat.lt_succ_iff]
  induction items with
  | nil => exact absurd h List.not_mem_nil
  | cons y rest ih =>
    rw [ofItems, itemsDepth]
    rcases List.mem_cons.1 h with rfl | h
    · exact Nat.le_max_left _ _
    · exact Nat.le_trans (ih h) (Nat.le_max_right _ _)

/-- The value of a member is less deep than the object. -/
theorem depth_lt_of_mem_members {members : List (String × Json)} {e : String × Json}
    (h : e ∈ members) : (ofJson e.2).depth < (ofJson (.obj members)).depth := by
  rw [ofJson, depth, Nat.lt_succ_iff]
  induction members with
  | nil => exact absurd h List.not_mem_nil
  | cons y rest ih =>
    rw [ofMembers, entriesDepth]
    rcases List.mem_cons.1 h with rfl | h
    · exact Nat.le_max_left _ _
    · exact Nat.le_trans (ih h) (Nat.le_max_right _ _)

end Node

end Swagger
