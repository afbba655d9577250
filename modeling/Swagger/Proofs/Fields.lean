import Swagger.Proofs.Double
import Swagger.Proofs.Records

/-! # Reading the fields of a record
Both directions for a single field. Where a field is left out exactly when it holds the default of its
reader, it is read as it was written; and whatever is read from a tree has the properties that writing
relies on.

* `Node.Yields` — a property of everything that is read from a tree.
* `Node.sound_of_extensible?`, `Node.ofTree_of_record?` — the fields and extensions of a tree's object.
* `Node.list?_ofJson`, `Node.dict?_ofJson`, `Node.optional?_ofJson` — values made of others.
* `Fields.read_of_leftOut`, `Fields.optional_of_written` — a field is read as it was written.
* `Fields.OfTree.read`, `Fields.OfTree.dict` — what is read from a field. -/

namespace Swagger

open Json.Members

namespace Node

/-! ## What is read -/

/-- Whatever is read from a tree has a property. -/
def Yields {α : Type} (read : Node → Option α) (P : α → Prop) : Prop :=
  ∀ t : Json, t.NumbersFit → ∀ a, read (ofJson t) = some a → P a

end Node

/-- Fields whose values are those of a tree. -/
def Fields.OfTree (f : Fields) : Prop := ∀ e ∈ f.found, ∃ t : Json, t.NumbersFit ∧ e.2 = .ofJson t

/-- Fields that come from the members of a tree with numbers that fit come from a tree. -/
theorem Fields.ofTree_ofMembers {members : List (String × Json)}
    (h : ∀ e ∈ members, e.2.NumbersFit) : (Fields.ofMembers members).OfTree := by
  intro e he
  obtain ⟨m, hm, rfl⟩ := List.mem_map.1 he
  exact ⟨m.2, h m hm, rfl⟩

namespace Node

/-- Where the members of a tree are divided, the fields are those with one of the names. -/
theorem splitFields?_ofMembers_eq_some {names : List String} {members : List (String × Json)}
    {p : Fields × List (String × Node)} (h : splitFields? names (ofMembers members) = some p) :
    p = (.ofMembers (members.filter (isNamed names)),
      (members.filter fun e => !isNamed names e).map fun e => (e.1, ofJson e.2)) := by
  rw [splitFields?_ofMembers] at h
  split at h
  · exact (Option.some.inj h).symm
  · cases h

/-- The fields of a record with extensions are those of a tree, and its extensions are sound. -/
theorem sound_of_extensible? {names : List String} {t : Json} (ht : t.NumbersFit) {f : Fields}
    {x : Extensions} (h : extensible? names (ofJson t) = some (f, x)) :
    f.OfTree ∧ x.Sound names := by
  cases t with
  | obj members =>
    rw [Json.numbersFit_obj_iff] at ht
    simp only [extensible?, open?, ofJson, entries?, Option.bind_eq_bind, Option.bind_some,
      Option.bind_eq_some_iff] at h
    obtain ⟨p, hp, pairs, hpairs, h⟩ := h
    rw [splitFields?_ofMembers_eq_some hp] at hpairs h
    obtain ⟨rfl, rfl⟩ := Prod.mk.inj (Option.some.inj h)
    refine ⟨Fields.ofTree_ofMembers fun e he => ht e (List.mem_of_mem_filter he), ?_⟩
    -- each extension is read from a member under no name of a field
    have hread : ∀ e ∈ pairs, e.1 ∉ names ∧ e.2.Free := by
      intro e he
      obtain ⟨i, hi, hfree⟩ := exists_of_mapM_eq_some hpairs e he
      obtain ⟨m, hm, rfl⟩ := List.mem_map.1 hi
      obtain ⟨hmem, hnamed⟩ := List.mem_filter.1 hm
      simp only [Option.bind_eq_some_iff] at hfree
      obtain ⟨j, hj, hpure⟩ := hfree
      obtain rfl := Option.some.inj hpure
      exact ⟨by simpa [isNamed] using hnamed, (free_of_json? m.2 (ht m hmem) j hj).1⟩
    exact ⟨Dict.sorted_ofList pairs, fun e he => (hread e (Dict.mem_of_mem_entries_ofList he)).1,
      fun e he => (hread e (Dict.mem_of_mem_entries_ofList he)).2⟩
  | _ => cases h

/-- The fields of a record without extensions are those of a tree. -/
theorem ofTree_of_record? {names : List String} {least : Nat} {t : Json} (ht : t.NumbersFit)
    {f : Fields} (h : record? names least (ofJson t) = some f) : f.OfTree := by
  cases t with
  | arr items =>
    rw [Json.numbersFit_arr_iff] at ht
    simp only [ofJson, record?] at h
    split at h
    · obtain rfl := Option.some.inj h
      intro e he
      obtain ⟨j, hj, heq⟩ := List.mem_map.1 (ofItems_eq_map items ▸ (List.of_mem_zip he).2)
      exact ⟨j, ht j hj, heq.symm⟩
    · cases h
  | obj members =>
    rw [Json.numbersFit_obj_iff] at ht
    rw [ofJson, record?, fieldsOf?_ofMembers, Option.map_eq_some_iff] at h
    obtain ⟨p, hp, rfl⟩ := h
    rw [splitFields?_ofMembers_eq_some hp]
    exact Fields.ofTree_ofMembers fun e he => ht e (List.mem_of_mem_filter he)
  | _ => cases h

/-! ## Single values -/

/-- A value that is not null is read from a place for an optional one as it is. -/
theorem optional?_ofJson {α : Type} (read : Node → Option α) {t : Json} (h : t ≠ .null) :
    optional? read (ofJson t) = (read (ofJson t)).map some := by
  cases t with
  | null => exact absurd rfl h
  | _ => rfl

/-- An optional value that is read and there was not null. -/
theorem optional?_ofJson_eq_some {α : Type} {read : Node → Option α} {t : Json} {o : Option α}
    (h : optional? read (ofJson t) = some o) :
    ∀ a ∈ o, t ≠ .null ∧ read (ofJson t) = some a := by
  intro a ha
  obtain rfl : o = some a := ha
  by_cases ht : t = .null
  · rw [ht] at h
    cases h
  · rw [optional?_ofJson read ht, Option.map_eq_some_iff] at h
    obtain ⟨b, hb, hba⟩ := h
    exact ⟨ht, hb.trans hba⟩

/-- A list is read again if each of its values is. -/
theorem list?_ofJson {α : Type} {write : α → Json} {read : Node → Option α} {l : List α}
    (h : ∀ a ∈ l, read (ofJson (write a)) = some a) :
    list? read (ofJson (.arr (l.map write))) = some l := by
  rw [ofJson, list?, ofItems_eq_map, List.map_map]
  exact mapM_map_eq_some h

/-- A map in order is read again if each of its values is. -/
theorem dict?_ofJson {α : Type} {write : α → Json} {read : Node → Option α} {d : Dict String α}
    (hd : d.Sorted) (h : ∀ e ∈ d.entries, read (ofJson (write e.2)) = some e.2) :
    dict? read (ofJson (.obj (d.map write).entries)) = some d := by
  have hpairs : (d.entries.map fun e => (Node.str e.1 true, ofJson (write e.2))).mapM
      (fun e : Node × Node => do
        let k ← string? e.1
        let v ← read e.2
        return (k, v)) = some d.entries :=
    mapM_map_eq_some fun e he => by simp [string?, text?, h e he]
  simp only [dict?, dictBy?, ofJson, entries?, ofMembers_eq_map, Dict.map, List.map_map,
    Function.comp_def, Option.bind_eq_bind, Option.bind_some] at hpairs ⊢
  rw [hpairs, Option.bind_some, Dict.ofList_entries hd]
  rfl

/-- A natural number of sixty-four bits is read again. -/
theorem natural?_ofNat {n : Nat} (h : n < Nat.pow 2 64) :
    natural? (ofJson (.ofNat n)) = some n := by
  have hbounds : (0 : Int) ≤ n ∧ (n : Int) < (Nat.pow 2 64 : Nat) := ⟨by omega, by exact_mod_cast h⟩
  simp only [natural?, Json.ofNat, ofJson, naturalBelow?, if_pos hbounds, Int.toNat_natCast]

section Yields

variable {α : Type} {read : Node → Option α} {P : α → Prop}

/-- Nothing needs to be known of a text that is read. -/
theorem yields_string? : Yields string? fun _ => True := fun _ _ _ _ => trivial

/-- A double that is read is finite. -/
theorem yields_double? : Yields double? fun d => d.isFinite = true := by
  intro t ht d h
  cases t with
  | num n =>
    cases n with
    | int i =>
      obtain rfl := Option.some.inj h
      have hbounds : -0x8000000000000000 ≤ i ∧ i < 0x10000000000000000 := ht
      have hpow : Nat.pow 2 64 = 0x10000000000000000 := by decide
      exact Double.isFinite_ofInt (by omega)
    | real r =>
      obtain rfl := Option.some.inj h
      exact ht
  | _ => cases h

/-- A natural number that is read has sixty-four bits. -/
theorem yields_natural? : Yields natural? fun n => n < Nat.pow 2 64 := by
  intro t ht n h
  cases t with
  | num m =>
    cases m with
    | int i =>
      simp only [natural?, ofJson, naturalBelow?] at h
      split at h
      · next hbounds =>
        obtain rfl := Option.some.inj h
        exact (Int.toNat_lt hbounds.1).2 hbounds.2
      · cases h
    | real r => cases h
  | _ => cases h

/-- A free value that is read can be written and read once more. -/
theorem yields_json? : Yields json? Json.Free := fun t ht j h => (free_of_json? t ht j h).1

/-- What reading yields for a value, it yields for every value of a list. -/
theorem Yields.list (h : Yields read P) : Yields (list? read) fun l => ∀ a ∈ l, P a := by
  intro t ht l hl
  cases t with
  | arr items =>
    rw [Json.numbersFit_arr_iff] at ht
    simp only [list?, ofJson, items?, ofItems_eq_map, Option.bind_eq_bind, Option.bind_some] at hl
    intro a ha
    obtain ⟨i, hi, hread⟩ := exists_of_mapM_eq_some hl a ha
    obtain ⟨j, hj, rfl⟩ := List.mem_map.1 hi
    exact h j (ht j hj) a hread
  | _ => cases hl

/-- What reading yields for a value, it yields for every value of a map, and the map is in order. -/
theorem Yields.dict (h : Yields read P) :
    Yields (dict? read) fun d => d.Sorted ∧ ∀ e ∈ d.entries, P e.2 := by
  intro t ht d hd
  cases t with
  | obj members =>
    rw [Json.numbersFit_obj_iff] at ht
    simp only [dict?, dictBy?, ofJson, entries?, ofMembers_eq_map, Option.bind_eq_bind,
      Option.bind_some, Option.bind_eq_some_iff] at hd
    obtain ⟨pairs, hpairs, hd⟩ := hd
    obtain rfl := Option.some.inj hd
    refine ⟨Dict.sorted_ofList pairs, fun e he => ?_⟩
    obtain ⟨i, hi, hread⟩ := exists_of_mapM_eq_some hpairs e (Dict.mem_of_mem_entries_ofList he)
    obtain ⟨m, hm, rfl⟩ := List.mem_map.1 hi
    simp only [Option.bind_eq_some_iff] at hread
    obtain ⟨k, -, v, hv, hpure⟩ := hread
    obtain rfl := Option.some.inj hpure
    exact h m.2 (ht m hm) v hv
  | _ => cases hd

/-- What reading yields for a value, it yields for an optional one. -/
theorem Yields.optional (h : Yields read P) : Yields (optional? read) fun o => ∀ a ∈ o, P a :=
  fun t ht _ ho a ha => h t ht a (optional?_ofJson_eq_some ho a ha).2

/-- A free value in a place for an optional one is not null. -/
theorem yields_optional?_json? :
    Yields (optional? json?) fun o => ∀ j ∈ o, j.Free ∧ j ≠ .null := by
  intro t ht o ho j hj
  obtain ⟨hnull, hread⟩ := optional?_ofJson_eq_some ho j hj
  obtain ⟨hfree, honly⟩ := free_of_json? t ht j hread
  exact ⟨hfree, fun h => hnull (honly h)⟩

end Yields

end Node

/-! ## Single fields -/

namespace Fields

variable {α : Type} {f : Fields} {k : String}

/-- **A field that is left out where it holds the default of its reader is read as it was written.** -/
theorem read_of_leftOut {read : Node → Option α} {a dflt : α} {silent : Bool} {j : Json}
    (h : f.get? k = (leftOutIf silent j).map .ofJson) (hsilent : silent = true → a = dflt)
    (hread : silent = false → read (.ofJson j) = some a) : f.read k read dflt = some a := by
  cases silent with
  | true =>
    have hnone : f.get? k = none := h
    rw [Fields.read, hnone, hsilent rfl]
  | false =>
    have hsome : f.get? k = some (.ofJson j) := h
    rw [Fields.read, hsome]
    exact hread rfl

/-- A text that is left out when empty is read again. -/
theorem string_of_written {s : String}
    (h : f.get? k = (leftOutIf s.isEmpty (.str s)).map .ofJson) : f.string k = some s :=
  read_of_leftOut h String.isEmpty_iff.1 fun _ => rfl

/-- A text that is always written is read again. -/
theorem string_of_always {s : String} (h : f.get? k = (some (Json.str s)).map .ofJson) :
    f.string k = some s := by
  rw [string, read, h]
  rfl

/-- A flag that is left out when false is read again. -/
theorem flag_of_written {b : Bool} (h : f.get? k = (leftOutIf (!b) (.bool true)).map .ofJson) :
    f.flag k = some b := by
  cases b
  · exact read_of_leftOut h (fun _ => rfl) (fun h => by cases h)
  · exact read_of_leftOut h (fun h => by cases h) (fun _ => rfl)

/-- A list that is left out when empty is read again if each of its values is. -/
theorem list_of_written {write : α → Json} {read : Node → Option α} {l : List α}
    (h : f.get? k = (leftOutIf (l.map write).isEmpty (.arr (l.map write))).map .ofJson)
    (hread : ∀ a ∈ l, read (.ofJson (write a)) = some a) : f.list k read = some l :=
  read_of_leftOut h (fun hempty => by simpa using hempty) fun _ => Node.list?_ofJson hread

/-- A map that is left out when empty is read again if each of its values is. -/
theorem dict_of_written {write : α → Json} {read : Node → Option α} {d : Dict String α}
    (h : f.get? k = (leftOutIf (d.map write).entries.isEmpty (.obj (d.map write).entries)).map .ofJson)
    (hd : d.Sorted) (hread : ∀ e ∈ d.entries, read (.ofJson (write e.2)) = some e.2) :
    f.dict k read = some d := by
  refine read_of_leftOut h (fun hempty => ?_) fun _ => Node.dict?_ofJson hd hread
  obtain ⟨_ | ⟨e, rest⟩⟩ := d
  · rfl
  · cases hempty

/-- An optional field is read again if its value is and is not written as null. -/
theorem optional_of_written {write : α → Json} {read : Node → Option α} {o : Option α}
    (h : f.get? k = (o.map write).map .ofJson)
    (hread : ∀ a ∈ o, write a ≠ .null ∧ read (.ofJson (write a)) = some a) :
    f.optional k read = some o := by
  cases o with
  | none =>
    have hnone : f.get? k = none := h
    rw [optional, Fields.read, hnone]
  | some a =>
    have hsome : f.get? k = some (.ofJson (write a)) := h
    obtain ⟨hnull, ha⟩ := hread a rfl
    rw [optional, Fields.read, hsome]
    simp only [Node.optional?_ofJson read hnull, ha, Option.map_some]

/-- An optional text is read again. -/
theorem reference_of_written {o : Option String} (h : f.get? k = (o.map Json.str).map .ofJson) :
    f.optional k Node.string? = some o :=
  optional_of_written h fun _ _ => ⟨Json.str_ne_null _, rfl⟩

/-- An optional free value other than null is read again. -/
theorem free_of_written {o : Option Json} (h : f.get? k = (o.map id).map .ofJson)
    (ho : ∀ j ∈ o, j.Free ∧ j ≠ .null) : f.optional k Node.json? = some o :=
  optional_of_written h fun j hj => ⟨(ho j hj).2, Node.json?_ofJson j (ho j hj).1⟩

/-- An optional double is read again. -/
theorem double_of_written {o : Option Double} (h : f.get? k = (o.map Json.ofDouble).map .ofJson) :
    f.optional k Node.double? = some o :=
  optional_of_written h fun _ _ => ⟨Json.num_ne_null _, rfl⟩

/-- An optional natural number of sixty-four bits is read again. -/
theorem natural_of_written {o : Option Nat} (h : f.get? k = (o.map Json.ofNat).map .ofJson)
    (ho : ∀ n ∈ o, n < Nat.pow 2 64) : f.optional k Node.natural? = some o :=
  optional_of_written h fun n hn => ⟨Json.num_ne_null _, Node.natural?_ofNat (ho n hn)⟩

/-- A list of free values is read again. -/
theorem freeList_of_written {l : List Json}
    (h : f.get? k = (leftOutIf (l.map id).isEmpty (.arr (l.map id))).map .ofJson)
    (hl : ∀ j ∈ l, j.Free) : f.list k Node.json? = some l :=
  list_of_written h fun j hj => Node.json?_ofJson j (hl j hj)

/-- What every value of a field and its default have in common, has what is read. -/
theorem OfTree.read {read : Node → Option α} {P : α → Prop} {dflt a : α} (hf : f.OfTree)
    (hread : Node.Yields read P) (hdflt : P dflt) (h : f.read k read dflt = some a) : P a := by
  unfold Fields.read at h
  cases hget : f.get? k with
  | none =>
    rw [hget] at h
    exact Option.some.inj h ▸ hdflt
  | some n =>
    rw [hget] at h
    obtain ⟨t, ht, rfl⟩ := hf _ (Dict.mem_entries_of_find? (d := ⟨f.found⟩) hget)
    exact hread t ht a h

/-- What reading yields for an optional value holds of an optional field. -/
theorem OfTree.optional {read : Node → Option α} {P : α → Prop} {o : Option α} (hf : f.OfTree)
    (hread : Node.Yields (Node.optional? read) fun o => ∀ a ∈ o, P a)
    (h : f.optional k read = some o) : ∀ a ∈ o, P a :=
  hf.read hread (fun _ ha => by cases ha) h

/-- What reading yields for a value holds of all values of a list field. -/
theorem OfTree.list {read : Node → Option α} {P : α → Prop} {l : List α} (hf : f.OfTree)
    (hread : Node.Yields read P) (h : f.list k read = some l) : ∀ a ∈ l, P a :=
  hf.read hread.list (fun _ ha => absurd ha List.not_mem_nil) h

/-- What reading yields for a value holds of all values of a map field, which is in order. -/
theorem OfTree.dict {read : Node → Option α} {P : α → Prop} {d : Dict String α} (hf : f.OfTree)
    (hread : Node.Yields read P) (h : f.dict k read = some d) :
    d.Sorted ∧ ∀ e ∈ d.entries, P e.2 :=
  hf.read (P := fun d => d.Sorted ∧ ∀ e ∈ d.entries, P e.2) hread.dict
    ⟨Dict.sorted_empty, fun _ he => absurd he List.not_mem_nil⟩ h

end Fields

end Swagger
