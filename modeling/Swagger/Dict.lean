/-! # Dictionaries in key order
A finite map from keys to values, kept as the list of its entries in increasing order of keys. The
order is part of the value: it is the order in which a dictionary is written.

* `Dict.find?` — the value stored under a key.
* `Dict.insert` — store a value, replacing an earlier one under the same key.
* `Dict.insertNew` — store a value only where the key is free.
* `Dict.ofList` — the dictionary of a list of pairs, of which the last for each key counts.
* `Dict.Sorted` — the entries increase strictly, which every dictionary built here satisfies. -/

namespace Swagger

universe u v w

/-- A finite map, kept as its entries in increasing order of keys. -/
structure Dict (κ : Type u) (α : Type v) where
  /-- The entries, one for each key. -/
  entries : List (κ × α)
deriving DecidableEq, Inhabited

namespace Dict

variable {κ : Type u} {α : Type v} {β : Type w}

/-- The dictionary without entries. -/
def empty : Dict κ α := ⟨[]⟩

instance : EmptyCollection (Dict κ α) := ⟨empty⟩

/-- Whether no key has a value. -/
def isEmpty (d : Dict κ α) : Bool := d.entries.isEmpty

/-- The keys, in order. -/
def keys (d : Dict κ α) : List κ := d.entries.map Prod.fst

/-- The values, in the order of their keys. -/
def values (d : Dict κ α) : List α := d.entries.map Prod.snd

/-- The value stored under a key. -/
def find? [BEq κ] (d : Dict κ α) (k : κ) : Option α := d.entries.lookup k

/-- Whether a key has a value. -/
def contains [BEq κ] (d : Dict κ α) (k : κ) : Bool := (d.find? k).isSome

/-- Put an entry at its place in an increasing list of entries. -/
def insertEntry [Ord κ] (k : κ) (v : α) : List (κ × α) → List (κ × α)
  | [] => [(k, v)]
  | (k', v') :: rest =>
    match compare k k' with
    | .lt => (k, v) :: (k', v') :: rest
    | .eq => (k, v) :: rest
    | .gt => (k', v') :: insertEntry k v rest

/-- Store a value, replacing an earlier one under the same key. -/
def insert [Ord κ] (d : Dict κ α) (k : κ) (v : α) : Dict κ α := ⟨insertEntry k v d.entries⟩

/-- Store a value only where the key is free. -/
def insertNew [BEq κ] [Ord κ] (d : Dict κ α) (k : κ) (v : α) : Dict κ α :=
  if d.contains k then d else d.insert k v

/-- Remove a key and its value. -/
def erase [BEq κ] (d : Dict κ α) (k : κ) : Dict κ α := ⟨d.entries.filter fun e => !(e.1 == k)⟩

/-- Store all pairs of a list, first to last. -/
def insertAll [Ord κ] (d : Dict κ α) (pairs : List (κ × α)) : Dict κ α :=
  pairs.foldl (fun d e => d.insert e.1 e.2) d

/-- The dictionary of a list of pairs, of which the last for each key counts. -/
def ofList [Ord κ] (pairs : List (κ × α)) : Dict κ α := insertAll ∅ pairs

/-- All entries of both dictionaries; where they share a key, the second has the word. -/
def union [Ord κ] (d e : Dict κ α) : Dict κ α := d.insertAll e.entries

/-- Apply a function to every value. -/
def map (f : α → β) (d : Dict κ α) : Dict κ β := ⟨d.entries.map fun e => (e.1, f e.2)⟩

/-- Apply a function to every key and value, keeping the key. -/
def mapWithKey (f : κ → α → β) (d : Dict κ α) : Dict κ β := ⟨d.entries.map fun e => (e.1, f e.1 e.2)⟩

/-- Change the value under a key, where there is one. -/
def adjust [BEq κ] (d : Dict κ α) (k : κ) (f : α → α) : Dict κ α :=
  ⟨d.entries.map fun e => if e.1 == k then (e.1, f e.2) else e⟩

/-- The keys increase strictly. -/
def Sorted [Ord κ] (d : Dict κ α) : Prop :=
  d.entries.Pairwise fun a b => compare a.1 b.1 = .lt

/-- An empty dictionary has no entries. -/
@[simp] theorem entries_empty : (∅ : Dict κ α).entries = [] := rfl

/-- Nothing is found in an empty dictionary. -/
@[simp] theorem find?_empty [BEq κ] (k : κ) : (∅ : Dict κ α).find? k = none := rfl

/-- Changing all values keeps the keys. -/
@[simp] theorem keys_map (f : α → β) (d : Dict κ α) : (d.map f).keys = d.keys := by
  simp [keys, map, Function.comp_def]

/-- An empty dictionary is sorted. -/
theorem sorted_empty [Ord κ] : (∅ : Dict κ α).Sorted := List.Pairwise.nil

section Order

variable [Ord κ] [BEq κ] [LawfulBEq κ] [Std.LawfulEqOrd κ]

/-- An entry is found after it was put in its place. -/
theorem lookup_insertEntry_self (k : κ) (v : α) (l : List (κ × α)) :
    (insertEntry k v l).lookup k = some v := by
  induction l with
  | nil => simp [insertEntry]
  | cons e rest ih =>
    obtain ⟨k', v'⟩ := e
    simp only [insertEntry]
    split
    · simp
    · simp
    · next h =>
      have hne : (k == k') = false := by
        simp only [beq_eq_false_iff_ne]
        rintro rfl
        simp at h
      simp [List.lookup_cons, hne, ih]

/-- Entries with other keys are found as before. -/
theorem lookup_insertEntry_of_ne {k k₁ : κ} (h : k₁ ≠ k) (v : α) (l : List (κ × α)) :
    (insertEntry k v l).lookup k₁ = l.lookup k₁ := by
  have hk : (k₁ == k) = false := by simpa using h
  induction l with
  | nil => simp [insertEntry, List.lookup_cons, hk]
  | cons e rest ih =>
    obtain ⟨k', v'⟩ := e
    simp only [insertEntry]
    split
    · simp [List.lookup_cons, hk]
    · next heq =>
      obtain rfl : k = k' := Std.LawfulEqOrd.eq_of_compare heq
      simp [List.lookup_cons, hk]
    · simp only [List.lookup_cons, ih]

/-- What was stored is found again. -/
@[simp] theorem find?_insert_self (d : Dict κ α) (k : κ) (v : α) :
    (d.insert k v).find? k = some v :=
  lookup_insertEntry_self k v d.entries

/-- Storing a value leaves every other key as it was. -/
theorem find?_insert_of_ne (d : Dict κ α) {k k₁ : κ} (h : k₁ ≠ k) (v : α) :
    (d.insert k v).find? k₁ = d.find? k₁ :=
  lookup_insertEntry_of_ne h v d.entries

end Order

section Sorting

variable [Ord κ]

/-- An entry that is there is the new one or was there before. -/
theorem mem_insertEntry {k : κ} {v : α} {l : List (κ × α)} {e : κ × α}
    (h : e ∈ insertEntry k v l) : e = (k, v) ∨ e ∈ l := by
  induction l with
  | nil => simpa [insertEntry] using h
  | cons e' rest ih =>
    simp only [insertEntry] at h
    split at h
    · simpa using h
    · rcases List.mem_cons.1 h with h | h
      · exact .inl h
      · exact .inr (List.mem_cons_of_mem _ h)
    · rcases List.mem_cons.1 h with h | h
      · exact .inr (h ▸ List.mem_cons_self)
      · exact (ih h).imp_right (List.mem_cons_of_mem _)

variable [Std.TransOrd κ] [Std.LawfulEqOrd κ]

/-- Storing a value keeps the entries in order. -/
theorem Sorted.insert {d : Dict κ α} (h : d.Sorted) (k : κ) (v : α) : (d.insert k v).Sorted := by
  obtain ⟨l⟩ := d
  simp only [Sorted, Dict.insert] at h ⊢
  induction l with
  | nil => simp [insertEntry]
  | cons e rest ih =>
    obtain ⟨k', v'⟩ := e
    rw [List.pairwise_cons] at h
    simp only [insertEntry]
    split
    · next hlt =>
      refine List.pairwise_cons.2 ⟨fun a ha => ?_, List.pairwise_cons.2 h⟩
      rcases List.mem_cons.1 ha with rfl | ha
      · exact hlt
      · exact Std.TransCmp.lt_trans hlt (h.1 a ha)
    · next heq =>
      obtain rfl : k = k' := Std.LawfulEqOrd.eq_of_compare heq
      exact List.pairwise_cons.2 h
    · next hgt =>
      refine List.pairwise_cons.2 ⟨fun a ha => ?_, ih h.2⟩
      rcases mem_insertEntry ha with rfl | ha
      · exact Std.OrientedCmp.lt_of_gt hgt
      · exact h.1 a ha

/-- Storing pairs keeps a dictionary sorted. -/
theorem Sorted.insertAll {d : Dict κ α} (h : d.Sorted) (pairs : List (κ × α)) :
    (d.insertAll pairs).Sorted := by
  induction pairs generalizing d with
  | nil => exact h
  | cons e rest ih => exact ih (h.insert e.1 e.2)

/-- The dictionary of a list of pairs is sorted. -/
theorem sorted_ofList (pairs : List (κ × α)) : (ofList pairs).Sorted :=
  Sorted.insertAll sorted_empty pairs

end Sorting

end Dict

end Swagger
