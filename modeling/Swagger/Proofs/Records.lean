import Swagger.Document.Reading
import Swagger.Proofs.JsonTree

/-! # Records as objects
A record is written as the table of its fields, each with its value or with none, and its vendor
extensions stand among them. Such an object is read again field by field: every field has the value that
it was written with, and is missing where it was left out.

* `Json.Members.present` — the members of a table; every way to write a field gives those of one row.
* `Extensions.Apart`, `Extensions.Sound` — extensions under none of the names of the fields.
* `Json.keysDistinct_record_iff` — when a record repeats a key.
* `Json.wellFormed_record` — a record of well-formed values is well formed.
* `Node.splitFields?_ofMembers` — an object is split unless a field is named twice.
* `Node.extensible?_record`, `Node.record?_present` — what was written is found again. -/

namespace Swagger

/-! ## Tables of fields -/

namespace Json.Members

/-- The members of a table of fields: those that have a value. -/
def present (table : List (String × Option Json)) : List (String × Json) :=
  table.filterMap fun e => e.2.map (Prod.mk e.1)

/-- A value that is left out where it says nothing. -/
def leftOutIf (silent : Bool) (j : Json) : Option Json := if silent then none else some j

/-- The members of a record: the fields in front of its extensions, these, and the fields behind them. -/
def record (front : List (String × Option Json)) (x : Extensions) (back : List (String × Option Json)) :
    List (String × Json) :=
  present front ++ x.entries ++ present back

/-- A record without rows has no members. -/
@[simp] theorem present_nil : present [] = [] := rfl

/-- The members of two tables are those of one after those of the other. -/
theorem present_append (table table' : List (String × Option Json)) :
    present (table ++ table') = present table ++ present table' :=
  List.filterMap_append

/-- The members of a table are its rows that have a value. -/
theorem mem_present_iff (table : List (String × Option Json)) (k : String) (j : Json) :
    (k, j) ∈ present table ↔ (k, some j) ∈ table := by
  simp [present, List.mem_filterMap]

/-- What holds of the members holds of the values in the rows. -/
theorem forall_mem_present_iff (table : List (String × Option Json)) (P : Json → Prop) :
    (∀ e ∈ present table, P e.2) ↔ ∀ e ∈ table, ∀ j ∈ e.2, P j := by
  constructor
  · intro h e he j hj
    exact h (e.1, j) ((mem_present_iff _ _ _).2 (Option.mem_def.1 hj ▸ he))
  · intro h e he
    exact h _ ((mem_present_iff _ _ _).1 he) e.2 rfl

/-- The keys of the members are names of fields, in their order. -/
theorem keys_present_sublist (table : List (String × Option Json)) :
    ((present table).map Prod.fst).Sublist (table.map Prod.fst) := by
  induction table with
  | nil => exact List.Sublist.refl _
  | cons e rest ih =>
    obtain ⟨k, _ | j⟩ := e
    · exact ih.cons k
    · exact ih.cons_cons k

/-- A single row gives a member unless it is left out. -/
theorem present_leftOutIf (key : String) (silent : Bool) (j : Json) :
    present [(key, leftOutIf silent j)] = if silent then [] else [(key, j)] := by
  cases silent <;> rfl

/-- A text is a row that is left out when empty. -/
theorem text_eq_present (key value : String) :
    text key value = present [(key, leftOutIf value.isEmpty (.str value))] :=
  (present_leftOutIf _ _ _).symm

/-- A flag is a row that is left out when false. -/
theorem flag_eq_present (key : String) (value : Bool) :
    flag key value = present [(key, leftOutIf (!value) (.bool true))] := by
  cases value <;> rfl

/-- An optional field is a row that is left out when there is no value. -/
theorem optional_eq_present {α : Type} (key : String) (write : α → Json) (value : Option α) :
    optional key write value = present [(key, value.map write)] := by
  cases value <;> rfl

/-- A list is a row that is left out when empty. -/
theorem items_eq_present (key : String) (values : List Json) :
    items key values = present [(key, leftOutIf values.isEmpty (.arr values))] :=
  (present_leftOutIf _ _ _).symm

/-- A map is a row that is left out when empty. -/
theorem object_eq_present (key : String) (members : List (String × Json)) :
    object key members = present [(key, leftOutIf members.isEmpty (.obj members))] :=
  (present_leftOutIf _ _ _).symm

/-- A field that is always written is a row with a value. -/
theorem always_eq_present (key : String) (value : Json) :
    always key value = present [(key, some value)] := rfl

/-- A value that is well formed where it is there. -/
def WellFormedValue (value : Option Json) : Prop := ∀ j ∈ value, j.WellFormed

/-- Whether a member is left out does not matter. -/
theorem wellFormedValue_leftOutIf {silent : Bool} {j : Json} (h : j.WellFormed) :
    WellFormedValue (leftOutIf silent j) := by
  cases silent
  · exact fun _ hj => Option.some.inj hj ▸ h
  · exact fun _ hj => by cases hj

/-- A text that is left out when empty is well formed. -/
@[simp] theorem wellFormedValue_text (s : String) :
    WellFormedValue (leftOutIf s.isEmpty (.str s)) :=
  wellFormedValue_leftOutIf (Json.wellFormed_str s)

/-- A text that is always written is well formed. -/
@[simp] theorem wellFormedValue_always (s : String) : WellFormedValue (some (.str s)) :=
  fun _ hj => Option.some.inj hj ▸ Json.wellFormed_str s

/-- A flag is well formed. -/
@[simp] theorem wellFormedValue_flag (b : Bool) :
    WellFormedValue (leftOutIf (!b) (.bool true)) :=
  wellFormedValue_leftOutIf (Json.wellFormed_bool true)

/-- An optional field is well formed if what it holds is. -/
theorem wellFormedValue_optional {α : Type} {write : α → Json} {o : Option α}
    (h : ∀ a ∈ o, (write a).WellFormed) : WellFormedValue (o.map write) := by
  intro j hj
  obtain ⟨a, ha, rfl⟩ := Option.map_eq_some_iff.1 hj
  exact h a ha

/-- An optional text is well formed. -/
@[simp] theorem wellFormedValue_reference (o : Option String) : WellFormedValue (o.map .str) :=
  wellFormedValue_optional fun s _ => Json.wellFormed_str s

/-- An optional free value is well formed. -/
theorem wellFormedValue_free {o : Option Json} (h : ∀ j ∈ o, j.Free ∧ j ≠ .null) :
    WellFormedValue (o.map id) :=
  wellFormedValue_optional fun j hj => (h j hj).1.wellFormed

/-- An optional double is well formed if it is finite. -/
theorem wellFormedValue_double {o : Option Double} (h : ∀ d ∈ o, d.isFinite = true) :
    WellFormedValue (o.map Json.ofDouble) :=
  wellFormedValue_optional fun d hd => ⟨trivial, h d hd⟩

/-- An optional natural number is well formed if it has sixty-four bits. -/
theorem wellFormedValue_natural {o : Option Nat} (h : ∀ n ∈ o, n < Nat.pow 2 64) :
    WellFormedValue (o.map Json.ofNat) := by
  refine wellFormedValue_optional fun n hn => ⟨trivial, ?_⟩
  have hpow : Nat.pow 2 64 = 0x10000000000000000 := by decide
  have hlt := h n hn
  exact ⟨by omega, by omega⟩

/-- A list is well formed if its values are. -/
theorem wellFormedValue_list {α : Type} {write : α → Json} {l : List α}
    (h : ∀ a ∈ l, (write a).WellFormed) :
    WellFormedValue (leftOutIf (l.map write).isEmpty (.arr (l.map write))) := by
  refine wellFormedValue_leftOutIf (Json.wellFormed_arr fun j hj => ?_)
  obtain ⟨a, ha, rfl⟩ := List.mem_map.1 hj
  exact h a ha

/-- A list of free values is well formed. -/
theorem wellFormedValue_freeList {l : List Json} (h : ∀ j ∈ l, j.Free) :
    WellFormedValue (leftOutIf (l.map id).isEmpty (.arr (l.map id))) :=
  wellFormedValue_list fun j hj => (h j hj).wellFormed

/-- A map in order is well formed if its values are. -/
theorem wellFormedValue_dict {α : Type} {write : α → Json} {d : Dict String α} (hd : d.Sorted)
    (h : ∀ e ∈ d.entries, (write e.2).WellFormed) :
    WellFormedValue (leftOutIf (d.map write).entries.isEmpty (.obj (d.map write).entries)) := by
  refine wellFormedValue_leftOutIf (Json.wellFormed_obj ?_ fun e he => ?_)
  · have hkeys : (d.map write).keys.Nodup := by
      rw [Dict.keys_map]
      exact hd.nodup_keys
    exact hkeys
  · obtain ⟨e', he', rfl⟩ := List.mem_map.1 he
    exact h e' he'

/-- A map of free values in order is well formed. -/
theorem wellFormedValue_freeDict {d : Dict String Json} (hd : d.Sorted)
    (h : ∀ e ∈ d.entries, e.2.Free) :
    WellFormedValue (leftOutIf (d.map id).entries.isEmpty (.obj (d.map id).entries)) :=
  wellFormedValue_dict hd fun e he => (h e he).wellFormed

end Json.Members

open Json.Members

/-- A value that repeats no key where it is there. -/
def Json.Members.DistinctValue (value : Option Json) : Prop := ∀ j ∈ value, j.KeysDistinct

/-- **When a record repeats a key**: its fields have different names, so it does not unless an extension
stands under the name of a field that is written, or a value repeats a key itself. -/
theorem Json.keysDistinct_record_iff {front back : List (String × Option Json)}
    (hn : ((front ++ back).map Prod.fst).Nodup) (x : Extensions) :
    (Json.obj (record front x back)).KeysDistinct ↔
      (x.keys.Nodup ∧ (∀ k ∈ x.keys, k ∉ (present (front ++ back)).map Prod.fst) ∧
        ∀ e ∈ x.entries, e.2.KeysDistinct) ∧ ∀ e ∈ front ++ back, DistinctValue e.2 := by
  have hfields : ((present (front ++ back)).map Prod.fst).Nodup := hn.sublist (keys_present_sublist _)
  -- the extensions may as well stand behind all fields
  have hperm : (record front x back).Perm (present (front ++ back) ++ x.entries) := by
    rw [record, present_append, List.append_assoc, List.append_assoc]
    exact List.perm_append_comm.append_left _
  have hkeys : ((record front x back).map Prod.fst).Nodup ↔
      x.keys.Nodup ∧ ∀ k ∈ x.keys, k ∉ (present (front ++ back)).map Prod.fst := by
    rw [(hperm.map Prod.fst).nodup_iff, List.map_append, List.nodup_append']
    exact ⟨fun h => ⟨h.2.1, fun k hk hk' => h.2.2 hk' hk⟩,
      fun h => ⟨hfields, h.1, fun k hk hk' => h.2 k hk' hk⟩⟩
  have hvalues : (∀ e ∈ record front x back, e.2.KeysDistinct) ↔
      (∀ e ∈ front ++ back, DistinctValue e.2) ∧ ∀ e ∈ x.entries, e.2.KeysDistinct := by
    simp only [hperm.mem_iff, List.forall_mem_append, forall_mem_present_iff _ Json.KeysDistinct]
    rfl
  rw [Json.keysDistinct_obj_iff, hkeys, hvalues]
  tauto

/-- Extensions of a record with the named fields: in the order of their keys, none of which is the name
of a field, and without a repeated key inside. -/
structure Extensions.Apart (names : List String) (x : Extensions) : Prop where
  /-- The keys are in order. -/
  sorted : x.Sorted
  /-- No key is the name of a field. -/
  apart : ∀ e ∈ x.entries, e.1 ∉ names
  /-- The values repeat no key. -/
  distinct : ∀ e ∈ x.entries, e.2.KeysDistinct

/-- Where there are no extensions, none is called like a field. -/
theorem Extensions.apart_empty (names : List String) : Extensions.Apart names ∅ :=
  ⟨Dict.sorted_empty, fun _ he => absurd he List.not_mem_nil, fun _ he => absurd he List.not_mem_nil⟩

/-- Where the extensions stand apart, only the values have to be looked at. -/
theorem Json.keysDistinct_record_iff_of_apart {names : List String} {x : Extensions}
    (hx : x.Apart names) (hn : names.Nodup) {front back : List (String × Option Json)}
    (hnames : (front ++ back).map Prod.fst = names) :
    (Json.obj (record front x back)).KeysDistinct ↔ ∀ e ∈ front ++ back, DistinctValue e.2 := by
  rw [Json.keysDistinct_record_iff (hnames ▸ hn)]
  refine and_iff_right ⟨hx.sorted.nodup_keys, fun k hk hk' => ?_, hx.distinct⟩
  obtain ⟨e, he, rfl⟩ := List.mem_map.1 hk
  exact hx.apart e he (hnames ▸ (keys_present_sublist _).subset hk')

/-- Extensions of a record with the named fields: free values in the order of their keys, none of which
is the name of a field. -/
structure Extensions.Sound (names : List String) (x : Extensions) : Prop where
  /-- The keys are in order. -/
  sorted : x.Sorted
  /-- No key is the name of a field. -/
  apart : ∀ e ∈ x.entries, e.1 ∉ names
  /-- The values are free. -/
  free : ∀ e ∈ x.entries, e.2.Free

/-- Sound extensions stay apart from the fields. -/
theorem Extensions.Sound.isApart {names : List String} {x : Extensions} (h : x.Sound names) :
    x.Apart names :=
  ⟨h.sorted, h.apart, fun e he => (h.free e he).wellFormed.keysDistinct⟩

/-- A record whose values are well formed is written as a well-formed object. -/
theorem Json.wellFormed_record {names : List String} (hn : names.Nodup)
    {front back : List (String × Option Json)} (hnames : (front ++ back).map Prod.fst = names)
    {x : Extensions} (hx : x.Sound names) (hv : ∀ e ∈ front ++ back, WellFormedValue e.2) :
    (Json.obj (record front x back)).WellFormed := by
  constructor
  case keysDistinct =>
    rw [Json.keysDistinct_record_iff_of_apart hx.isApart hn hnames]
    exact fun e he j hj => (hv e he j hj).keysDistinct
  case numbersFit =>
    have hfields := fun table => (forall_mem_present_iff table Json.NumbersFit).2
    rw [Json.numbersFit_obj_iff, record, List.forall_mem_append, List.forall_mem_append]
    refine ⟨⟨hfields front fun e he j hj => ?_, fun e he => (hx.free e he).numbersFit⟩,
      hfields back fun e he j hj => ?_⟩
    · exact (hv e (List.mem_append_left _ he) j hj).numbersFit
    · exact (hv e (List.mem_append_right _ he) j hj).numbersFit

/-- A record without extensions is the case of none of them. -/
theorem Json.wellFormed_present {names : List String} (hn : names.Nodup)
    {table : List (String × Option Json)} (hnames : table.map Prod.fst = names)
    (hv : ∀ e ∈ table, WellFormedValue e.2) : (Json.obj (present table)).WellFormed := by
  have hnone : Extensions.Sound names ∅ :=
    ⟨Dict.sorted_empty, fun e he => absurd he List.not_mem_nil, fun e he => absurd he List.not_mem_nil⟩
  have h : (Json.obj (record table ∅ [])).WellFormed :=
    Json.wellFormed_record hn (by rw [List.append_nil, hnames]) hnone (by rwa [List.append_nil])
  rwa [record, Dict.entries_empty, present_nil, List.append_nil, List.append_nil] at h

/-! ## Splitting an object -/

namespace Fields

/-- The fields of a tree's object. -/
def ofMembers (members : List (String × Json)) : Fields :=
  ⟨members.map fun e => (e.1, Node.ofJson e.2)⟩

/-- A field that comes from members has the value of the first member with its name. -/
theorem get?_ofMembers (members : List (String × Json)) (k : String) :
    (ofMembers members).get? k = (members.lookup k).map Node.ofJson := by
  have h := Dict.find?_map Node.ofJson ⟨members⟩ k
  exact h

/-- Every field has the value that its table gives it. -/
theorem get?_ofMembers_present {table : List (String × Option Json)}
    (hn : (table.map Prod.fst).Nodup) {e : String × Option Json} (he : e ∈ table) :
    (ofMembers (present table)).get? e.1 = e.2.map Node.ofJson := by
  rw [get?_ofMembers]
  refine congrArg _ (Option.ext fun j => ?_)
  have hkeys := hn.sublist (keys_present_sublist table)
  rw [← Dict.mem_iff_lookup hkeys, mem_present_iff]
  constructor
  · intro h
    have heq : e = (e.1, some j) := List.inj_on_of_nodup_map hn he h rfl
    exact congrArg Prod.snd heq
  · intro h
    rw [← h]
    exact he

/-- A member can be added unless its key has a value already. -/
theorem add?_ofMembers (members : List (String × Json)) (k : String) (j : Json) :
    (ofMembers members).add? k (.ofJson j)
      = if k ∈ members.map Prod.fst then none else some (ofMembers ((k, j) :: members)) := by
  have htaken : ((ofMembers members).get? k).isSome = true ↔ k ∈ members.map Prod.fst := by
    rw [get?_ofMembers, Option.isSome_map, ← Dict.find?, ← Dict.contains, Dict.contains_iff_mem_keys,
      Dict.keys]
  simp only [add?, htaken]
  rfl

end Fields

namespace Node

/-- Whether a member stands under the name of a field. -/
def isNamed (names : List String) (e : String × Json) : Bool := decide (e.1 ∈ names)

/-- An object of a tree is split into the fields and the rest, unless a field is named twice. -/
theorem splitFields?_ofMembers (names : List String) (members : List (String × Json)) :
    splitFields? names (ofMembers members)
      = if ((members.filter (isNamed names)).map Prod.fst).Nodup then
          some (.ofMembers (members.filter (isNamed names)),
            (members.filter fun e => !isNamed names e).map fun e => (e.1, ofJson e.2))
        else none := by
  induction members with
  | nil => rfl
  | cons e rest ih =>
    obtain ⟨k, j⟩ := e
    rw [ofMembers, splitFields?, ih]
    by_cases hk : k ∈ names
    · have hnamed : isNamed names (k, j) = true := decide_eq_true hk
      rw [List.filter_cons_of_pos hnamed, List.filter_cons_of_neg (by simp [hnamed])]
      simp only [List.map_cons, List.nodup_cons]
      by_cases hrest : ((rest.filter (isNamed names)).map Prod.fst).Nodup
      · by_cases htaken : k ∈ (rest.filter (isNamed names)).map Prod.fst
        · simp only [hrest, htaken, if_true, not_true, false_and, if_false, Option.bind_eq_bind,
            Option.bind_some, text?, List.contains_iff_mem.2 hk, Fields.add?_ofMembers, Option.bind_none]
        · simp only [hrest, htaken, if_true, not_false_eq_true, true_and, if_false, Option.bind_eq_bind,
            Option.bind_some, text?, List.contains_iff_mem.2 hk, Fields.add?_ofMembers]
          rfl
      · simp [hrest]
    · have hnamed : isNamed names (k, j) = false := decide_eq_false hk
      rw [List.filter_cons_of_neg (by simp [hnamed]), List.filter_cons_of_pos (by simp [hnamed])]
      split
      · simp [hk, text?, settled?_ofJson]
      · rfl

/-- What is read item by item, each as it was, is read as it was. -/
theorem mapM_map_eq_some {α β : Type} {write : α → β} {read : β → Option α} {l : List α}
    (h : ∀ a ∈ l, read (write a) = some a) : (l.map write).mapM read = some l := by
  induction l with
  | nil => rfl
  | cons a rest ih =>
    obtain ⟨ha, hrest⟩ := List.forall_mem_cons.1 h
    simp [ha, ih hrest]

/-- Every value read item by item is read from an item. -/
theorem exists_of_mapM_eq_some {α β : Type} {read : β → Option α} {items : List β} {l : List α}
    (h : items.mapM read = some l) : ∀ a ∈ l, ∃ i ∈ items, read i = some a := by
  induction items generalizing l with
  | nil =>
    obtain rfl : [] = l := Option.some.inj h
    exact fun a ha => absurd ha List.not_mem_nil
  | cons i rest ih =>
    simp only [List.mapM_cons, Option.bind_eq_bind, Option.bind_eq_some_iff] at h
    obtain ⟨b, hb, bs, hbs, h⟩ := h
    obtain rfl := Option.some.inj h
    rw [List.forall_mem_cons]
    refine ⟨⟨i, List.mem_cons_self, hb⟩, fun a ha => ?_⟩
    obtain ⟨i', hi', hread⟩ := ih hbs a ha
    exact ⟨i', List.mem_cons_of_mem _ hi', hread⟩

/-- A reader that passes over the rest finds the same fields. -/
theorem fieldsOf?_ofMembers (names : List String) (members : List (String × Json)) :
    fieldsOf? names (ofMembers members) = (splitFields? names (ofMembers members)).map Prod.fst := by
  induction members with
  | nil => rfl
  | cons e rest ih =>
    obtain ⟨k, j⟩ := e
    rw [ofMembers, fieldsOf?, splitFields?, ih]
    cases splitFields? names (ofMembers rest) with
    | none => rfl
    | some p =>
      by_cases hk : k ∈ names
      · simp [fieldName?, text?, hk]
      · simp [fieldName?, text?, hk, settled?_ofJson]

section Written

variable {names : List String}

/-- The members of a table of fields are all fields. -/
theorem filter_isNamed_present {table : List (String × Option Json)}
    (h : ∀ e ∈ table, e.1 ∈ names) :
    (present table).filter (isNamed names) = present table := by
  refine List.filter_eq_self.2 fun e he => decide_eq_true (h _ ((mem_present_iff _ _ _).1 he))

/-- No member of a table of fields is an extension. -/
theorem filter_not_isNamed_present {table : List (String × Option Json)}
    (h : ∀ e ∈ table, e.1 ∈ names) :
    ((present table).filter fun e => !isNamed names e) = [] := by
  refine List.filter_eq_nil_iff.2 fun e he => ?_
  rw [isNamed, decide_eq_true (h _ ((mem_present_iff _ _ _).1 he))]
  exact Bool.false_ne_true

variable (hn : names.Nodup)
include hn

/-- A record with extensions is read again with the fields and the extensions that were written. -/
theorem extensible?_record {front back : List (String × Option Json)}
    (hnames : (front ++ back).map Prod.fst = names) {x : Extensions} (hx : x.Sound names) :
    extensible? names (ofJson (.obj (record front x back)))
      = some (.ofMembers (present (front ++ back)), x) := by
  have hmem : ∀ e ∈ front ++ back, e.1 ∈ names := fun e he => hnames ▸ List.mem_map_of_mem he
  have hfront : ∀ e ∈ front, e.1 ∈ names := fun e he => hmem e (List.mem_append_left _ he)
  have hback : ∀ e ∈ back, e.1 ∈ names := fun e he => hmem e (List.mem_append_right _ he)
  have hnamed : (record front x back).filter (isNamed names) = present (front ++ back) := by
    rw [record, List.filter_append, List.filter_append, filter_isNamed_present hfront,
      filter_isNamed_present hback, present_append,
      List.filter_eq_nil_iff.2 fun e he => by simp [isNamed, hx.apart e he], List.append_nil]
  have hrest : ((record front x back).filter fun e => !isNamed names e) = x.entries := by
    rw [record, List.filter_append, List.filter_append, filter_not_isNamed_present hfront,
      filter_not_isNamed_present hback,
      List.filter_eq_self.2 fun e he => by simp [isNamed, hx.apart e he], List.append_nil, List.nil_append]
  have hnodup : ((present (front ++ back)).map Prod.fst).Nodup :=
    (hnames ▸ hn).sublist (keys_present_sublist _)
  have hpairs : (x.entries.map fun e => (e.1, ofJson e.2)).mapM (fun e : String × Node => do
      let j ← e.2.json?
      return (e.1, j)) = some x.entries :=
    mapM_map_eq_some fun e he => by simp [json?_ofJson e.2 (hx.free e he)]
  simp only [extensible?, open?, ofJson, entries?, Option.bind_eq_bind, Option.bind_some,
    splitFields?_ofMembers, hnamed, hrest, if_pos hnodup] at hpairs ⊢
  rw [hpairs, Option.bind_some, Dict.ofList_entries hx.sorted]
  rfl

/-- A record without extensions is read again with the fields that were written. -/
theorem record?_present {table : List (String × Option Json)} (hnames : table.map Prod.fst = names) :
    record? names 0 (ofJson (.obj (present table))) = some (.ofMembers (present table)) := by
  have hmem : ∀ e ∈ table, e.1 ∈ names := fun e he => hnames ▸ List.mem_map_of_mem he
  have hnodup : ((present table).map Prod.fst).Nodup := (hnames ▸ hn).sublist (keys_present_sublist _)
  rw [ofJson, record?, fieldsOf?_ofMembers, splitFields?_ofMembers, filter_isNamed_present hmem,
    if_pos hnodup, Option.map_some]

end Written

end Node

end Swagger
