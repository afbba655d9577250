import Swagger.Proofs.Records

/-! # Reading from any node
The node of a text need not be that of a tree: the kinds of its scalars may be open, and it may repeat
keys. What is read from it repeats none. Dictionaries are put in order, a field that is named twice is
refused, and what stands under no name of a field becomes an extension.

* `Node.Gives` — a property of everything that is read; its lemmas follow the kinds of value.
* `Node.canonical_of_json?` — the members of a free value stand in the order of their keys.
* `Node.apart_of_extensible?` — the extensions of a record stand under no name of a field. -/

namespace Swagger

namespace Node

/-- Whatever is read has a property. -/
def Gives {α : Type} (read : Node → Option α) (P : α → Prop) : Prop :=
  ∀ n a, read n = some a → P a

namespace Gives

variable {α : Type} {read : Node → Option α} {P : α → Prop}

/-! ## Values made of others -/

/-- What is known of a value that is read is known of every value of a list. -/
theorem list (h : Gives read P) : Gives (list? read) fun l => ∀ a ∈ l, P a := by
  intro n l hl a ha
  obtain ⟨items, -, hl⟩ := Option.bind_eq_some_iff.1 hl
  obtain ⟨i, -, hread⟩ := exists_of_mapM_eq_some hl a ha
  exact h i a hread

/-- It is known of every value of a dictionary, which is in order, whatever its keys are. -/
theorem dictBy {κ : Type} [DecidableEq κ] [Ord κ] [Std.TransOrd κ] [Std.LawfulEqOrd κ]
    (key : Node → Option κ)
    (h : Gives read P) : Gives (dictBy? key read) fun d => d.Sorted ∧ ∀ e ∈ d.entries, P e.2 := by
  intro n d hd
  obtain ⟨entries, -, hd⟩ := Option.bind_eq_some_iff.1 hd
  obtain ⟨pairs, hpairs, hd⟩ := Option.bind_eq_some_iff.1 hd
  obtain rfl := Option.some.inj hd
  refine ⟨Dict.sorted_ofList pairs, fun e he => ?_⟩
  -- of a repeated key one of the values is kept
  obtain ⟨i, -, hread⟩ := exists_of_mapM_eq_some hpairs e (Dict.mem_of_mem_entries_ofList he)
  obtain ⟨k, -, hread⟩ := Option.bind_eq_some_iff.1 hread
  obtain ⟨v, hv, hread⟩ := Option.bind_eq_some_iff.1 hread
  obtain rfl := Option.some.inj hread
  exact h i.2 v hv

/-- So it is where the keys are texts. -/
theorem dict (h : Gives read P) :
    Gives (dict? read) fun d => d.Sorted ∧ ∀ e ∈ d.entries, P e.2 :=
  dictBy string? h

/-- What is known of a value that is read is known of an optional one. -/
theorem optional (h : Gives read P) : Gives (optional? read) fun o => ∀ a ∈ o, P a := by
  intro n o ho a ha
  obtain rfl : o = some a := ha
  have hvalue : ∀ m, (read m).map some = some (some a) → P a := by
    intro m hm
    obtain ⟨b, hb, hba⟩ := Option.map_eq_some_iff.1 hm
    obtain rfl := Option.some.inj hba
    exact h m b hb
  cases n with
  | null => cases ho
  | scalar s =>
    simp only [optional?] at ho
    split_ifs at ho
    · cases ho
    · cases ho
    · exact hvalue _ ho
  | _ => exact hvalue _ ho

/-! ## Fields -/

/-- What every value of a field and its default have in common, has what is read. -/
theorem field (h : Gives read P) {f : Fields} {k : String} {dflt a : α} (hdflt : P dflt)
    (ha : f.read k read dflt = some a) : P a := by
  unfold Fields.read at ha
  cases hget : f.get? k with
  | none =>
    rw [hget] at ha
    exact Option.some.inj ha ▸ hdflt
  | some n =>
    rw [hget] at ha
    exact h n a ha

/-- What is known of a value that is read is known of an optional field. -/
theorem optionalField (h : Gives read P) {f : Fields} {k : String} {o : Option α}
    (ho : f.optional k read = some o) : ∀ a ∈ o, P a :=
  h.optional.field (fun _ ha => by cases ha) ho

/-- It is known of every value of a list field. -/
theorem listField (h : Gives read P) {f : Fields} {k : String} {l : List α}
    (hl : f.list k read = some l) : ∀ a ∈ l, P a :=
  h.list.field (fun _ ha => absurd ha List.not_mem_nil) hl

/-- It is known of every value of a map field, which is in order. -/
theorem dictField (h : Gives read P) {f : Fields} {k : String} {d : Dict String α}
    (hd : f.dict k read = some d) : d.Sorted ∧ ∀ e ∈ d.entries, P e.2 :=
  h.dict.field (P := fun d => d.Sorted ∧ ∀ e ∈ d.entries, P e.2)
    ⟨Dict.sorted_empty, fun _ he => absurd he List.not_mem_nil⟩ hd

end Gives

/-- Nothing needs to be known of a text. -/
theorem gives_string? : Gives string? fun _ => True := fun _ _ _ => trivial

/-! ## Free values -/

/-- A number is canonical. -/
theorem canonical_freeNumber (n : Number) : (freeNumber n).Canonical := by
  cases n with
  | int i => trivial
  | real d =>
    rw [freeNumber]
    split <;> trivial

/-- A plain scalar is read as a canonical value. -/
theorem canonical_of_freePlain? {p : Yaml.Plain} {j : Json} (h : freePlain? p = some j) :
    j.Canonical := by
  cases p with
  | wideInt => cases h
  | real d => exact Option.some.inj h ▸ canonical_freeNumber (.real d)
  | _ => exact Option.some.inj h ▸ trivial

mutual

/-- The members of every object in a free value stand in the order of their keys. -/
theorem canonical_of_json? : ∀ (n : Node) (j : Json), n.json? = some j → j.Canonical
  | .null, j, h | .bool _, j, h | .str _ _, j, h => Option.some.inj h ▸ trivial
  | .num n, j, h => Option.some.inj h ▸ canonical_freeNumber n
  | .scalar s, j, h => by
    rw [json?] at h
    obtain ⟨p, -, hp⟩ := Option.bind_eq_some_iff.1 h
    exact canonical_of_freePlain? hp
  | .seq form items, j, h => by
    cases form with
    | tagged => cases h
    | _ =>
      simp only [json?] at h
      obtain ⟨xs, hxs, rfl⟩ := Option.map_eq_some_iff.1 h
      exact (Json.canonical_arr_iff xs).2 (canonical_of_jsonItems? items xs hxs)
  | .map form entries, j, h => by
    cases form with
    | tagged => cases h
    | _ =>
      simp only [json?] at h
      obtain ⟨ms, hms, rfl⟩ := Option.map_eq_some_iff.1 h
      exact (Json.canonical_obj_iff _).2 ⟨Dict.sorted_ofList ms, fun e he =>
        canonical_of_jsonMembers? entries ms hms e (Dict.mem_of_mem_entries_ofList he)⟩
  | .unreadable, j, h => by cases h

/-- The items of a sequence that is read as a free value are canonical. -/
theorem canonical_of_jsonItems? : ∀ (items : List Node) (xs : List Json),
    jsonItems? items = some xs → ∀ x ∈ xs, x.Canonical
  | [], xs, h => by
    obtain rfl : [] = xs := Option.some.inj h
    exact fun x hx => absurd hx List.not_mem_nil
  | n :: rest, xs, h => by
    simp only [jsonItems?, Option.bind_eq_bind, Option.bind_eq_some_iff] at h
    obtain ⟨y, hy, ys, hys, h⟩ := h
    obtain rfl := Option.some.inj h
    exact List.forall_mem_cons.2 ⟨canonical_of_json? n y hy, canonical_of_jsonItems? rest ys hys⟩

/-- The members of a mapping that is read as a free value are canonical. -/
theorem canonical_of_jsonMembers? : ∀ (entries : List (Node × Node)) (ms : List (String × Json)),
    jsonMembers? entries = some ms → ∀ e ∈ ms, e.2.Canonical
  | [], ms, h => by
    obtain rfl : [] = ms := Option.some.inj h
    exact fun e he => absurd he List.not_mem_nil
  | (_, n) :: rest, ms, h => by
    simp only [jsonMembers?, Option.bind_eq_bind, Option.bind_eq_some_iff] at h
    obtain ⟨key, -, y, hy, ys, hys, h⟩ := h
    obtain rfl := Option.some.inj h
    exact List.forall_mem_cons.2 ⟨canonical_of_json? n y hy, canonical_of_jsonMembers? rest ys hys⟩

end

/-- A free value that is read repeats no key. -/
theorem gives_json? : Gives json? Json.KeysDistinct :=
  fun n j h => (canonical_of_json? n j h).keysDistinct

/-! ## Extensions -/

/-- What is no field stands under none of the names. -/
theorem not_mem_of_splitFields? {names : List String} {entries : List (Node × Node)} {f : Fields}
    {others : List (String × Node)} (h : splitFields? names entries = some (f, others)) :
    ∀ e ∈ others, e.1 ∉ names := by
  induction entries generalizing f others with
  | nil =>
    obtain ⟨rfl, rfl⟩ := Prod.mk.inj (Option.some.inj h)
    exact fun e he => absurd he List.not_mem_nil
  | cons entry rest ih =>
    obtain ⟨⟨f', others'⟩, hrest, h⟩ := Option.bind_eq_some_iff.1 h
    obtain ⟨key, -, h⟩ := Option.bind_eq_some_iff.1 h
    by_cases hkey : names.contains key = true
    · -- a field is not among the rest
      rw [if_pos hkey] at h
      obtain ⟨f'', -, h⟩ := Option.bind_eq_some_iff.1 h
      obtain ⟨-, rfl⟩ := Prod.mk.inj (Option.some.inj h)
      exact ih hrest
    · rw [if_neg hkey] at h
      obtain ⟨y, -, h⟩ := Option.bind_eq_some_iff.1 h
      obtain ⟨-, rfl⟩ := Prod.mk.inj (Option.some.inj h)
      exact List.forall_mem_cons.2 ⟨by simpa using hkey, ih hrest⟩

/-- The extensions of a record stand under no name of a field. -/
theorem apart_of_extensible? {names : List String} {n : Node} {f : Fields} {x : Extensions}
    (h : extensible? names n = some (f, x)) : x.Apart names := by
  obtain ⟨⟨f', others⟩, hopen, h⟩ := Option.bind_eq_some_iff.1 h
  obtain ⟨entries, -, hsplit⟩ := Option.bind_eq_some_iff.1 hopen
  obtain ⟨pairs, hpairs, h⟩ := Option.bind_eq_some_iff.1 h
  obtain ⟨-, rfl⟩ := Prod.mk.inj (Option.some.inj h)
  have hread : ∀ e ∈ pairs, e.1 ∉ names ∧ e.2.KeysDistinct := by
    intro e he
    obtain ⟨i, hi, hfree⟩ := exists_of_mapM_eq_some hpairs e he
    obtain ⟨j, hj, hfree⟩ := Option.bind_eq_some_iff.1 hfree
    obtain rfl := Option.some.inj hfree
    exact ⟨not_mem_of_splitFields? hsplit i hi, gives_json? i.2 j hj⟩
  exact ⟨Dict.sorted_ofList pairs, fun e he => (hread e (Dict.mem_of_mem_entries_ofList he)).1,
    fun e he => (hread e (Dict.mem_of_mem_entries_ofList he)).2⟩

/-- A record with extensions, of which only the fields have to be looked at. -/
theorem Gives.of_extensible {α : Type} {read : Node → Option α} {P : α → Prop}
    {names : List String} {build : Fields × Extensions → Option α}
    (hread : ∀ n, read n = n.extensible? names >>= build)
    (h : ∀ f x, x.Apart names → ∀ a, build (f, x) = some a → P a) : Gives read P := by
  intro n a ha
  rw [hread, Option.bind_eq_bind, Option.bind_eq_some_iff] at ha
  obtain ⟨p, hp, ha⟩ := ha
  exact h p.1 p.2 (apart_of_extensible? hp) a ha

end Node

end Swagger
