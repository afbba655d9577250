import Swagger.Proofs.JsonText
import Swagger.Proofs.Sharing

/-! # Inlining undoes sharing
Whoever reads a document puts the shared parameter in the place of each pointer at one. Sharing tells
parameters apart by their texts only, so this gives the parameters back that were shared just when no
two of them have one text. The parameters that the builder makes are *simple*: strings and flags, whose
text determines them.

* `Parameter.IsSimple` — a parameter without anything but strings and flags.
* `Parameter.text_inj` — simple parameters with one text are one.
* `Document.inline` — what stands for a parameter of a document once pointers are followed.
* `Document.inline_replace` — following the pointers gives the parameters that were shared.
* `Document.inlinedPaths` — the paths of a document with all pointers followed. -/

namespace Swagger

/-! ## Reading members -/

namespace Json.Members

/-- The string under a key, empty where there is none. -/
def stringAt (key : String) (members : List (String × Json)) : String :=
  match members.lookup key with
  | some (.str s) => s
  | _ => ""

/-- The flag under a key, false where there is none. -/
def flagAt (key : String) (members : List (String × Json)) : Bool :=
  match members.lookup key with
  | some (.bool b) => b
  | _ => false

variable (key k : String) (rest : List (String × Json))

/-- Without members there is no string under a key. -/
@[simp] theorem stringAt_nil : stringAt key [] = "" := rfl

/-- Without members no flag is set. -/
@[simp] theorem flagAt_nil : flagAt key [] = false := rfl

/-- Looking up where a text was written first. -/
theorem lookup_text_append (v : String) : (text k v ++ rest).lookup key
    = if key = k ∧ v ≠ "" then some (.str v) else rest.lookup key := by
  unfold text
  by_cases hv : v = ""
  · simp [hv]
  · by_cases hk : key = k
    · simp [hv, hk]
    · simp [hv, hk, Dict.lookup_cons_of_ne hk]

/-- Looking up where a flag was written first. -/
theorem lookup_flag_append (b : Bool) : (flag k b ++ rest).lookup key
    = if key = k ∧ b then some (.bool b) else rest.lookup key := by
  unfold flag
  by_cases hk : key = k
  · cases b <;> simp [hk]
  · cases b <;> simp [hk, Dict.lookup_cons_of_ne hk]

/-- The string under a key is that of a text with the key, unless it was left out. -/
@[simp] theorem stringAt_text_append (v : String) : stringAt key (text k v ++ rest)
    = if key = k ∧ v ≠ "" then v else stringAt key rest := by
  unfold stringAt
  rw [lookup_text_append]
  by_cases h : key = k ∧ v ≠ ""
  · rw [if_pos h, if_pos h]
  · rw [if_neg h, if_neg h]

/-- Under the key of a text stands no flag. -/
@[simp] theorem flagAt_text_append (v : String) : flagAt key (text k v ++ rest)
    = if key = k ∧ v ≠ "" then false else flagAt key rest := by
  unfold flagAt
  rw [lookup_text_append]
  by_cases h : key = k ∧ v ≠ ""
  · rw [if_pos h, if_pos h]
  · rw [if_neg h, if_neg h]

/-- Under the key of a flag that is set stands no string. -/
@[simp] theorem stringAt_flag_append (b : Bool) : stringAt key (flag k b ++ rest)
    = if key = k ∧ b then "" else stringAt key rest := by
  unfold stringAt
  rw [lookup_flag_append]
  by_cases h : key = k ∧ b
  · rw [if_pos h, if_pos h]
  · rw [if_neg h, if_neg h]

/-- A flag that was written is set. -/
@[simp] theorem flagAt_flag_append (b : Bool) : flagAt key (flag k b ++ rest)
    = if key = k ∧ b then true else flagAt key rest := by
  unfold flagAt
  rw [lookup_flag_append]
  by_cases h : key = k ∧ b
  · rw [if_pos h, if_pos h, h.2]
  · rw [if_neg h, if_neg h]

end Json.Members

/-! ## Simple parameters -/

namespace Parameter

/-- A parameter says what a simple one does, and nothing else. -/
def IsSimple (p : Parameter) : Prop :=
  p = { uniqueItems := p.uniqueItems, type := p.type, format := p.format,
        description := p.description, name := p.name, location := p.location,
        required := p.required }

/-- The members of the text of a simple parameter. -/
def simpleMembers (p : Parameter) : List (String × Json) :=
  Json.Members.flag "uniqueItems" p.uniqueItems ++ (Json.Members.text "type" p.type ++
    (Json.Members.text "format" p.format ++ (Json.Members.text "description" p.description ++
      (Json.Members.text "name" p.name ++ (Json.Members.text "in" p.location ++
        (Json.Members.flag "required" p.required ++ []))))))

/-- A simple parameter is written as its strings and flags. -/
theorem toJson_of_isSimple {p : Parameter} (hp : p.IsSimple) : p.toJson = .obj p.simpleMembers := by
  conv_lhs => rw [hp]
  simp [toJson, simpleMembers, Json.Members.optional, Json.Members.items, Json.Members.text,
    Json.Members.flag]

/-- Its members are strings and flags. -/
theorem isAtom_of_mem_simpleMembers {p : Parameter} {e : String × Json} (h : e ∈ p.simpleMembers) :
    e.2.IsAtom := by
  have htext : ∀ k v, e ∈ Json.Members.text k v → e.2.IsAtom := by
    intro k v h
    unfold Json.Members.text at h
    split at h
    · exact nomatch h
    · rw [List.mem_singleton.1 h]
      trivial
  have hflag : ∀ k b, e ∈ Json.Members.flag k b → e.2.IsAtom := by
    intro k b h
    unfold Json.Members.flag at h
    split at h
    · rw [List.mem_singleton.1 h]
      trivial
    · exact nomatch h
  simp only [simpleMembers, List.mem_append, List.not_mem_nil, or_false] at h
  rcases h with h | h | h | h | h | h | h
  · exact hflag _ _ h
  · exact htext _ _ h
  · exact htext _ _ h
  · exact htext _ _ h
  · exact htext _ _ h
  · exact htext _ _ h
  · exact hflag _ _ h

open Json.Members in
/-- Every field of a simple parameter can be read off its members. -/
theorem readings_simpleMembers (p : Parameter) :
    flagAt "uniqueItems" p.simpleMembers = p.uniqueItems ∧
      stringAt "type" p.simpleMembers = p.type ∧ stringAt "format" p.simpleMembers = p.format ∧
      stringAt "description" p.simpleMembers = p.description ∧
      stringAt "name" p.simpleMembers = p.name ∧ stringAt "in" p.simpleMembers = p.location ∧
      flagAt "required" p.simpleMembers = p.required := by
  have hself : ∀ s : String, (if s = "" then "" else s) = s := fun s => by
    split
    · next h => exact h.symm
    · rfl
  simp [simpleMembers, -List.append_nil, hself]

/-- **Simple parameters with one text are one.** -/
theorem text_inj {p q : Parameter} (hp : p.IsSimple) (hq : q.IsSimple) (h : p.text = q.text) :
    p = q := by
  rw [text, text, toJson_of_isSimple hp, toJson_of_isSimple hq] at h
  -- the members are the same, and so is what is read off them
  have hmembers := Json.compact_inj_of_flat (fun _ he => isAtom_of_mem_simpleMembers he)
    (fun _ he => isAtom_of_mem_simpleMembers he) h
  obtain ⟨h₁, h₂, h₃, h₄, h₅, h₆, h₇⟩ := p.readings_simpleMembers
  obtain ⟨k₁, k₂, k₃, k₄, k₅, k₆, k₇⟩ := q.readings_simpleMembers
  rw [hp, hq, ← h₁, ← h₂, ← h₃, ← h₄, ← h₅, ← h₆, ← h₇, hmembers, k₁, k₂, k₃, k₄, k₅, k₆, k₇]

/-- A parameter as the builder makes it: a simple one, or a body. -/
def IsBuilt (p : Parameter) : Prop := p.IsSimple ∨ p.reference = none ∧ p.location = "body"

/-- The builder makes no parameter that is a pointer. -/
theorem IsBuilt.reference_eq {p : Parameter} (h : p.IsBuilt) : p.reference = none :=
  h.elim (fun h => congrArg Parameter.reference h) And.left

/-- What the builder makes is simple if it may be shared. -/
theorem IsBuilt.isSimple {p : Parameter} (h : p.IsBuilt) (hp : ¬p.StaysInline) : p.IsSimple :=
  h.elim (fun h => h) fun h => absurd (Or.inr (Or.inl h.2)) hp

end Parameter

/-! ## Following pointers -/

namespace Document

/-- What stands for a parameter of a document: the shared parameter that it points at, or itself. -/
def inline (d : Document) (p : Parameter) : Parameter :=
  match p.reference with
  | none => p
  | some target =>
    ((d.parameters.keys.find? fun k => "#/parameters/" ++ k == target).bind d.parameters.find?).getD p

/-- A parameter that is no pointer stands for itself. -/
theorem inline_of_reference_eq_none (d : Document) {p : Parameter} (h : p.reference = none) :
    d.inline p = p := by
  rw [inline, h]

/-- A pointer stands for the parameter of its name. -/
theorem inline_pointingAt {d : Document} {k : String} {p : Parameter}
    (h : d.parameters.find? k = some p) :
    d.inline (.pointingAt ("#/parameters/" ++ k)) = p := by
  -- the name behind the mark is found, and no other name gives the same pointer
  have hkey : (d.parameters.keys.find? fun k' => "#/parameters/" ++ k' == "#/parameters/" ++ k)
      = some k := by
    obtain ⟨k', hk'⟩ : ∃ k', (d.parameters.keys.find? fun k' =>
        "#/parameters/" ++ k' == "#/parameters/" ++ k) = some k' := by
      rw [← Option.isSome_iff_exists, List.find?_isSome]
      exact ⟨k, (Dict.mem_keys_iff _ _).2 ⟨p, h⟩, beq_self_eq_true _⟩
    have htarget : "#/parameters/" ++ k' = "#/parameters/" ++ k := by simpa using List.find?_some hk'
    rw [hk', (String.append_right_inj _).1 htarget]
  rw [inline, Parameter.pointingAt]
  simp only [hkey, Option.bind_some, h, Option.getD_some]

/-- **Inlining undoes sharing**: where the builder made all parameters of a document, following the
pointers of its shared form gives each of them back. -/
theorem inline_replace {d : Document} (hd : ∀ s p, d.parameterAt? s = some p → p.IsBuilt)
    {s : ParameterSite} {p : Parameter} (hs : d.parameterAt? s = some p) :
    d.shared.inline (d.sharedParameters.replace p) = p := by
  have hp := hd s p hs
  by_cases hinline : p.StaysInline
  · rw [SharedParameters.replace_of_staysInline _ hinline,
      inline_of_reference_eq_none _ hp.reference_eq]
  · -- The parameter that is pointed at has the text of `p`, and both are simple.
    obtain ⟨k, hk⟩ := d.exists_name hs hinline
    obtain ⟨q, hq, htext⟩ := d.sharedParameters_consistent.1.parameter_of_name hk
    obtain ⟨⟨t, ht⟩, hqinline⟩ := (d.mem_shareable_iff q).1 (mem_shareable_of_shared hq)
    rw [SharedParameters.replace_of_name _ hinline hk, inline_pointingAt hq]
    exact Parameter.text_inj ((hd t q ht).isSimple hqinline) (hp.isSimple hinline) htext

end Document

/-! ## Following all pointers -/

namespace PathItem

/-- Two changes of all parameters are one change. -/
theorem mapParameters_mapParameters (f g : Parameter → Parameter) (item : PathItem) :
    (item.mapParameters g).mapParameters f = item.mapParameters fun p => f (g p) := by
  simp [mapParameters, mapOperations, Function.comp_def]

/-- What can be done at a path is told by its slots, its parameters and its extensions. -/
theorem eq_of_slot_eq {item item' : PathItem} (hslot : ∀ m, item.slot m = item'.slot m)
    (hparameters : item.parameters = item'.parameters)
    (hextensions : item.extensions = item'.extensions) : item = item' := by
  obtain ⟨get, put, post, delete, options, head, patch, parameters, extensions⟩ := item
  exact PathItem.mk.injEq .. ▸ ⟨hslot .get, hslot .put, hslot .post, hslot .delete, hslot .options,
    hslot .head, hslot .patch, hparameters, hextensions⟩

/-- A function that leaves all parameters at a path alone leaves the path alone. -/
theorem mapParameters_eq_self {f : Parameter → Parameter} {item : PathItem}
    (h : ∀ m, ∀ p ∈ item.parametersOf m, f p = p) : item.mapParameters f = item := by
  have hlist : ∀ m, (item.parametersOf m).map f = item.parametersOf m := fun m =>
    (List.map_congr_left (h m)).trans (List.map_id' _)
  have hslot : ∀ m, (item.mapParameters f).slot m = item.slot m := by
    intro m
    rw [slot_mapParameters]
    cases hm : item.slot m with
    | none => rfl
    | some op =>
      have hop : op.parameters.map f = op.parameters := by
        simpa [parametersOf, hm] using hlist (some m)
      rw [Option.map_some, hop]
  exact eq_of_slot_eq hslot (hlist none) rfl

end PathItem

namespace Document

/-- The paths of a document, with what stands for each parameter once pointers are followed. -/
def inlinedPaths (d : Document) : Dict String PathItem := d.paths.map (PathItem.mapParameters d.inline)

/-- Following all pointers of a shared form gives the paths that were shared. -/
theorem inlinedPaths_shared {d : Document}
    (hd : ∀ s p, d.parameterAt? s = some p → p.IsBuilt) : d.shared.inlinedPaths = d.paths := by
  refine congrArg Dict.mk ?_
  rw [shared_paths, Dict.map, List.map_map]
  refine (List.map_congr_left fun e he => ?_).trans (List.map_id' _)
  refine congrArg (Prod.mk e.1) ?_
  rw [PathItem.mapParameters_mapParameters]
  refine PathItem.mapParameters_eq_self fun m p hp => ?_
  -- each parameter stands at some place of the document
  have hmem : p ∈ d.paths.values.flatMap PathItem.allParameters :=
    List.mem_flatMap.2 ⟨e.2, List.mem_map_of_mem he, (e.2.mem_allParameters p).2 ⟨m, hp⟩⟩
  obtain ⟨s, hs⟩ := (d.mem_allParameters_iff p).1 hmem
  exact inline_replace hd hs

end Document

end Swagger
