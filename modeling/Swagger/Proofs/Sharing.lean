import Mathlib.Data.List.Perm.Subperm
import Mathlib.Data.Nat.Basic
import Std.Data.String.ToNat
import Swagger.Build
import Swagger.Proofs.Dict

/-! # Sharing parameters loses nothing
The shareable parameters of a document are collected by text, named one after the other, and then
looked up again where they stand. What makes the two passes fit is that the table of names stays
*consistent*: a text has a name exactly when the parameter of that name has the text.

* `SharedParameters.freeName_cases` — which name is picked; `freeName_free` — it is never taken.
* `SharedParameters.Consistent` — the invariant of the naming, kept by `SharedParameters.add`.
* `Document.parameterAt?` — the parameter at a place of a document.
* `Document.SharedAs` — what a document and its shared form have to do with each other;
  `Document.shareParameters_spec` proves it of every document.
* `Config.finish_eq_shared` — a document that nothing else completes is finished by sharing. -/

namespace Swagger

namespace SharedParameters

/-! ## Picking a free name -/

/-- The name that is tried at a count. -/
def counted (base : String) (k : Nat) : String := base ++ "-" ++ toString k

/-- Different counts give different names. -/
theorem counted_injective (base : String) : Function.Injective (counted base) := by
  intro k l h
  exact Nat.repr_inj.1 (String.append_right_inj _ |>.1 h)

/-- More counts than names are tried, so one of them gives a free name. -/
theorem exists_counted_free (base : String) (taken : Dict String Parameter) :
    ∃ i ∈ List.range (taken.entries.length + 1), taken.contains (counted base (i + 1)) = false := by
  -- If all were taken, the counted names would be more keys than there are entries.
  by_contra hall
  push Not at hall
  have hsub : (List.range (taken.entries.length + 1)).map (fun i => counted base (i + 1))
      ⊆ taken.keys := by
    intro name hname
    obtain ⟨i, hi, rfl⟩ := List.mem_map.1 hname
    exact (Dict.contains_iff_mem_keys taken _).1 (by simpa using hall i hi)
  have hnodup : ((List.range (taken.entries.length + 1)).map fun i => counted base (i + 1)).Nodup :=
    List.nodup_range.map fun i j h => Nat.succ_injective (counted_injective base h)
  have hlen := (hnodup.subperm hsub).length_le
  simp only [List.length_map, List.length_range, Dict.keys] at hlen
  omega

/-- The name that is picked: the hashed one if it is free, else the one at the least count at which
it is free. -/
theorem freeName_cases (base hash : String) (taken : Dict String Parameter) :
    (taken.contains (base ++ "-" ++ hash) = false ∧ freeName base hash taken = base ++ "-" ++ hash) ∨
    (taken.contains (base ++ "-" ++ hash) = true ∧ ∃ k ≤ taken.entries.length,
      freeName base hash taken = counted base (k + 1) ∧
      taken.contains (counted base (k + 1)) = false ∧
      ∀ j < k, taken.contains (counted base (j + 1)) = true) := by
  by_cases hc : taken.contains (base ++ "-" ++ hash) = true
  · refine Or.inr ⟨hc, ?_⟩
    obtain ⟨i, hi, hfree⟩ := exists_counted_free base taken
    -- the search stops at the least count whose name is free
    obtain ⟨k, hk⟩ : ∃ k, (List.range (taken.entries.length + 1)).find?
        (fun i => !taken.contains (counted base (i + 1))) = some k := by
      rw [← Option.isSome_iff_exists, List.find?_isSome]
      exact ⟨i, hi, by simp [hfree]⟩
    obtain ⟨hkfree, hkmem, hleast⟩ := List.find?_range_eq_some.1 hk
    refine ⟨k, by have := List.mem_range.1 hkmem; omega, ?_, by simpa using hkfree, ?_⟩
    · have hfind : (((List.range (taken.entries.length + 1)).map fun i => counted base (i + 1)).find?
          fun name => !taken.contains name) = some (counted base (k + 1)) := by
        rw [List.find?_map]
        exact congrArg (Option.map _) hk
      rw [freeName, if_pos hc]
      exact congrArg (fun o => Option.getD o (base ++ "-" ++ hash)) hfind
    · intro j hj
      simpa using hleast j hj
  · exact Or.inl ⟨by simpa using hc, by rw [freeName, if_neg hc]⟩

/-- The name that is picked is free. -/
theorem freeName_free (base hash : String) (taken : Dict String Parameter) :
    taken.contains (freeName base hash taken) = false := by
  rcases freeName_cases base hash taken with ⟨hfree, heq⟩ | ⟨-, k, -, heq, hfree, -⟩
  · rw [heq]; exact hfree
  · rw [heq]; exact hfree

/-! ## The table of names stays consistent -/

/-- A text has a name exactly when the parameter of that name has the text. -/
structure Consistent (s : SharedParameters) : Prop where
  /-- The parameter of a text's name has the text. -/
  parameter_of_name : ∀ {text name : String}, s.names.find? text = some name →
    ∃ p, s.parameters.find? name = some p ∧ p.text = text
  /-- The name of a parameter is the one of its text. -/
  name_of_parameter : ∀ {name : String} {p : Parameter}, s.parameters.find? name = some p →
    s.names.find? p.text = some name

/-- A table without names is consistent. -/
theorem consistent_empty : Consistent {} :=
  ⟨fun h => by simp at h, fun h => by simp at h⟩

/-- Naming a parameter whose text has no name yet keeps the table consistent. The new name is free, so
no earlier parameter is overwritten; the text is new, so no earlier name is. -/
theorem Consistent.add {s : SharedParameters} (hs : s.Consistent) {p : Parameter}
    (hnew : s.names.find? p.text = none) : (s.add p.text p).Consistent := by
  have hfree : s.parameters.find? (freeName p.baseName (Digest.ofText p.text) s.parameters) = none :=
    (Dict.contains_eq_false_iff _ _).1 (freeName_free _ _ _)
  unfold SharedParameters.add
  generalize freeName p.baseName (Digest.ofText p.text) s.parameters = fresh at hfree
  constructor
  · intro text name h
    simp only [Dict.find?_insert] at h ⊢
    split at h
    · -- the new text has the new name
      next ht =>
      obtain rfl : fresh = name := by simpa using h
      exact ⟨p, by simp, ht.symm⟩
    · -- an old text keeps its name, and the parameter of that name is not overwritten
      obtain ⟨q, hq, hqt⟩ := hs.parameter_of_name h
      have hne : name ≠ fresh := fun e => by rw [e, hfree] at hq; simp at hq
      exact ⟨q, by rw [if_neg hne, hq], hqt⟩
  · intro name q h
    simp only [Dict.find?_insert] at h ⊢
    split at h
    · next hn =>
      obtain rfl : p = q := by simpa using h
      simp [hn]
    · -- an old parameter keeps its name, since its text is not the new one
      have hq := hs.name_of_parameter h
      have hne : q.text ≠ p.text := fun e => by rw [e, hnew] at hq; simp at hq
      rw [if_neg hne, hq]

/-- Naming parameters with new and distinct texts one after the other keeps the table consistent, and
then exactly their texts have a name besides those that had one. -/
theorem Consistent.foldl_add {s : SharedParameters} (hs : s.Consistent)
    (entries : List (String × Parameter)) (htext : ∀ e ∈ entries, e.2.text = e.1)
    (hnodup : (entries.map Prod.fst).Nodup) (hnew : ∀ e ∈ entries, s.names.find? e.1 = none) :
    (entries.foldl (fun s e => s.add e.1 e.2) s).Consistent ∧
      ∀ text, text ∈ (entries.foldl (fun s e => s.add e.1 e.2) s).names.keys
        ↔ text ∈ s.names.keys ∨ text ∈ entries.map Prod.fst := by
  induction entries generalizing s with
  | nil => exact ⟨hs, fun text => by simp⟩
  | cons e rest ih =>
    obtain ⟨text, p⟩ := e
    obtain rfl : p.text = text := htext (text, p) List.mem_cons_self
    rw [List.map_cons, List.nodup_cons] at hnodup
    have hp : s.names.find? p.text = none := hnew (p.text, p) List.mem_cons_self
    have hadd := hs.add hp
    -- the texts that are left are none of those named so far, the one of `p` included
    have hrest := ih hadd (fun e he => htext e (List.mem_cons_of_mem _ he)) hnodup.2 fun e he => by
      have hne : e.1 ≠ p.text := fun h => hnodup.1 (List.mem_map.2 ⟨e, he, h⟩)
      rw [SharedParameters.add, Dict.find?_insert, if_neg hne]
      exact hnew e (List.mem_cons_of_mem _ he)
    refine ⟨hrest.1, fun t => ?_⟩
    rw [List.foldl_cons, hrest.2, SharedParameters.add, Dict.mem_keys_insert, List.map_cons,
      List.mem_cons]
    tauto

end SharedParameters

/-! ## The parameters that a document shares -/

namespace Document

/-- The shareable parameters by text: under each text the first parameter that has it. -/
theorem find?_shareableByText (d : Document) (text : String) :
    d.shareableByText.find? text = d.shareable.find? fun p => p.text == text := by
  rw [shareableByText, Dict.find?_foldl_insertNew Parameter.text (fun p => p)]
  simp

/-- The shareable parameters by text stand in the order of their texts. -/
theorem sorted_shareableByText (d : Document) : d.shareableByText.Sorted := by
  refine List.foldlRecOn d.shareable _ Dict.sorted_empty ?_
  exact fun _ hsorted p _ => hsorted.insertNew p.text p

/-- They have the texts under which they stand. -/
theorem text_of_mem_shareableByText {d : Document} {e : String × Parameter}
    (h : e ∈ d.shareableByText.entries) : e.2.text = e.1 := by
  have hfind := (Dict.mem_entries_iff d.sorted_shareableByText e.1 e.2).1 h
  rw [find?_shareableByText] at hfind
  simpa using List.find?_some hfind

/-- They are shareable parameters of the document. -/
theorem mem_shareable_of_mem_shareableByText {d : Document} {e : String × Parameter}
    (h : e ∈ d.shareableByText.entries) : e.2 ∈ d.shareable := by
  have hfind := (Dict.mem_entries_iff d.sorted_shareableByText e.1 e.2).1 h
  rw [find?_shareableByText] at hfind
  exact List.mem_of_find?_eq_some hfind

/-- The texts are those of the shareable parameters. -/
theorem mem_keys_shareableByText (d : Document) (text : String) :
    text ∈ d.shareableByText.keys ↔ ∃ p ∈ d.shareable, p.text = text := by
  rw [Dict.mem_keys_iff, ← Option.isSome_iff_exists, find?_shareableByText, List.find?_isSome]
  simp

/-- A parameter that is found after some were named was there before, or is one of them, and then its
name was picked for it. -/
theorem find?_parameters_foldl_add {s : SharedParameters} {entries : List (String × Parameter)}
    {name : String} {p : Parameter}
    (h : (entries.foldl (fun s e => s.add e.1 e.2) s).parameters.find? name = some p) :
    s.parameters.find? name = some p ∨ ∃ e ∈ entries, e.2 = p ∧
      ∃ taken, name = SharedParameters.freeName p.baseName (Digest.ofText e.1) taken := by
  induction entries generalizing s with
  | nil => exact Or.inl h
  | cons e rest ih =>
    rcases ih h with h | ⟨e', he', hp⟩
    · simp only [SharedParameters.add, Dict.find?_insert] at h
      split at h
      · next hname =>
        obtain rfl : e.2 = p := Option.some.inj h
        exact Or.inr ⟨e, List.mem_cons_self, rfl, _, hname⟩
      · exact Or.inl h
    · exact Or.inr ⟨e', List.mem_cons_of_mem _ he', hp⟩

/-- What is shared stands in the order of its names. -/
theorem sorted_sharedParameters (d : Document) : d.sharedParameters.parameters.Sorted := by
  refine List.foldlRecOn d.shareableByText.entries _
    (motive := fun s : SharedParameters => s.parameters.Sorted) Dict.sorted_empty ?_
  exact fun _ hsorted e _ => hsorted.insert _ e.2

/-- Every shared parameter is a shareable one of the document. -/
theorem mem_shareable_of_shared {d : Document} {name : String} {p : Parameter}
    (h : d.sharedParameters.parameters.find? name = some p) : p ∈ d.shareable := by
  rcases find?_parameters_foldl_add h with h | ⟨e, he, rfl, -⟩
  · exact nomatch h
  · exact mem_shareable_of_mem_shareableByText he

/-- The table of a document is consistent, and names exactly the texts of its shareable parameters. -/
theorem sharedParameters_consistent (d : Document) :
    d.sharedParameters.Consistent ∧
      ∀ text, text ∈ d.sharedParameters.names.keys ↔ ∃ p ∈ d.shareable, p.text = text := by
  have h := SharedParameters.consistent_empty.foldl_add d.shareableByText.entries
    (fun e he => text_of_mem_shareableByText he) d.sorted_shareableByText.nodup_keys
    (fun e _ => by simp)
  refine ⟨h.1, fun text => ?_⟩
  rw [sharedParameters, h.2, ← mem_keys_shareableByText]
  simp [Dict.keys]

end Document

/-! ## What stands in the place of a parameter -/

namespace Parameter

/-- The parameters that sharing leaves alone: references, bodies, and what is called `name` in the path
or query. -/
def StaysInline (p : Parameter) : Prop :=
  (∃ target, p.reference = some target ∧ target ≠ "") ∨ p.location = "body" ∨
    (p.name = "name" ∧ (p.location = "path" ∨ p.location = "query"))

/-- A parameter is a reference if it has a target that is not empty. -/
theorem isReference_iff (p : Parameter) :
    p.isReference = true ↔ ∃ target, p.reference = some target ∧ target ≠ "" := by
  unfold isReference
  cases p.reference <;> simp

/-- A parameter is shareable if it does not stay inline. -/
theorem isShareable_eq_true_iff (p : Parameter) : p.isShareable = true ↔ ¬p.StaysInline := by
  rw [StaysInline, ← isReference_iff, isShareable]
  simp only [Bool.and_eq_true, Bool.not_eq_true', Bool.or_eq_false_iff, Bool.and_eq_false_iff,
    beq_eq_false_iff_ne, not_or, not_and, Bool.not_eq_true]
  tauto

/-- What may stand in the place of a parameter once the parameters `shared` are shared: the parameter
itself if it stays inline, and else a pointer at a shared parameter with its text. -/
inductive SharedAs (shared : Dict String Parameter) (p : Parameter) : Parameter → Prop
  | kept : p.StaysInline → SharedAs shared p p
  | pointed {k : String} {q : Parameter} : ¬p.StaysInline → shared.find? k = some q →
      q.text = p.text → SharedAs shared p (.pointingAt ("#/parameters/" ++ k))

/-- Different names are pointed at by different references. -/
theorem pointingAt_injective (k l : String)
    (h : pointingAt ("#/parameters/" ++ k) = pointingAt ("#/parameters/" ++ l)) : k = l := by
  have href : some ("#/parameters/" ++ k) = some ("#/parameters/" ++ l) :=
    congrArg Parameter.reference h
  exact (String.append_right_inj _).1 (Option.some.inj href)

end Parameter

namespace SharedParameters

/-- A parameter that stays inline is not replaced. -/
theorem replace_of_staysInline (s : SharedParameters) {p : Parameter} (h : p.StaysInline) :
    s.replace p = p := by
  rw [replace, if_neg (fun hs => (p.isShareable_eq_true_iff.1 hs) h)]

/-- Any other one is replaced by a pointer at the name of its text. -/
theorem replace_of_name (s : SharedParameters) {p : Parameter} (h : ¬p.StaysInline) {name : String}
    (hn : s.names.find? p.text = some name) :
    s.replace p = .pointingAt ("#/parameters/" ++ name) := by
  rw [replace, if_pos (p.isShareable_eq_true_iff.2 h), hn]

/-- Two parameters get one reference exactly when they have one text. -/
theorem Consistent.replace_eq_iff {s : SharedParameters} (hs : s.Consistent) {p q : Parameter}
    (hp : ¬p.StaysInline) (hq : ¬q.StaysInline) {k l : String} (hk : s.names.find? p.text = some k)
    (hl : s.names.find? q.text = some l) : s.replace p = s.replace q ↔ p.text = q.text := by
  rw [s.replace_of_name hp hk, s.replace_of_name hq hl]
  constructor
  · intro h
    -- both names are one, and the parameter of that name has either text
    obtain rfl := Parameter.pointingAt_injective k l h
    obtain ⟨x, hx, hxp⟩ := hs.parameter_of_name hk
    obtain ⟨y, hy, hyq⟩ := hs.parameter_of_name hl
    obtain rfl : x = y := Option.some.inj (hx.symm.trans hy)
    rw [← hxp, hyq]
  · intro h
    rw [h, hl] at hk
    rw [Option.some.inj hk]

end SharedParameters

/-! ## Places of a document -/

/-- A place where a parameter may stand. -/
structure ParameterSite where
  /-- The number of the path, in the order of the paths. -/
  path : Nat
  /-- The method of the operation, or nothing for the list of the path itself. -/
  method : Option Method
  /-- The position in the list. -/
  index : Nat

namespace PathItem

/-- The parameters of the operation of a method, or those of the path itself. -/
def parametersOf (item : PathItem) : Option Method → List Parameter
  | none => item.parameters
  | some m => ((item.slot m).map Operation.parameters).getD []

/-- The path without its parameters and those of its operations. -/
def bare (item : PathItem) : PathItem :=
  { item.mapOperations fun op => { op with parameters := [] } with parameters := [] }

/-- The parameters at a path are those of the path itself and of its methods. -/
theorem mem_allParameters (item : PathItem) (p : Parameter) :
    p ∈ item.allParameters ↔ ∃ m, p ∈ item.parametersOf m := by
  simp only [allParameters, operations, List.mem_append, List.mem_flatMap, List.mem_filterMap]
  constructor
  · rintro (⟨op, ⟨m, -, hm⟩, hp⟩ | hp)
    · exact ⟨some m, by simpa [parametersOf, hm] using hp⟩
    · exact ⟨none, hp⟩
  · rintro ⟨m | m, hp⟩
    · exact Or.inr hp
    · cases hm : item.slot m with
      | none => simp [parametersOf, hm] at hp
      | some op => exact Or.inl ⟨op, ⟨m, Method.mem_all m, hm⟩, by simpa [parametersOf, hm] using hp⟩

/-- The parameters of a method are those of the operation in its slot. -/
theorem exists_slot_of_mem {item : PathItem} {m : Method} {p : Parameter}
    (h : p ∈ item.parametersOf (some m)) : ∃ op, item.slot m = some op ∧ p ∈ op.parameters := by
  cases hslot : item.slot m with
  | none => simp [parametersOf, hslot] at h
  | some op => exact ⟨op, rfl, by simpa [parametersOf, hslot] using h⟩

/-- Where all parameters are changed, those of the operation in a slot are. -/
theorem slot_mapParameters (f : Parameter → Parameter) (item : PathItem) (m : Method) :
    (item.mapParameters f).slot m
      = (item.slot m).map fun op => { op with parameters := op.parameters.map f } := by
  cases m <;> rfl

/-- So are the parameters of a method, or of the path itself. -/
theorem parametersOf_mapParameters (f : Parameter → Parameter) (item : PathItem)
    (m : Option Method) : (item.mapParameters f).parametersOf m = (item.parametersOf m).map f := by
  cases m with
  | none => rfl
  | some m =>
    simp only [parametersOf, slot_mapParameters]
    cases item.slot m <;> rfl

/-- Nothing but the parameters changes. -/
theorem bare_mapParameters (f : Parameter → Parameter) (item : PathItem) :
    (item.mapParameters f).bare = item.bare := by
  simp [mapParameters, bare, mapOperations, Function.comp_def]

end PathItem

namespace Document

/-- The parameter at a place of a document. -/
def parameterAt? (d : Document) (s : ParameterSite) : Option Parameter :=
  d.paths.entries[s.path]?.bind fun e => (e.2.parametersOf s.method)[s.index]?

/-- The document without any parameter. -/
def bare (d : Document) : Document := { d with parameters := ∅, paths := d.paths.map PathItem.bare }

/-- A shared form of a document. -/
structure SharedAs (d d' : Document) : Prop where
  /-- What is no parameter is the same: the same paths with the same operations and fields. -/
  bare_eq : d'.bare = d.bare
  /-- The same places hold parameters, and in each place stands what may stand for the parameter. -/
  at_site : ∀ s, Option.Rel (Parameter.SharedAs d'.parameters) (d.parameterAt? s) (d'.parameterAt? s)
  /-- Two shareable parameters get one reference exactly when they have one text. -/
  reference_iff : ∀ s t p q, d.parameterAt? s = some p → d.parameterAt? t = some q →
    ¬p.StaysInline → ¬q.StaysInline → (d'.parameterAt? s = d'.parameterAt? t ↔ p.text = q.text)
  /-- Every shared parameter is pointed at from the place of a shareable one. -/
  referenced : ∀ k ∈ d'.parameters.keys, ∃ s p, d.parameterAt? s = some p ∧ ¬p.StaysInline ∧
    d'.parameterAt? s = some (.pointingAt ("#/parameters/" ++ k))

/-- A parameter stands somewhere at a path exactly when it stands at some place. -/
theorem mem_allParameters_iff (d : Document) (p : Parameter) :
    p ∈ d.paths.values.flatMap PathItem.allParameters ↔ ∃ s, d.parameterAt? s = some p := by
  simp only [List.mem_flatMap, Dict.values, List.mem_map, PathItem.mem_allParameters, parameterAt?]
  constructor
  · rintro ⟨item, ⟨e, he, rfl⟩, m, hp⟩
    obtain ⟨n, hn⟩ := List.mem_iff_getElem?.1 he
    obtain ⟨i, hi⟩ := List.mem_iff_getElem?.1 hp
    exact ⟨⟨n, m, i⟩, by simpa [hn] using hi⟩
  · rintro ⟨s, hs⟩
    obtain ⟨e, he, hp⟩ := Option.bind_eq_some_iff.1 hs
    exact ⟨e.2, ⟨e, List.mem_of_getElem? he, rfl⟩, s.method, List.mem_of_getElem? hp⟩

/-- A shareable parameter is one that stands in some place and does not stay inline. -/
theorem mem_shareable_iff (d : Document) (p : Parameter) :
    p ∈ d.shareable ↔ (∃ s, d.parameterAt? s = some p) ∧ ¬p.StaysInline := by
  rw [shareable, List.mem_filter, mem_allParameters_iff, p.isShareable_eq_true_iff]

/-- Every shareable parameter of a document has a name. -/
theorem exists_name (d : Document) {s : ParameterSite} {p : Parameter}
    (hs : d.parameterAt? s = some p) (hp : ¬p.StaysInline) :
    ∃ name, d.sharedParameters.names.find? p.text = some name :=
  (Dict.mem_keys_iff _ _).1
    ((d.sharedParameters_consistent.2 p.text).2 ⟨p, d.mem_shareable_iff p |>.2 ⟨⟨s, hs⟩, hp⟩, rfl⟩)

/-- Where all parameters of a document are changed, each is changed in its place. -/
theorem parameterAt?_mapParameters (f : Parameter → Parameter) (d : Document)
    (ps : Dict String Parameter) (s : ParameterSite) :
    { d with parameters := ps, paths := d.paths.map (PathItem.mapParameters f) }.parameterAt? s
      = (d.parameterAt? s).map f := by
  simp only [parameterAt?, Dict.map, List.getElem?_map]
  cases d.paths.entries[s.path]? with
  | none => rfl
  | some e => simp [PathItem.parametersOf_mapParameters]

/-- The document with every shareable parameter replaced by its reference. -/
def shared (d : Document) : Document :=
  { d with
    parameters := d.sharedParameters.parameters
    paths := d.paths.map (PathItem.mapParameters d.sharedParameters.replace) }

/-- A document without shared parameters is not refused. -/
theorem shareParameters_eq_shared {d : Document} (h : d.parameters.isEmpty = true) :
    d.shareParameters = .ok d.shared := if_pos h

/-- Each parameter of a document is replaced in its place. -/
theorem parameterAt?_shared (d : Document) (s : ParameterSite) :
    d.shared.parameterAt? s = (d.parameterAt? s).map d.sharedParameters.replace :=
  d.parameterAt?_mapParameters _ _ s

/-- The document with its parameters replaced is a shared form of it. -/
theorem sharedAs_shared (d : Document) : d.SharedAs d.shared := by
  obtain ⟨hcons, hnames⟩ := d.sharedParameters_consistent
  constructor
  case bare_eq =>
    simp [shared, bare, Dict.map, PathItem.bare_mapParameters]
  case at_site =>
    intro s
    rw [parameterAt?_shared]
    cases hs : d.parameterAt? s with
    | none => exact Option.Rel.none
    | some p =>
      refine Option.Rel.some ?_
      by_cases hp : p.StaysInline
      · rw [SharedParameters.replace_of_staysInline _ hp]
        exact .kept hp
      · obtain ⟨name, hname⟩ := d.exists_name hs hp
        obtain ⟨q, hq, hqt⟩ := hcons.parameter_of_name hname
        rw [SharedParameters.replace_of_name _ hp hname]
        exact .pointed hp hq hqt
  case reference_iff =>
    intro s t p q hs ht hp hq
    obtain ⟨k, hk⟩ := d.exists_name hs hp
    obtain ⟨l, hl⟩ := d.exists_name ht hq
    rw [parameterAt?_shared, parameterAt?_shared, hs, ht, Option.map_some, Option.map_some,
      Option.some_inj]
    exact hcons.replace_eq_iff hp hq hk hl
  case referenced =>
    intro k hk
    obtain ⟨q, hq⟩ := (Dict.mem_keys_iff _ _).1 hk
    -- the text of a shared parameter is named, so it is the text of a shareable one
    have hname := hcons.name_of_parameter hq
    obtain ⟨p, hmem, hpq⟩ := (hnames q.text).1 ((Dict.mem_keys_iff _ _).2 ⟨k, hname⟩)
    obtain ⟨⟨s, hs⟩, hp⟩ := (d.mem_shareable_iff p).1 hmem
    rw [← hpq] at hname
    refine ⟨s, p, hs, hp, ?_⟩
    rw [parameterAt?_shared, hs, Option.map_some, SharedParameters.replace_of_name _ hp hname]

/-- **Sharing loses nothing.** A document that shares parameters already is refused; every other
document has a shared form. -/
theorem shareParameters_spec (d : Document) :
    if d.parameters.isEmpty then ∃ d', d.shareParameters = .ok d' ∧ d.SharedAs d'
    else d.shareParameters = .error .sharedParametersExist := by
  split
  · next h => exact ⟨d.shared, shareParameters_eq_shared h, d.sharedAs_shared⟩
  · next h => exact if_neg h

/-- Sharing parameters leaves the definitions alone. -/
@[simp] theorem shared_definitions (d : Document) : d.shared.definitions = d.definitions := rfl

/-- Sharing parameters replaces them path by path. -/
@[simp] theorem shared_paths (d : Document) :
    d.shared.paths = d.paths.map (PathItem.mapParameters d.sharedParameters.replace) := rfl

end Document

/-! ## The finished document -/

namespace Config

/-- A document with what the settings say about security. -/
def secured (c : Config) (d : Document) : Document :=
  match c.securityDefinitions with
  | some schemes => { d with securityDefinitions := schemes, security := c.defaultSecurity }
  | none => d

/-- What the settings say about security does not concern the paths. -/
@[simp] theorem secured_paths (c : Config) (d : Document) : (c.secured d).paths = d.paths := by
  unfold secured; split <;> rfl

/-- It does not concern the definitions. -/
@[simp] theorem secured_definitions (c : Config) (d : Document) :
    (c.secured d).definitions = d.definitions := by
  unfold secured; split <;> rfl

/-- It does not concern the shared parameters. -/
@[simp] theorem secured_parameters (c : Config) (d : Document) :
    (c.secured d).parameters = d.parameters := by
  unfold secured; split <;> rfl

/-- Where nothing else completes a document, it is finished by sharing its parameters. -/
theorem finish_eq_shared {c : Config} (hc : c.complete = none) {d : Document}
    (hd : d.parameters.isEmpty = true) : c.finish d = .ok (c.secured d).shared := by
  have hshare : (c.secured d).shareParameters = .ok (c.secured d).shared :=
    Document.shareParameters_eq_shared (by rw [secured_parameters, hd])
  rw [← hshare, finish, hc]
  rfl

end Config

end Swagger
