import Swagger.Loading
import Swagger.Proofs.Dict
import Swagger.Proofs.Run

/-! # Taking entries in
The entries of definition files are taken in one by one. An entry is refused where its name is known
already or its markers are bad; what is known otherwise are the definitions of the entries so far, each
with the path of its file.

* `LocatedDefinitions.Holds` — what is known after some entries; `Holds.add` takes one more in.
* `LocatedDefinitions.exists_holds_of_run`, `LocatedDefinitions.exists_holds_of_run_error` — a run that
  succeeded, and one that failed.
* `Dict.DefinedBy` — the definitions of some entries, whatever files they are from. -/

namespace Swagger

/-! ## One entry after the other -/

namespace LocatedDefinitions

/-- What is known after some entries have been taken in: their definitions, each under its own name and
with the path of its file. -/
structure Holds (taken : List LocatedEntry) (known : LocatedDefinitions) : Prop where
  /-- What is known is in order. -/
  sorted : known.Sorted
  /-- No two entries have one name. -/
  distinct : (taken.map LocatedEntry.name).Nodup
  /-- The markers of every entry were recorded. -/
  marked : ∀ e ∈ taken, ∃ d, e.entry.marked = .ok d
  /-- Under each name stands the entry of that name. -/
  find?_iff : ∀ name path d, known.find? name = some (path, d) ↔
    ∃ e ∈ taken, e.name = name ∧ e.path = path ∧ e.entry.marked = .ok d

/-- Before any entry has been taken in, nothing is known. -/
theorem holds_empty : Holds [] ∅ where
  sorted := Dict.sorted_empty
  distinct := List.nodup_nil
  marked e he := absurd he List.not_mem_nil
  find?_iff name path d := by simp

variable {taken : List LocatedEntry} {known known' : LocatedDefinitions}

/-- A name is free as long as no entry has it. -/
theorem Holds.find?_eq_none_iff (h : Holds taken known) (name : String) :
    known.find? name = none ↔ name ∉ taken.map LocatedEntry.name := by
  rw [Option.eq_none_iff_forall_ne_some, List.mem_map]
  constructor
  · rintro hnone ⟨e, he, rfl⟩
    obtain ⟨d, hd⟩ := h.marked e he
    exact hnone (e.path, d) ((h.find?_iff _ _ _).2 ⟨e, he, rfl, rfl, hd⟩)
  · rintro hfree ⟨path, d⟩ hfind
    obtain ⟨e, he, hname, -⟩ := (h.find?_iff _ _ _).1 hfind
    exact hfree ⟨e, he, hname⟩

/-- **An entry is taken in** where its name is free and its markers are good. -/
theorem add_eq_ok_iff (known known' : LocatedDefinitions) (c : Except LoadError LocatedEntry) :
    known.add c = .ok known' ↔ ∃ e d, c = .ok e ∧ known.find? e.name = none ∧ e.entry.marked = .ok d ∧
      known' = known.insert e.name (e.path, d) := by
  rw [add, Run.bind_eq_ok]
  refine exists_congr fun e => ?_
  cases hfind : known.find? e.name with
  | some first => simp
  | none =>
    cases hmarked : e.entry.marked with
    | ok d => simp [pure, Except.pure, eq_comm]
    | error cause => simp

/-- Why an entry is not taken in: its file could not be read, its name is known, or its markers are
bad. -/
theorem add_eq_error_iff (known : LocatedDefinitions) (c : Except LoadError LocatedEntry)
    (error : LoadError) :
    known.add c = .error error ↔ c = .error error ∨ ∃ e, c = .ok e ∧
      ((∃ first, known.find? e.name = some first ∧
        error = .duplicateDefinition e.name first.1 e.path) ∨
      (∃ cause, known.find? e.name = none ∧ e.entry.marked = .error cause ∧
        error = .invalidMarkers e.name cause)) := by
  rw [add, Run.bind_eq_error]
  refine or_congr Iff.rfl (exists_congr fun e => and_congr Iff.rfl ?_)
  cases hfind : known.find? e.name with
  | some first => simp [eq_comm]
  | none =>
    cases hmarked : e.entry.marked with
    | ok d => simp [pure, Except.pure]
    | error cause => simp [eq_comm]

/-- One more entry is known when it has been taken in. -/
theorem Holds.add (h : Holds taken known) {e : LocatedEntry} (hadd : known.add (.ok e) = .ok known') :
    Holds (taken ++ [e]) known' := by
  obtain ⟨e', d, he, hnew, hd, rfl⟩ := (add_eq_ok_iff _ _ _).1 hadd
  obtain rfl := Except.ok.inj he
  have hfree := (h.find?_eq_none_iff e.name).1 hnew
  refine ⟨h.sorted.insert _ _, ?_, fun e' he' => ?_, fun name path d' => ?_⟩
  · rw [List.map_append, List.map_singleton, List.nodup_append']
    exact ⟨h.distinct, List.nodup_singleton _, List.disjoint_singleton.2 hfree⟩
  · rcases List.mem_append.1 he' with he' | he'
    · exact h.marked e' he'
    · exact ⟨d, List.mem_singleton.1 he' ▸ hd⟩
  · simp only [Dict.find?_insert, List.mem_append, List.mem_singleton, or_and_right, exists_or,
      exists_eq_left, ← h.find?_iff]
    by_cases hname : name = e.name
    · -- nothing was known under this name
      subst hname
      simp [hnew, hd]
    · simp [hname, Ne.symm hname]

/-- **A run that succeeded** took in every entry. -/
theorem exists_holds_of_run {entries : List (Except LoadError LocatedEntry)}
    (h : entries.foldlM LocatedDefinitions.add ∅ = .ok known) :
    ∃ taken, entries = taken.map .ok ∧ Holds taken known := by
  refine Run.foldlM_induction (fun done known => ∃ taken, done = taken.map .ok ∧ Holds taken known)
    ?_ ⟨[], rfl, holds_empty⟩ h
  rintro done c known known' ⟨taken, rfl, hholds⟩ hadd
  obtain ⟨e, d, rfl, -⟩ := (add_eq_ok_iff _ _ _).1 hadd
  exact ⟨taken ++ [e], by rw [List.map_append, List.map_singleton], hholds.add hadd⟩

/-- **A run that failed** had taken in all entries before the one it failed at. -/
theorem exists_holds_of_run_error {entries : List LocatedEntry} {error : LoadError}
    (h : (entries.map .ok).foldlM LocatedDefinitions.add ∅ = .error error) :
    ∃ taken e rest known, entries = taken ++ e :: rest ∧ Holds taken known ∧
      known.add (.ok e) = .error error := by
  obtain ⟨done, c, rest, known, hsplit, hdone, hfail⟩ := Run.exists_of_foldlM_eq_error h
  obtain ⟨done', rest', hentries, hdone', hrest⟩ := List.map_eq_append_iff.1 hsplit
  obtain ⟨e, rest', rfl, rfl, -⟩ := List.map_eq_cons_iff.1 hrest
  obtain ⟨taken, htaken, hholds⟩ := exists_holds_of_run hdone
  obtain rfl : done' = taken :=
    List.map_injective_iff.2 (fun _ _ => Except.ok.inj) (hdone'.trans htaken)
  exact ⟨done', e, rest', known, hentries, hholds, hfail⟩

end LocatedDefinitions

/-! ## The definitions of some entries -/

/-- The definitions of entries: these have distinct names and good markers, and each is told by the
entry of its name. -/
structure Dict.DefinedBy (d : Dict String WrittenDefinition)
    (entries : List (String × DefinitionEntry)) : Prop where
  /-- The definitions are in order. -/
  sorted : d.Sorted
  /-- No two entries have one name. -/
  distinct : (entries.map Prod.fst).Nodup
  /-- The markers of every entry are good. -/
  marked : ∀ e ∈ entries, ∃ x, e.2.marked = .ok x
  /-- Each definition is that of the entry with its name. -/
  find?_iff : ∀ name x, d.find? name = some x ↔ ∃ e ∈ entries, e.1 = name ∧ e.2.marked = .ok x

namespace Dict.DefinedBy

variable {d d' : Dict String WrittenDefinition} {entries entries' : List (String × DefinitionEntry)}

/-- It does not matter in which order the entries stand. -/
theorem perm (h : d.DefinedBy entries) (hperm : entries.Perm entries') : d.DefinedBy entries' where
  sorted := h.sorted
  distinct := (hperm.map Prod.fst).nodup_iff.1 h.distinct
  marked e he := h.marked e (hperm.mem_iff.2 he)
  find?_iff name x := by simpa only [hperm.mem_iff] using h.find?_iff name x

/-- Entries have one dictionary of definitions. -/
theorem unique (h : d.DefinedBy entries) (h' : d'.DefinedBy entries) : d = d' :=
  h.sorted.ext h'.sorted fun name => Option.ext fun x => (h.find?_iff name x).trans (h'.find?_iff name x).symm

/-- The names of the definitions are those of the entries. -/
theorem mem_keys_iff (h : d.DefinedBy entries) (name : String) :
    name ∈ d.keys ↔ name ∈ entries.map Prod.fst := by
  rw [Dict.mem_keys_iff, List.mem_map]
  constructor
  · rintro ⟨x, hx⟩
    obtain ⟨e, he, hname, -⟩ := (h.find?_iff name x).1 hx
    exact ⟨e, he, hname⟩
  · rintro ⟨e, he, hname⟩
    obtain ⟨x, hx⟩ := h.marked e he
    exact ⟨x, (h.find?_iff name x).2 ⟨e, he, hname, hx⟩⟩

end Dict.DefinedBy

/-- What is known after some entries are their definitions, with the paths of their files. -/
theorem LocatedDefinitions.Holds.definedBy {taken : List LocatedEntry} {known : LocatedDefinitions}
    (h : Holds taken known) :
    Dict.DefinedBy (known.map Prod.snd) (taken.map fun e => (e.name, e.entry)) where
  sorted := by
    rw [Dict.sorted_iff_pairwise_keys, Dict.keys_map]
    exact (Dict.sorted_iff_pairwise_keys _).1 h.sorted
  distinct := by
    rw [List.map_map]
    exact h.distinct
  marked := List.forall_mem_map.2 h.marked
  find?_iff name x := by
    rw [Dict.find?_map, Option.map_eq_some_iff]
    constructor
    · rintro ⟨⟨path, d⟩, hfind, rfl⟩
      obtain ⟨e, he, hname, -, hd⟩ := (h.find?_iff _ _ _).1 hfind
      exact ⟨(e.name, e.entry), List.mem_map_of_mem he, hname, hd⟩
    · rintro ⟨_, hmem, hname, hd⟩
      obtain ⟨e, he, rfl⟩ := List.mem_map.1 hmem
      exact ⟨(e.path, x), (h.find?_iff _ _ _).2 ⟨e, he, hname, rfl, hd⟩, rfl⟩

end Swagger
