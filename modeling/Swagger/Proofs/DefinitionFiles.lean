import Swagger.Proofs.LoadedEntries
import Swagger.Proofs.NodeValues

/-! # Definitions spread over files
Every definition file below a directory holds entries under distinct names, and no name may stand in two
files. Then it does not matter which file an entry stands in: the definitions are those of all entries
together.

* `DefinitionFile`, `readDefinitionFiles` — the definition files below a directory, as they are read.
* `DefinitionFile.FirstRepeat` — the first name that a file shares with an earlier one.
* `loadDefinitions_eq_ok_iff`, `loadDefinitions_error` — what is loaded, and why nothing is.
* `loadDefinitions_union` — loading a directory is a disjoint union. -/

namespace Swagger

/-! ## Definition files -/

/-- What is loaded was read from a node. -/
theorem exists_of_loadContent_eq_ok {α : Type} {read : Node → Option α} {path : String}
    {content : Option ByteArray} {a : α} (h : loadContent read path content = .ok a) :
    ∃ n, read n = some a := by
  unfold loadContent at h
  split at h
  · cases h
  · split at h
    · cases h
    · split at h
      · next hread =>
        obtain rfl := Except.ok.inj h
        obtain ⟨n, -, hn⟩ := Option.bind_eq_some_iff.1 hread
        exact ⟨n, hn⟩
      · cases h

/-- A definition file as it is read. -/
structure DefinitionFile where
  /-- The path of the file. -/
  path : String
  /-- The entries by the canonical names of their models. -/
  entries : Dict String DefinitionEntry

namespace DefinitionFile

/-- The canonical names of the models that a file defines, in order. -/
def names (f : DefinitionFile) : List String := f.entries.keys

/-- The entries of a file, with its path. -/
def located (f : DefinitionFile) : List LocatedEntry :=
  f.entries.entries.map fun e => ⟨f.path, e.1, e.2⟩

/-- The entries of some files, one file after the other. -/
def allEntries (files : List DefinitionFile) : List (String × DefinitionEntry) :=
  files.flatMap fun f => f.entries.entries

/-- Read a definition file. -/
def read (f : String × ByteArray) : Except LoadError DefinitionFile := do
  let entries ← loadContent (Node.dict? DefinitionEntry.ofNode?) f.1 (some f.2)
  return ⟨f.1, entries⟩

/-- The markers of every entry are good. -/
def MarkersGood (f : DefinitionFile) : Prop := ∀ e ∈ f.entries.entries, ∃ d, e.2.marked = .ok d

/-- Two files define no model both. -/
def Apart (f g : DefinitionFile) : Prop := f.names.Disjoint g.names

/-- **The first repeated name** of some files: the least name of the first file that shares one with an
earlier file, and these two files. -/
structure FirstRepeat (files : List DefinitionFile) (name : String) (first second : DefinitionFile) :
    Prop where
  /-- Both files define the model. -/
  mem_names : name ∈ first.names ∧ name ∈ second.names
  /-- The files before the second one share no name, and what it shares with them is not less. -/
  exists_split : ∃ before after, files = before ++ second :: after ∧ first ∈ before ∧
    before.Pairwise Apart ∧
    ∀ f ∈ before, ∀ n ∈ f.names, n ∈ second.names → (compare name n).isLE

/-- The located entries of a file have its names. -/
@[simp] theorem map_name_located (f : DefinitionFile) : f.located.map LocatedEntry.name = f.names := by
  rw [located, List.map_map]
  rfl

/-- The entries are those with their paths, without the paths. -/
theorem allEntries_eq_map (files : List DefinitionFile) :
    allEntries files = (files.flatMap located).map fun e => (e.name, e.entry) := by
  rw [allEntries, List.map_flatMap]
  simp [located, Function.comp_def]

/-- The entries of all files have the names of all files. -/
theorem map_fst_allEntries (files : List DefinitionFile) :
    (allEntries files).map Prod.fst = files.flatMap names := List.map_flatMap

/-- A located entry of a file has its path. -/
theorem path_of_mem_located {f : DefinitionFile} {e : LocatedEntry} (h : e ∈ f.located) :
    e.path = f.path := by
  obtain ⟨x, -, rfl⟩ := List.mem_map.1 h
  rfl

/-- Files that are in order themselves repeat no name when no two of them share one. -/
theorem nodup_names_iff {files : List DefinitionFile} (h : ∀ f ∈ files, f.entries.Sorted) :
    (files.flatMap names).Nodup ↔ files.Pairwise Apart := by
  rw [List.nodup_flatMap]
  exact and_iff_right fun f hf => (h f hf).nodup_keys

/-- The names of a file around one of its entries: that of the entry is none of those before it, and less
than those after it. -/
theorem names_of_located_eq {f : DefinitionFile} (hf : f.entries.Sorted) {us vs : List LocatedEntry}
    {e : LocatedEntry} (h : f.located = us ++ e :: vs) :
    f.names = us.map LocatedEntry.name ++ e.name :: vs.map LocatedEntry.name ∧
      e.name ∉ us.map LocatedEntry.name ∧
      ∀ n ∈ vs.map LocatedEntry.name, compare e.name n = .lt := by
  have hnames : f.names = us.map LocatedEntry.name ++ e.name :: vs.map LocatedEntry.name := by
    rw [← map_name_located, h, List.map_append, List.map_cons]
  have horder : f.names.Pairwise fun k k' => compare k k' = .lt :=
    (Dict.sorted_iff_pairwise_keys _).1 hf
  rw [hnames, List.pairwise_append, List.pairwise_cons] at horder
  refine ⟨hnames, fun hin => ?_, horder.2.1.1⟩
  have hlt := horder.2.2 _ hin e.name List.mem_cons_self
  rw [Std.ReflOrd.compare_self] at hlt
  cases hlt

/-- An entry whose name is that of an earlier one, while no two of the earlier ones have one name, has
the first repeated name. -/
theorem firstRepeat_of_flatMap_eq {files : List DefinitionFile} (hsorted : ∀ f ∈ files, f.entries.Sorted)
    {taken rest : List LocatedEntry} {e e₁ : LocatedEntry}
    (hfiles : files.flatMap located = taken ++ e :: rest)
    (hdistinct : (taken.map LocatedEntry.name).Nodup) (he₁ : e₁ ∈ taken) (hname : e₁.name = e.name) :
    ∃ first second, FirstRepeat files e.name first second ∧ first.path = e₁.path ∧
      second.path = e.path := by
  obtain ⟨before, second, after, us, vs, rfl, hsecond, rfl⟩ :=
    Run.exists_split_of_flatMap_eq hfiles
  have hmem : e ∈ second.located := hsecond ▸ List.mem_append_right _ List.mem_cons_self
  obtain ⟨hnames, hus, hvs⟩ := names_of_located_eq (hsorted second (by simp)) hsecond
  rw [List.map_append, List.map_flatMap, List.nodup_append'] at hdistinct
  simp only [map_name_located] at hdistinct
  obtain ⟨hbefore, -, hdisjoint⟩ := hdistinct
  -- within one file no name stands twice, so the earlier entry is in an earlier file
  have hearlier : e₁ ∈ before.flatMap located := by
    rcases List.mem_append.1 he₁ with he₁ | he₁
    · exact he₁
    · exact absurd (hname ▸ List.mem_map_of_mem he₁) hus
  obtain ⟨first, hfirst, he₁⟩ := List.mem_flatMap.1 hearlier
  refine ⟨first, second, ⟨⟨?_, ?_⟩, before, after, rfl, hfirst, ?_, fun f hf n hn hn' => ?_⟩,
    (path_of_mem_located he₁).symm, (path_of_mem_located hmem).symm⟩
  · rw [← hname, ← map_name_located]
    exact List.mem_map_of_mem he₁
  · rw [hnames]
    exact List.mem_append_right _ List.mem_cons_self
  · exact (nodup_names_iff fun f hf => hsorted f (List.mem_append_left _ hf)).1 hbefore
  · -- a shared name is none of those before the name of the entry
    rw [hnames, List.mem_append, List.mem_cons] at hn'
    rcases hn' with hn' | rfl | hn'
    · exact absurd hn' (hdisjoint (List.mem_flatMap.2 ⟨f, hf, hn⟩))
    · rw [Std.ReflOrd.compare_self]
      rfl
    · rw [hvs n hn']
      rfl

/-- Where a name is repeated, some two files share one. -/
theorem FirstRepeat.not_pairwise {files : List DefinitionFile} {name : String}
    {first second : DefinitionFile} (h : FirstRepeat files name first second) :
    ¬files.Pairwise Apart := by
  obtain ⟨⟨hfirst, hsecond⟩, before, after, rfl, hmem, -⟩ := h
  intro hapart
  exact (List.pairwise_append.1 hapart).2.2 first hmem second List.mem_cons_self hfirst hsecond

/-- What is read from a file stands in order. -/
theorem sorted_of_read {c : String × ByteArray} {f : DefinitionFile} (h : read c = .ok f) :
    f.entries.Sorted := by
  obtain ⟨entries, hcontent, hf⟩ := Run.bind_eq_ok.1 h
  obtain rfl := Run.pure_eq_ok.1 hf
  obtain ⟨n, hn⟩ := exists_of_loadContent_eq_ok hcontent
  exact (Node.Gives.dict (P := fun _ => True) (fun _ _ _ => trivial) n entries hn).1

/-- Of a file that is read come its located entries. -/
theorem entriesOfFile_of_read {c : String × ByteArray} {f : DefinitionFile} (h : read c = .ok f) :
    entriesOfFile c.1 c.2 = f.located.map .ok := by
  obtain ⟨entries, hcontent, hf⟩ := Run.bind_eq_ok.1 h
  obtain rfl := Run.pure_eq_ok.1 hf
  rw [entriesOfFile, hcontent, located, List.map_map]
  rfl

/-- The entries of files are those of one file after the other. -/
theorem flatMap_entriesOfFile {cs : List (String × ByteArray)} {files : List DefinitionFile}
    (h : List.Forall₂ (fun c f => read c = .ok f) cs files) :
    (cs.flatMap fun c => entriesOfFile c.1 c.2) = (files.flatMap located).map .ok := by
  induction h with
  | nil => rfl
  | cons hread _ ih =>
    rw [List.flatMap_cons, List.flatMap_cons, entriesOfFile_of_read hread, ih, List.map_append]

/-- Of a file that is refused comes the refusal. -/
theorem entriesOfFile_of_read_eq_error {c : String × ByteArray} {error : LoadError}
    (h : read c = .error error) : entriesOfFile c.1 c.2 = [.error error] := by
  obtain hcontent | ⟨entries, -, hf⟩ := Run.bind_eq_error.1 h
  · rw [entriesOfFile, hcontent]
  · cases hf

end DefinitionFile

open DefinitionFile (allEntries located)

/-- The definition files of a tree, in the order of the walk. -/
def FileTree.definitionFiles (dir : String) (t : FileTree) : List (String × ByteArray) :=
  (t.files dir).filter fun f => (FileFormat.ofPath? f.1).isSome

/-- The definition files below a directory as they are read, in the order of the walk. -/
def readDefinitionFiles (source : FileSource) (dir : String) : Except LoadError (List DefinitionFile) :=
  match source dir with
  | none => .error (.unreachable dir)
  | some t => (t.definitionFiles dir).mapM DefinitionFile.read

/-- What is read from each file stands in order. -/
theorem sorted_of_readDefinitionFiles {source : FileSource} {dir : String}
    {files : List DefinitionFile} (h : readDefinitionFiles source dir = .ok files) :
    ∀ f ∈ files, f.entries.Sorted := by
  unfold readDefinitionFiles at h
  cases ht : source dir with
  | none => rw [ht] at h; cases h
  | some t =>
    rw [ht] at h
    intro f hf
    obtain ⟨c, -, hread⟩ := (Run.mem_iff_of_mapM_eq_ok h f).1 hf
    exact DefinitionFile.sorted_of_read hread

/-! ## Loading a directory -/

variable {source : FileSource} {dir : String} {files : List DefinitionFile}

/-- Files that are read share no name exactly when no two entries have one name. -/
theorem apart_iff_nodup (h : readDefinitionFiles source dir = .ok files) :
    files.Pairwise DefinitionFile.Apart ↔ ((allEntries files).map Prod.fst).Nodup := by
  rw [DefinitionFile.map_fst_allEntries,
    DefinitionFile.nodup_names_iff (sorted_of_readDefinitionFiles h)]

/-- Files of other kinds are not looked at. -/
theorem loadDefinitions_congr {source' : FileSource}
    (h : (source' dir).map (FileTree.definitionFiles dir)
      = (source dir).map (FileTree.definitionFiles dir)) :
    loadDefinitions source' dir = loadDefinitions source dir := by
  rw [loadDefinitions, loadDefinitions]
  cases ht : source dir with
  | none =>
    rw [ht, Option.map_none, Option.map_eq_none_iff] at h
    rw [h]
  | some t =>
    rw [ht, Option.map_some] at h
    obtain ⟨t', ht', hfiles⟩ := Option.map_eq_some_iff.1 h
    unfold FileTree.definitionFiles at hfiles
    have hentries : entriesOfTree dir t' = entriesOfTree dir t := by
      rw [entriesOfTree, entriesOfTree, hfiles]
    simp only [ht', hentries]

/-- Once all files are read, their entries are taken in one by one. -/
theorem loadDefinitions_eq_run (h : readDefinitionFiles source dir = .ok files) :
    loadDefinitions source dir = (((files.flatMap located).map .ok).foldlM LocatedDefinitions.add ∅).map
      fun known => known.map Prod.snd := by
  unfold readDefinitionFiles at h
  rw [loadDefinitions]
  cases ht : source dir with
  | none => rw [ht] at h; cases h
  | some t =>
    rw [ht] at h
    have hentries : entriesOfTree dir t = (files.flatMap located).map .ok :=
      DefinitionFile.flatMap_entriesOfFile (Run.mapM_eq_ok.1 h)
    simp only [hentries]
    cases ((files.flatMap located).map .ok).foldlM LocatedDefinitions.add ∅ <;> rfl

/-- Where definitions are loaded, all files were read. -/
theorem exists_files_of_loadDefinitions {d : Dict String WrittenDefinition}
    (h : loadDefinitions source dir = .ok d) : ∃ files, readDefinitionFiles source dir = .ok files := by
  rw [loadDefinitions] at h
  rw [readDefinitionFiles]
  cases ht : source dir with
  | none => rw [ht] at h; cases h
  | some t =>
    rw [ht] at h
    obtain ⟨known, hrun, -⟩ := Run.bind_eq_ok.1 h
    obtain ⟨taken, hentries, -⟩ := LocatedDefinitions.exists_holds_of_run hrun
    cases hfiles : (t.definitionFiles dir).mapM DefinitionFile.read with
    | ok files => exact ⟨files, hfiles⟩
    | error error =>
      -- the error of a file would be among the entries that were taken in
      obtain ⟨c, hc, hread⟩ := Run.exists_of_mapM_eq_error hfiles
      have hmem : .error error ∈ entriesOfTree dir t := by
        refine List.mem_flatMap.2 ⟨c, hc, ?_⟩
        rw [DefinitionFile.entriesOfFile_of_read_eq_error hread]
        exact List.mem_singleton_self _
      rw [hentries, List.mem_map] at hmem
      obtain ⟨e, -, he⟩ := hmem
      cases he

/-- What is loaded are the definitions of all entries of the files. -/
theorem definedBy_of_loadDefinitions (h : readDefinitionFiles source dir = .ok files)
    {d : Dict String WrittenDefinition} (hd : loadDefinitions source dir = .ok d) :
    d.DefinedBy (allEntries files) := by
  rw [loadDefinitions_eq_run h] at hd
  cases hrun : ((files.flatMap located).map .ok).foldlM LocatedDefinitions.add ∅ with
  | error error => rw [hrun] at hd; cases hd
  | ok known =>
    rw [hrun] at hd
    obtain rfl := Except.ok.inj hd
    obtain ⟨taken, hentries, hholds⟩ := LocatedDefinitions.exists_holds_of_run hrun
    obtain rfl : files.flatMap located = taken :=
      List.map_injective_iff.2 (fun _ _ => Except.ok.inj) hentries
    rw [DefinitionFile.allEntries_eq_map]
    exact hholds.definedBy

/-- **Why nothing is loaded** though all files are read: a name is repeated, or the markers of an entry
are bad. -/
theorem loadDefinitions_error (h : readDefinitionFiles source dir = .ok files) {error : LoadError}
    (herror : loadDefinitions source dir = .error error) :
    (∃ name first second, DefinitionFile.FirstRepeat files name first second ∧
      error = .duplicateDefinition name first.path second.path) ∨
    ∃ f ∈ files, ∃ e ∈ f.entries.entries, ∃ cause, e.2.marked = .error cause ∧
      error = .invalidMarkers e.1 cause := by
  rw [loadDefinitions_eq_run h] at herror
  cases hrun : ((files.flatMap located).map .ok).foldlM LocatedDefinitions.add ∅ with
  | ok known => rw [hrun] at herror; cases herror
  | error error' =>
    rw [hrun] at herror
    obtain rfl : error' = error := Except.error.inj herror
    obtain ⟨taken, e, rest, known, hsplit, hholds, hfail⟩ :=
      LocatedDefinitions.exists_holds_of_run_error hrun
    obtain hread | ⟨e', he, hcause⟩ := (LocatedDefinitions.add_eq_error_iff _ _ _).1 hfail
    · cases hread
    obtain rfl := Except.ok.inj he
    obtain ⟨⟨path, d⟩, hfind, rfl⟩ | ⟨cause, -, hcause, rfl⟩ := hcause
    · obtain ⟨e₁, he₁, hname, rfl, -⟩ := (hholds.find?_iff _ _ _).1 hfind
      obtain ⟨first, second, hrepeat, hfirst, hsecond⟩ := DefinitionFile.firstRepeat_of_flatMap_eq
        (sorted_of_readDefinitionFiles h) hsplit hholds.distinct he₁ hname
      exact Or.inl ⟨e.name, first, second, hrepeat, by rw [hfirst, hsecond]⟩
    · have hmem : e ∈ files.flatMap located := hsplit ▸ List.mem_append_right _ List.mem_cons_self
      obtain ⟨f, hf, hmem⟩ := List.mem_flatMap.1 hmem
      obtain ⟨x, hx, rfl⟩ := List.mem_map.1 hmem
      exact Or.inr ⟨f, hf, x, hx, cause, hcause, rfl⟩

/-- With good markers it can only be that a name is repeated. -/
theorem firstRepeat_of_loadDefinitions_error (h : readDefinitionFiles source dir = .ok files)
    (hmarked : ∀ f ∈ files, f.MarkersGood) {error : LoadError}
    (herror : loadDefinitions source dir = .error error) :
    ∃ name first second, DefinitionFile.FirstRepeat files name first second ∧
      error = .duplicateDefinition name first.path second.path := by
  refine (loadDefinitions_error h herror).resolve_right ?_
  rintro ⟨f, hf, e, he, cause, hcause, -⟩
  obtain ⟨d, hd⟩ := hmarked f hf e he
  rw [hd] at hcause
  cases hcause

/-- Entries with good markers come from such files. -/
theorem DefinitionFile.markersGood_of_allEntries {files : List DefinitionFile}
    (h : ∀ e ∈ allEntries files, ∃ d, e.2.marked = .ok d) : ∀ f ∈ files, f.MarkersGood :=
  fun f hf e he => h e (List.mem_flatMap.2 ⟨f, hf, he⟩)

/-- Once all files are read, definitions are loaded exactly when all markers are good and no two files
define one model. -/
theorem exists_loadDefinitions_iff (h : readDefinitionFiles source dir = .ok files) :
    (∃ d, loadDefinitions source dir = .ok d) ↔
      (∀ f ∈ files, f.MarkersGood) ∧ files.Pairwise DefinitionFile.Apart := by
  constructor
  · rintro ⟨d, hd⟩
    have hdefined := definedBy_of_loadDefinitions h hd
    exact ⟨DefinitionFile.markersGood_of_allEntries hdefined.marked,
      (apart_iff_nodup h).2 hdefined.distinct⟩
  · rintro ⟨hmarked, hapart⟩
    cases hload : loadDefinitions source dir with
    | ok d => exact ⟨d, rfl⟩
    | error error =>
      obtain ⟨name, first, second, hrepeat, -⟩ := firstRepeat_of_loadDefinitions_error h hmarked hload
      exact absurd hapart hrepeat.not_pairwise

/-- **What is loaded** is told by the entries of the files alone. -/
theorem loadDefinitions_eq_ok_iff (h : readDefinitionFiles source dir = .ok files)
    (d : Dict String WrittenDefinition) :
    loadDefinitions source dir = .ok d ↔ d.DefinedBy (allEntries files) := by
  refine ⟨definedBy_of_loadDefinitions h, fun hd => ?_⟩
  obtain ⟨d', hd'⟩ := (exists_loadDefinitions_iff h).2
    ⟨DefinitionFile.markersGood_of_allEntries hd.marked, (apart_iff_nodup h).2 hd.distinct⟩
  rw [hd', (definedBy_of_loadDefinitions h hd').unique hd]

/-- **Loading a directory is a disjoint union.** Definitions are loaded exactly when all definition files
are read, all markers are good and no two files define one model. They are then those of all entries,
wherever these stand: files that hold the same entries give the same definitions, and files of other
kinds do not count. Where two files do define one model, the error names the first repeated name and the
two files. -/
theorem loadDefinitions_union (source : FileSource) (dir : String) :
    ((∃ d, loadDefinitions source dir = .ok d) ↔
      ∃ files, readDefinitionFiles source dir = .ok files ∧ (∀ f ∈ files, f.MarkersGood) ∧
        files.Pairwise DefinitionFile.Apart) ∧
    (∀ source' : FileSource, (source' dir).map (FileTree.definitionFiles dir)
        = (source dir).map (FileTree.definitionFiles dir) →
      loadDefinitions source' dir = loadDefinitions source dir) ∧
    ∀ files, readDefinitionFiles source dir = .ok files →
      (∀ d, loadDefinitions source dir = .ok d →
        (∀ name, name ∈ d.keys ↔ ∃ f ∈ files, name ∈ f.names) ∧
        ∀ f ∈ files, ∀ name entry, f.entries.find? name = some entry →
          ∃ x, entry.marked = .ok x ∧ d.find? name = some x) ∧
      (∀ source' dir' files', readDefinitionFiles source' dir' = .ok files' →
        (allEntries files).Perm (allEntries files') →
        ∀ d, loadDefinitions source dir = .ok d ↔ loadDefinitions source' dir' = .ok d) ∧
      ((∀ f ∈ files, f.MarkersGood) → ¬files.Pairwise DefinitionFile.Apart →
        ∃ name first second, DefinitionFile.FirstRepeat files name first second ∧
          loadDefinitions source dir = .error (.duplicateDefinition name first.path second.path)) := by
  refine ⟨⟨?_, ?_⟩, fun _ => loadDefinitions_congr,
    fun files hfiles => ⟨fun d hd => ⟨fun name => ?_, ?_⟩, ?_, ?_⟩⟩
  · rintro ⟨d, hd⟩
    obtain ⟨files, hfiles⟩ := exists_files_of_loadDefinitions hd
    exact ⟨files, hfiles, (exists_loadDefinitions_iff hfiles).1 ⟨d, hd⟩⟩
  · rintro ⟨files, hfiles, hgood⟩
    exact (exists_loadDefinitions_iff hfiles).2 hgood
  · rw [(definedBy_of_loadDefinitions hfiles hd).mem_keys_iff, DefinitionFile.map_fst_allEntries,
      List.mem_flatMap]
  · intro f hf name entry hentry
    have hdefined := definedBy_of_loadDefinitions hfiles hd
    have hmem : (name, entry) ∈ allEntries files :=
      List.mem_flatMap.2 ⟨f, hf, Dict.mem_entries_of_find? hentry⟩
    obtain ⟨x, hx⟩ := hdefined.marked _ hmem
    exact ⟨x, hx, (hdefined.find?_iff name x).2 ⟨_, hmem, rfl, hx⟩⟩
  · intro source' dir' files' hfiles' hperm d
    rw [loadDefinitions_eq_ok_iff hfiles, loadDefinitions_eq_ok_iff hfiles']
    exact ⟨fun h => h.perm hperm, fun h => h.perm hperm.symm⟩
  · intro hmarked hshared
    cases hload : loadDefinitions source dir with
    | ok d => exact absurd ((exists_loadDefinitions_iff hfiles).1 ⟨d, hload⟩).2 hshared
    | error error =>
      obtain ⟨name, first, second, hrepeat, rfl⟩ :=
        firstRepeat_of_loadDefinitions_error hfiles hmarked hload
      exact ⟨name, first, second, hrepeat, rfl⟩

/-- A directory with some text files. -/
def directoryOf (files : List (String × String)) : FileSource :=
  fun _ => some (.directory (Dict.ofList (files.map fun f => (f.1, .file f.2.toUTF8))))

/-- Nodes and pods, each in a file of its own, beside a file of another kind. -/
def spreadOut : FileSource :=
  directoryOf [("nodes.json", "\x7b\"Node\":\x7b\x7d\x7d"), ("notes.txt", "Pod"),
    ("pods.json", "\x7b\"Pod\":\x7b\x7d\x7d")]

/-- Nodes and pods in one file. -/
def allInOne : FileSource := directoryOf [("all.json", "\x7b\"Pod\":\x7b\x7d,\"Node\":\x7b\x7d\x7d")]

/-- Nodes and pods in one file, and again in another. -/
def declaredTwice : FileSource :=
  directoryOf [("all.json", "\x7b\"Pod\":\x7b\x7d,\"Node\":\x7b\x7d\x7d"),
    ("more.json", "\x7b\"Pod\":\x7b\x7d,\"Node\":\x7b\x7d\x7d")]

/-- Entries may stand in one file or in several, as long as no model is defined twice. -/
theorem loadDefinitions_union_pods :
    (∃ d, loadDefinitions spreadOut "defs" = .ok d ∧ loadDefinitions allInOne "models" = .ok d ∧
      ∀ name, name ∈ d.keys ↔ name = "Node" ∨ name = "Pod") ∧
    ∃ files name first second, readDefinitionFiles declaredTwice "defs" = .ok files ∧
      DefinitionFile.FirstRepeat files name first second ∧
      loadDefinitions declaredTwice "defs"
        = .error (.duplicateDefinition name first.path second.path) := by
  have hspread : (readDefinitionFiles spreadOut "defs").toOption.map allEntries
      = some [("Node", {}), ("Pod", {})] := by decide +kernel
  have hone : (readDefinitionFiles allInOne "models").toOption.map allEntries
      = some [("Node", {}), ("Pod", {})] := by decide +kernel
  have htwice : (readDefinitionFiles declaredTwice "defs").toOption.map allEntries
      = some [("Node", {}), ("Pod", {}), ("Node", {}), ("Pod", {})] := by decide +kernel
  obtain ⟨files, hfiles, hentries⟩ := Run.exists_of_map_eq_some hspread
  obtain ⟨files₁, hfiles₁, hentries₁⟩ := Run.exists_of_map_eq_some hone
  obtain ⟨files₂, hfiles₂, hentries₂⟩ := Run.exists_of_map_eq_some htwice
  -- none of the entries has any markers
  have hgood : ∃ d, DefinitionEntry.marked {} = .ok d := ⟨{}, rfl⟩
  obtain ⟨hloaded, -, hall⟩ := loadDefinitions_union spreadOut "defs"
  obtain ⟨hdefined, hmoved, -⟩ := hall files hfiles
  constructor
  · have hapart : files.Pairwise DefinitionFile.Apart := by
      rw [apart_iff_nodup hfiles, hentries]
      decide
    have hmarked : ∀ f ∈ files, f.MarkersGood :=
      DefinitionFile.markersGood_of_allEntries (by simp [hentries, hgood])
    obtain ⟨d, hd⟩ := hloaded.2 ⟨files, hfiles, hmarked, hapart⟩
    refine ⟨d, hd, ?_, fun name => ?_⟩
    · exact (hmoved _ _ _ hfiles₁ (by rw [hentries, hentries₁]) d).1 hd
    · rw [(hdefined d hd).1 name, ← List.mem_flatMap, ← DefinitionFile.map_fst_allEntries, hentries]
      simp
  · have hshared : ¬files₂.Pairwise DefinitionFile.Apart := by
      rw [apart_iff_nodup hfiles₂, hentries₂]
      decide
    have hmarked : ∀ f ∈ files₂, f.MarkersGood :=
      DefinitionFile.markersGood_of_allEntries (by simp [hentries₂, hgood])
    obtain ⟨-, -, hall₂⟩ := loadDefinitions_union declaredTwice "defs"
    obtain ⟨name, first, second, herror⟩ := (hall₂ files₂ hfiles₂).2.2 hmarked hshared
    exact ⟨files₂, name, first, second, hfiles₂, herror⟩

end Swagger
