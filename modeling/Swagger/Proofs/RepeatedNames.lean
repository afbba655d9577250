import Swagger.Proofs.DefinitionFiles

/-! # Names written twice in one file
A definition file is an object, and in the text of an object a name may be written twice. What is read
then is the last entry under the name; that the name was written before is forgotten before anything can
be refused. Only names that stand in different files are told to be repeated.

* `Node.members?`, `Node.dict?_eq_map_members?` — an object with all its members, repeated ones too.
* `WrittenFile`, `WrittenFile.Last` — a definition file as it is written, and what it says last of a model.
* `loadDefinitions_lastWritten` — what is loaded is what each file says last. -/

namespace Swagger

/-! ## Repeated keys -/

/-- The members of an object in the order they are written in, repeated ones too. -/
def Node.members? {α : Type} (value : Node → Option α) (n : Node) : Option (List (String × α)) := do
  let entries ← n.entries?
  entries.mapM fun e => do
    let k ← e.1.string?
    let v ← value e.2
    return (k, v)

/-- A dictionary is read from the members of an object. -/
theorem Node.dict?_eq_map_members? {α : Type} (value : Node → Option α) (n : Node) :
    n.dict? value = (n.members? value).map Dict.ofList := by
  rw [dict?, dictBy?, members?]
  cases n.entries? with
  | none => rfl
  | some entries => exact (Option.map_eq_bind ..).symm

/-- What is read from the content of a file may be changed afterwards. -/
theorem loadContent_map {α β : Type} (read : Node → Option α) (f : α → β) (path : String)
    (content : Option ByteArray) :
    loadContent (fun n => (read n).map f) path content = (loadContent read path content).map f := by
  rw [loadContent, loadContent]
  cases content.bind String.fromUTF8? with
  | none => rfl
  | some text =>
    cases FileFormat.ofPath? path with
    | none => rfl
    | some format =>
      cases hnode : format.node? text with
      | none => simp [hnode, Except.map]
      | some n => cases hread : read n <;> simp [hnode, hread, Except.map]

/-! ## Definition files as they are written -/

/-- A definition file with all its members. -/
structure WrittenFile where
  /-- The path of the file. -/
  path : String
  /-- The entries with their canonical names, in the order they are written in. -/
  members : List (String × DefinitionEntry)
deriving DecidableEq

namespace WrittenFile

/-- The canonical names that are written in a file. -/
def names (f : WrittenFile) : List String := f.members.map Prod.fst

/-- The last entry under a name. -/
def Last (f : WrittenFile) (name : String) (entry : DefinitionEntry) : Prop :=
  ∃ before after, f.members = before ++ (name, entry) :: after ∧ name ∉ after.map Prod.fst

/-- The last entry under a name is one of the members. -/
theorem Last.mem {f : WrittenFile} {name : String} {entry : DefinitionEntry} (h : f.Last name entry) :
    (name, entry) ∈ f.members := by
  obtain ⟨before, after, hmembers, -⟩ := h
  rw [hmembers]
  exact List.mem_append_right _ List.mem_cons_self

/-- The file as it is read. -/
def file (f : WrittenFile) : DefinitionFile := ⟨f.path, Dict.ofList f.members⟩

/-- Read a definition file with all its members. -/
def read (c : String × ByteArray) : Except LoadError WrittenFile :=
  (loadContent (Node.members? DefinitionEntry.ofNode?) c.1 (some c.2)).map fun members => ⟨c.1, members⟩

/-- In a file as it is read stands what it says last. -/
theorem find?_file_iff (f : WrittenFile) (name : String) (entry : DefinitionEntry) :
    f.file.entries.find? name = some entry ↔ f.Last name entry :=
  Dict.find?_ofList_iff f.members name entry

/-- A file as it is read has its entries in the order of their names. -/
theorem sorted_file (f : WrittenFile) : f.file.entries.Sorted := Dict.sorted_ofList _

/-- Its entries are those that the file says last. -/
theorem mem_entries_file_iff (f : WrittenFile) (name : String) (entry : DefinitionEntry) :
    (name, entry) ∈ f.file.entries.entries ↔ f.Last name entry := by
  rw [Dict.mem_entries_iff f.sorted_file, find?_file_iff]

/-- No name is lost. -/
theorem mem_names_file_iff (f : WrittenFile) (name : String) : name ∈ f.file.names ↔ name ∈ f.names := by
  rw [DefinitionFile.names, file, Dict.ofList, Dict.mem_keys_insertAll]
  simp [names, Dict.keys]

/-- The entries of several files are those that some file says last. -/
theorem mem_allEntries_file_iff (files : List WrittenFile) (name : String) (entry : DefinitionEntry) :
    (name, entry) ∈ DefinitionFile.allEntries (files.map file) ↔ ∃ f ∈ files, f.Last name entry := by
  simp only [DefinitionFile.allEntries, List.flatMap_map, List.mem_flatMap, mem_entries_file_iff]

/-- Two files have no name in common if none is written in both. -/
theorem apart_file_iff (f g : WrittenFile) :
    DefinitionFile.Apart f.file g.file ↔ f.names.Disjoint g.names := by
  simp only [DefinitionFile.Apart, List.Disjoint, mem_names_file_iff]

/-- A file is read from all its members. -/
theorem read_file (c : String × ByteArray) : DefinitionFile.read c = (read c).map file := by
  have hread : Node.dict? DefinitionEntry.ofNode?
      = fun n => (Node.members? DefinitionEntry.ofNode? n).map Dict.ofList :=
    funext fun n => Node.dict?_eq_map_members? _ n
  rw [DefinitionFile.read, hread, loadContent_map, read]
  cases loadContent (Node.members? DefinitionEntry.ofNode?) c.1 (some c.2) <;> rfl

/-- Files that say the same last are read alike, whatever they say before. -/
theorem file_congr {f g : WrittenFile} (hpath : f.path = g.path)
    (hlast : ∀ name entry, f.Last name entry ↔ g.Last name entry) : f.file = g.file := by
  have hentries : f.file.entries = g.file.entries :=
    f.sorted_file.ext g.sorted_file fun name => Option.ext fun entry => by
      rw [find?_file_iff, find?_file_iff, hlast]
  rw [file, file, hpath]
  exact congrArg (DefinitionFile.mk g.path) hentries

end WrittenFile

/-- The definition files below a directory with all their members, in the order of the walk. -/
def readWrittenFiles (source : FileSource) (dir : String) : Except LoadError (List WrittenFile) :=
  match source dir with
  | none => .error (.unreachable dir)
  | some t => (t.definitionFiles dir).mapM WrittenFile.read

/-- A repeated name does not keep any file from being read. -/
theorem readDefinitionFiles_eq_map (source : FileSource) (dir : String) :
    readDefinitionFiles source dir = (readWrittenFiles source dir).map (List.map WrittenFile.file) := by
  rw [readDefinitionFiles, readWrittenFiles]
  cases source dir with
  | none => rfl
  | some t =>
    rw [← Run.mapM_map]
    exact congrArg (fun r => (t.definitionFiles dir).mapM r) (funext WrittenFile.read_file)

/-- Files whose members are read are read. -/
theorem readDefinitionFiles_of_written {source : FileSource} {dir : String} {files : List WrittenFile}
    (h : readWrittenFiles source dir = .ok files) :
    readDefinitionFiles source dir = .ok (files.map WrittenFile.file) := by
  rw [readDefinitionFiles_eq_map, h]
  rfl

variable {source : FileSource} {dir : String} {files : List WrittenFile}

/-- What is loaded of a model is the last entry of a file that writes it. -/
theorem find?_loadDefinitions_iff (h : readWrittenFiles source dir = .ok files)
    {d : Dict String WrittenDefinition} (hd : loadDefinitions source dir = .ok d) (name : String)
    (x : WrittenDefinition) :
    d.find? name = some x ↔ ∃ f ∈ files, ∃ entry, f.Last name entry ∧ entry.marked = .ok x := by
  rw [(definedBy_of_loadDefinitions (readDefinitionFiles_of_written h) hd).find?_iff]
  constructor
  · rintro ⟨⟨name, entry⟩, hentry, rfl, hx⟩
    obtain ⟨f, hf, hlast⟩ := (WrittenFile.mem_allEntries_file_iff _ _ _).1 hentry
    exact ⟨f, hf, entry, hlast, hx⟩
  · rintro ⟨f, hf, entry, hlast, hx⟩
    exact ⟨(name, entry), (WrittenFile.mem_allEntries_file_iff _ _ _).2 ⟨f, hf, hlast⟩, rfl, hx⟩

/-- A name that is told to be repeated is written in two different files. -/
theorem exists_files_of_duplicateDefinition (h : readWrittenFiles source dir = .ok files)
    {name first second : String}
    (herror : loadDefinitions source dir = .error (.duplicateDefinition name first second)) :
    ∃ before f between g after, files = before ++ f :: between ++ g :: after ∧
      name ∈ f.names ∧ name ∈ g.names ∧ first = f.path ∧ second = g.path := by
  obtain ⟨name', first', second', hrepeat, heq⟩ | ⟨f, -, e, -, cause, -, heq⟩ :=
    loadDefinitions_error (readDefinitionFiles_of_written h) herror
  · cases heq
    obtain ⟨before', after', hsplit, hfirst, -⟩ := hrepeat.exists_split
    obtain ⟨earlier, rest, rfl, rfl, hrest⟩ := List.map_eq_append_iff.1 hsplit
    obtain ⟨g, after, rfl, rfl, rfl⟩ := List.map_eq_cons_iff.1 hrest
    obtain ⟨f, hf, rfl⟩ := List.mem_map.1 hfirst
    obtain ⟨before, between, rfl⟩ := List.append_of_mem hf
    exact ⟨before, f, between, g, after, rfl, (f.mem_names_file_iff name).1 hrepeat.mem_names.1,
      (g.mem_names_file_iff name).1 hrepeat.mem_names.2, rfl, rfl⟩
  · cases heq

/-- **What is loaded is what each file says last.** Definitions are loaded exactly when the markers of the
last entries are good and no two files write one name; it does not matter how often a file writes it. A
name that is told to be repeated is written in two different files. What a file says of a model before
it does so for the last time does not count at all. -/
theorem loadDefinitions_lastWritten (source : FileSource) (dir : String) (files : List WrittenFile)
    (h : readWrittenFiles source dir = .ok files) :
    ((∃ d, loadDefinitions source dir = .ok d) ↔
      (∀ f ∈ files, ∀ name entry, f.Last name entry → ∃ x, entry.marked = .ok x) ∧
        files.Pairwise fun f g => f.names.Disjoint g.names) ∧
    (∀ d, loadDefinitions source dir = .ok d → ∀ name x, d.find? name = some x ↔
      ∃ f ∈ files, ∃ entry, f.Last name entry ∧ entry.marked = .ok x) ∧
    (∀ name first second, loadDefinitions source dir = .error (.duplicateDefinition name first second) →
      ∃ before f between g after, files = before ++ f :: between ++ g :: after ∧
        name ∈ f.names ∧ name ∈ g.names ∧ first = f.path ∧ second = g.path) ∧
    ∀ source' dir' files', readWrittenFiles source' dir' = .ok files' →
      List.Forall₂ (fun f f' : WrittenFile => f.path = f'.path ∧
        ∀ name entry, f.Last name entry ↔ f'.Last name entry) files files' →
      loadDefinitions source' dir' = loadDefinitions source dir := by
  have hfiles := readDefinitionFiles_of_written h
  refine ⟨?_, fun d hd => find?_loadDefinitions_iff h hd,
    fun name first second => exists_files_of_duplicateDefinition h, ?_⟩
  · have hmarked : (∀ f ∈ files.map WrittenFile.file, f.MarkersGood) ↔
        ∀ f ∈ files, ∀ name entry, f.Last name entry → ∃ x, entry.marked = .ok x := by
      simp only [List.forall_mem_map, DefinitionFile.MarkersGood, Prod.forall,
        WrittenFile.mem_entries_file_iff]
    have hapart : (files.map WrittenFile.file).Pairwise DefinitionFile.Apart ↔
        files.Pairwise fun f g => f.names.Disjoint g.names := by
      simp only [List.pairwise_map, WrittenFile.apart_file_iff]
    rw [exists_loadDefinitions_iff hfiles, hmarked, hapart]
  · intro source' dir' files' hfiles' hsame
    have hread : files.map WrittenFile.file = files'.map WrittenFile.file := by
      rw [← List.forall₂_eq_eq_eq, List.forall₂_map_left_iff, List.forall₂_map_right_iff]
      exact hsame.imp fun _ _ h => WrittenFile.file_congr h.1 h.2
    rw [loadDefinitions_eq_run hfiles, loadDefinitions_eq_run (readDefinitionFiles_of_written hfiles'),
      hread]

/-- A file that writes pods twice, under different titles. -/
def writtenTwice : FileSource :=
  directoryOf [("pods.json",
    "\x7b\"Pod\":\x7b\"schema\":\x7b\"title\":\"A\"\x7d\x7d,\"Pod\":\x7b\"schema\":\x7b\"title\":\"B\"\x7d\x7d\x7d")]

/-- The file with pods under the last title only. -/
def writtenOnce : FileSource :=
  directoryOf [("pods.json", "\x7b\"Pod\":\x7b\"schema\":\x7b\"title\":\"B\"\x7d\x7d\x7d")]

/-- A definition with a title. -/
def titled (title : String) : WrittenDefinition := { schema := { own := { title := title } } }

/-- What is written in that file. -/
def twicePods : WrittenFile :=
  ⟨"defs/pods.json", [("Pod", ⟨titled "A", [], ∅⟩), ("Pod", ⟨titled "B", [], ∅⟩)]⟩

/-- The file with two entries under one name is read with both of them. -/
theorem readWrittenFiles_writtenTwice : readWrittenFiles writtenTwice "defs" = .ok [twicePods] := by
  decide +kernel

/-- Of pods that are written twice in one file the last are loaded, as if they were written once. -/
theorem loadDefinitions_lastWritten_pods :
    ∃ d, loadDefinitions writtenTwice "defs" = .ok d ∧ loadDefinitions writtenOnce "defs" = .ok d ∧
      d.find? "Pod" = some (titled "B") := by
  have honce : readWrittenFiles writtenOnce "defs"
      = .ok [⟨"defs/pods.json", [("Pod", ⟨titled "B", [], ∅⟩)]⟩] := by decide +kernel
  obtain ⟨hloads, hfind, -, hsame⟩ := loadDefinitions_lastWritten writtenTwice "defs" [twicePods]
    readWrittenFiles_writtenTwice
  have hgood : ∀ f ∈ [twicePods], ∀ name entry, f.Last name entry → ∃ x, entry.marked = .ok x := by
    intro f hf name entry hentry
    obtain rfl := List.mem_singleton.1 hf
    have hmem := hentry.mem
    simp only [twicePods, List.mem_cons, List.not_mem_nil, or_false, Prod.mk.injEq] at hmem
    -- neither entry has any markers
    obtain ⟨-, rfl⟩ | ⟨-, rfl⟩ := hmem
    · exact ⟨titled "A", rfl⟩
    · exact ⟨titled "B", rfl⟩
  obtain ⟨d, hd⟩ := hloads.2 ⟨hgood, List.pairwise_singleton _ _⟩
  refine ⟨d, hd, ?_, ?_⟩
  · rw [← hd]
    refine hsame writtenOnce "defs" _ honce (.cons ⟨rfl, fun name entry => ?_⟩ .nil)
    rw [← WrittenFile.find?_file_iff, ← WrittenFile.find?_file_iff]
    exact Iff.rfl
  · have hlast : twicePods.Last "Pod" ⟨titled "B", [], ∅⟩ := ⟨[_], [], rfl, List.not_mem_nil⟩
    exact (hfind d hd _ _).2 ⟨twicePods, List.mem_singleton_self _, _, hlast, rfl⟩

/-- **A name that a file writes twice need not be refused**, though the entries differ. -/
theorem loadDefinitions_lastWritten_unrefused :
    ¬∀ source dir files, readWrittenFiles source dir = .ok files →
      ∀ f ∈ files, FileFormat.ofPath? f.path = some .json →
      ∀ before name entry between entry' after,
        f.members = before ++ (name, entry) :: between ++ (name, entry') :: after → entry ≠ entry' →
        ∃ error, loadDefinitions source dir = .error error := by
  intro hrefused
  obtain ⟨error, herror⟩ := hrefused writtenTwice "defs" _ readWrittenFiles_writtenTwice twicePods
    (List.mem_singleton_self _) (by decide) [] "Pod" _ [] _ [] rfl (by decide +kernel)
  have hload : (loadDefinitions writtenTwice "defs").toOption.isSome = true := by decide +kernel
  obtain ⟨d, hd⟩ := Run.exists_of_isSome hload
  rw [hd] at herror
  cases herror

end Swagger
