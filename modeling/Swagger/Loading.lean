import Swagger.FileTree
import Swagger.Json.Reader
import Swagger.Manifest
import Swagger.Settings
import Swagger.Yaml.Reader

/-! # Loading files
Settings, manifests and definitions are JSON or YAML files, told apart by their extension.
Definitions are spread over all such files below a directory; each model is defined once.

* `LoadError` — why a file cannot be loaded; `LoadError.message` is the wording.
* `FileFormat.ofPath?` — how the file at a path is written.
* `loadFile` — a value of any type from a file.
* `loadDefinitions` — the definitions below a directory, by canonical name.
* `definitionNotices` — what is worth telling about their markers. -/

namespace Swagger

/-- How a file is written. -/
inductive FileFormat where
  /-- As JSON. -/
  | json
  /-- As YAML. -/
  | yaml
deriving DecidableEq

/-- How the file at a path is written. -/
def FileFormat.ofPath? (path : String) : Option FileFormat :=
  match FilePath.extension? path with
  | some "json" => some .json
  | some "yaml" => some .yaml
  | some "yml" => some .yaml
  | _ => none

/-- The node of a text in a format. -/
def FileFormat.node? : FileFormat → String → Option Node
  | .json, s => Node.ofJsonText? s
  | .yaml, s => Node.ofYamlText? s

/-- Why something cannot be loaded. -/
inductive LoadError where
  /-- There is no text file. -/
  | unreadable (path : String)
  /-- The text is not what the format and the type to be read demand. -/
  | malformed (format : FileFormat) (path : String)
  /-- The extension says neither JSON nor YAML. -/
  | unsupportedFormat (path : String)
  /-- Two files define one model. -/
  | duplicateDefinition (name first second : String)
  /-- The markers of a definition are refused. -/
  | invalidMarkers (name : String) (cause : MarkerError)
  /-- There is no directory. -/
  | unreachable (path : String)
deriving DecidableEq

/-- The wording. -/
def LoadError.message : LoadError → String
  | .unreadable path => "failed to read " ++ Text.quoted path
  | .malformed .json path => "invalid JSON in " ++ Text.quoted path
  | .malformed .yaml path => "invalid YAML in " ++ Text.quoted path
  | .unsupportedFormat path => "unsupported file format: " ++ Text.quoted path
  | .duplicateDefinition name first second =>
    "definition " ++ name ++ " is declared in both " ++ Text.quoted first ++ " and " ++
      Text.quoted second
  | .invalidMarkers name cause => "invalid markers on " ++ name ++ ": " ++ cause.message
  | .unreachable path => "failed to walk definitions directory: " ++ Text.quoted path

/-- What is found at a path. -/
abbrev FileSource := String → Option FileTree

/-- Read a value from the content of the file at a path. -/
def loadContent {α : Type} (read : Node → Option α) (path : String) (content : Option ByteArray) :
    Except LoadError α :=
  match content.bind String.fromUTF8? with
  | none => .error (.unreadable path)
  | some text =>
    match FileFormat.ofPath? path with
    | none => .error (.unsupportedFormat path)
    | some format =>
      match (format.node? text).bind read with
      | some a => .ok a
      | none => .error (.malformed format path)

/-- Read a value from the file at a path. -/
def loadFile {α : Type} (read : Node → Option α) (source : FileSource) (path : String) :
    Except LoadError α :=
  loadContent read path ((source path).bind FileTree.content?)

/-- An entry of a definition file, with the path of the file. -/
structure LocatedEntry where
  /-- The path of the file. -/
  path : String
  /-- The canonical name of the model. -/
  name : String
  /-- The definition with its markers. -/
  entry : DefinitionEntry
deriving DecidableEq

/-- The entries of a definition file, by name. -/
def entriesOfFile (path : String) (content : ByteArray) : List (Except LoadError LocatedEntry) :=
  match loadContent (Node.dict? DefinitionEntry.ofNode?) path (some content) with
  | .ok d => d.entries.map fun e => .ok ⟨path, e.1, e.2⟩
  | .error e => [.error e]

/-- The entries of all definition files of a tree, file by file; files of other kinds do not count. -/
def entriesOfTree (dir : String) (t : FileTree) : List (Except LoadError LocatedEntry) :=
  ((t.files dir).filter fun f => (FileFormat.ofPath? f.1).isSome).flatMap fun f =>
    entriesOfFile f.1 f.2

/-- The definitions by canonical name, each with the path of its file. -/
abbrev LocatedDefinitions := Dict String (String × WrittenDefinition)

/-- Take one more entry in. -/
def LocatedDefinitions.add (known : LocatedDefinitions) (e : Except LoadError LocatedEntry) :
    Except LoadError LocatedDefinitions := do
  let e ← e
  match known.find? e.name with
  | some first => .error (.duplicateDefinition e.name first.1 e.path)
  | none =>
    match e.entry.marked with
    | .ok d => return known.insert e.name (e.path, d)
    | .error cause => .error (.invalidMarkers e.name cause)

/-- What is worth telling about an entry. -/
def LocatedDefinitions.notices (known : LocatedDefinitions) :
    Except LoadError LocatedEntry → List String
  | .ok e => if known.contains e.name then [] else e.entry.notices e.name
  | .error _ => []

/-- The definitions in the files below a directory, or in a single file. -/
def loadDefinitions (source : FileSource) (dir : String) :
    Except LoadError (Dict String WrittenDefinition) :=
  match source dir with
  | none => .error (.unreachable dir)
  | some t => do
    let known ← (entriesOfTree dir t).foldlM LocatedDefinitions.add ∅
    return known.map Prod.snd

/-- What is worth telling about the definitions in the files below a directory. -/
def definitionNotices (source : FileSource) (dir : String) : List String :=
  match source dir with
  | none => []
  | some t => noticesOfRun LocatedDefinitions.add LocatedDefinitions.notices ∅ (entriesOfTree dir t)

end Swagger
