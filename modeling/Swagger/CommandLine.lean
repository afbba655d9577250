import Swagger.Build
import Swagger.Loading
import Swagger.Output

/-! # The command line
There are two commands: one writes the document of a service manifest, the other prints the
definitions that some models need.

* `Command` — a command with its options.
* `Request.ofArguments?` — what the arguments ask for; none if they are used wrongly.
* `Command.plan` — what a command comes to: text to print and files to write, or a failure.
* `Command.notices` — what is worth telling besides.
* `Failure.report` — what is said about a failure. -/

namespace Swagger

/-- A command with its options. -/
inductive Command where
  /-- Write the document of a service manifest. -/
  | build (config : Option String) (services : String) (definitions : Option String)
      (output : String) (types : String)
  /-- Print the definitions that some models need. -/
  | definitions (config : Option String) (definitions : String) (models : List String)
deriving DecidableEq

/-- What arguments ask for. -/
inductive Request where
  /-- To run a command. -/
  | run (command : Command)
  /-- To be told how the program is used, or its version. -/
  | explain
deriving DecidableEq

/-- An option that takes a value. -/
inductive OptionKey where
  /-- The settings. -/
  | config
  /-- The service manifest. -/
  | services
  /-- The directory of definitions. -/
  | definitions
  /-- The directory for written files. -/
  | output
  /-- The formats to write. -/
  | types
deriving DecidableEq

namespace OptionKey

/-- The long name, after two hyphens. -/
def longName : OptionKey → String
  | .config => "config"
  | .services => "services"
  | .definitions => "definitions"
  | .output => "output"
  | .types => "ot"

/-- The letter that stands for the option after one hyphen. -/
def letter? : OptionKey → Option Char
  | .config => some 'c'
  | .services => some 's'
  | .definitions => some 'd'
  | .output => some 'o'
  | .types => none

/-- Whether the value is a path, which may not be empty. -/
def isPath : OptionKey → Bool
  | .types => false
  | _ => true

end OptionKey

/-- The names of the commands. -/
inductive CommandName where
  /-- Write a document. -/
  | build
  /-- Print definitions. -/
  | definitions
deriving DecidableEq

namespace CommandName

/-- The word for a command. -/
def word : CommandName → String
  | .build => "build"
  | .definitions => "definitions"

/-- The command that a word names. -/
def ofWord? (s : String) : Option CommandName := [.build, .definitions].find? fun c => c.word == s

/-- The options of a command. -/
def options : CommandName → List OptionKey
  | .build => [.config, .services, .definitions, .output, .types]
  | .definitions => [.config, .definitions]

/-- Whether a command takes arguments besides its options. -/
def takesNames : CommandName → Bool
  | .build => false
  | .definitions => true

/-- The option with a long name. -/
def optionNamed? (c : CommandName) (name : String) : Option OptionKey :=
  c.options.find? fun o => o.longName == name

/-- The option with a letter. -/
def optionLettered? (c : CommandName) (letter : Char) : Option OptionKey :=
  c.options.find? fun o => o.letter? == some letter

end CommandName

/-- What has been read of a command's arguments. -/
structure Arguments where
  /-- The options with their values. -/
  values : List (OptionKey × String) := []
  /-- The arguments besides the options, in order. -/
  names : List String := []
  /-- Whether more is to be told on the way. -/
  verbose : Bool := false

namespace Arguments

/-- The value of an option. -/
def value? (a : Arguments) (o : OptionKey) : Option String := a.values.lookup o

/-- Give an option a value, which it must not have yet. -/
def set? (a : Arguments) (o : OptionKey) (value : String) : Option Arguments :=
  if (a.value? o).isSome || (o.isPath && value.isEmpty) then none
  else some { a with values := (o, value) :: a.values }

/-- Ask to be told more, which may be done once. -/
def setVerbose? (a : Arguments) : Option Arguments :=
  if a.verbose then none else some { a with verbose := true }

/-- Whether an argument is an option and no value: a hyphen with something after it. -/
def isOption (s : String) : Bool := s.toList.head? == some '-' && s != "-"

/-- The command that the arguments make, if nothing is missing. -/
def command? (a : Arguments) : CommandName → Option Command
  | .build => do
    let services ← a.value? .services
    return .build (a.value? .config) services (a.value? .definitions)
      ((a.value? .output).getD "./docs") ((a.value? .types).getD "json,yaml")
  | .definitions => do
    let definitions ← a.value? .definitions
    if a.names.isEmpty then none
    else return .definitions (a.value? .config) definitions a.names

end Arguments

/-- What an argument comes to. -/
inductive Reading where
  /-- Reading goes on. -/
  | next (a : Arguments)
  /-- An option waits for its value. -/
  | awaiting (a : Arguments) (o : OptionKey)
  /-- Everything after it is an ordinary argument. -/
  | plainFromHere
  /-- An explanation is asked for. -/
  | explain

namespace CommandName

/-- The letters after one hyphen: flags, and perhaps an option, whose value is what follows it. -/
def readLetters? (c : CommandName) (a : Arguments) : List Char → Option Reading
  | [] => some (.next a)
  | 'h' :: _ => some .explain
  | 'v' :: rest => do
    let a ← a.setVerbose?
    readLetters? c a rest
  | l :: rest => do
    let o ← c.optionLettered? l
    match rest with
    | [] => return .awaiting a o
    | '=' :: value => (a.set? o (String.ofList value)).map .next
    | value => (a.set? o (String.ofList value)).map .next

/-- The name after two hyphens, and perhaps its value after an equals sign. -/
def readLong? (c : CommandName) (a : Arguments) (cs : List Char) : Option Reading :=
  let name := String.ofList (cs.takeWhile (· != '='))
  match name, cs.dropWhile (· != '=') with
  | "help", [] => some .explain
  | "verbose", [] => a.setVerbose?.map .next
  | name, [] => (c.optionNamed? name).map (.awaiting a)
  | name, _ :: value => do
    let o ← c.optionNamed? name
    (a.set? o (String.ofList value)).map .next

/-- An ordinary argument. -/
def readName? (c : CommandName) (a : Arguments) (s : String) : Option Arguments :=
  if c.takesNames then some { a with names := a.names ++ [s] } else none

/-- An argument. -/
def read? (c : CommandName) (a : Arguments) (s : String) : Option Reading :=
  match s.toList with
  | ['-', '-'] => some .plainFromHere
  | '-' :: '-' :: cs => c.readLong? a cs
  | '-' :: l :: cs => c.readLetters? a (l :: cs)
  | _ => (c.readName? a s).map .next

/-- All arguments of a command. The value of an option does not look like an option. -/
def readAll? (c : CommandName) (a : Arguments) : List String → Option Request
  | [] => (a.command? c).map .run
  | s :: rest => do
    match ← c.read? a s with
    | .next a => c.readAll? a rest
    | .explain => return .explain
    | .plainFromHere =>
      let a ← rest.foldlM c.readName? a
      (a.command? c).map .run
    | .awaiting a o =>
      match rest with
      | [] => none
      | value :: rest =>
        if Arguments.isOption value then none
        else do
          let a ← a.set? o value
          c.readAll? a rest

end CommandName

namespace Request

/-- The flags in front of a command: nothing, or what they ask for. -/
def readFlags? (verbose : Bool) : List Char → Option (Option Request × Bool)
  | [] => some (none, verbose)
  | 'h' :: _ => some (some .explain, verbose)
  | 'V' :: _ => some (some .explain, verbose)
  | 'v' :: rest => if verbose then none else readFlags? true rest
  | _ => none

/-- What is asked about the commands that are named. -/
def explain? (names : List String) : Option Request :=
  match names with
  | [] => some .explain
  | [name] => if name == "help" || (CommandName.ofWord? name).isSome then some .explain else none
  | _ => none

/-- What the arguments ask for, whether or not the flag to be told more was found before. -/
def read? (verbose : Bool) : List String → Option Request
  | [] => none
  | s :: rest =>
    match s.toList with
    | '-' :: '-' :: cs =>
      match String.ofList cs with
      | "help" => some .explain
      | "version" => some .explain
      | "verbose" => if verbose then none else read? true rest
      | _ => none
    | '-' :: l :: cs => do
      match ← readFlags? verbose (l :: cs) with
      | (some r, _) => return r
      | (none, verbose) => read? verbose rest
    | _ =>
      if s == "help" then explain? rest
      else do
        let c ← CommandName.ofWord? s
        c.readAll? {} rest

/-- What the arguments ask for; none if they are used wrongly. -/
def ofArguments? (args : List String) : Option Request := read? false args

end Request

/-- Why a command fails. -/
inductive Failure where
  /-- A file cannot be loaded, in a context. -/
  | loading (context : String) (cause : LoadError)
  /-- The document cannot be built, in a context. -/
  | building (context : String) (cause : BuildError)
  /-- A file cannot be written. -/
  | writing (step : OutputStep)
deriving DecidableEq

namespace Failure

/-- What the program was about to do. -/
def context : Failure → String
  | loading context _ => context
  | building context _ => context
  | writing step => step.failure

/-- A text with every line indented. -/
def indent (s : String) : String :=
  String.ofList ("    ".toList ++ s.toList.flatMap fun c => if c = '\n' then "\n    ".toList else [c])

/-- The first line of what is said. -/
def headline (f : Failure) : String := "Error: " ++ f.context

/-- What is said: the context, and the cause where the program itself found it. -/
def report : Failure → String
  | building context cause =>
    "Error: " ++ context ++ "\n\nCaused by:\n" ++ indent cause.message ++ "\n"
  | f => f.headline

end Failure

/-- What a command comes to. -/
structure Plan where
  /-- The text to print. -/
  printed : String := ""
  /-- The files to write. -/
  steps : List OutputStep := []
deriving DecidableEq

namespace Command

/-- The settings at a path, or those of no file at all. -/
def loadSettings (source : FileSource) : Option String → Except Failure Settings
  | none => .ok {}
  | some path =>
    (loadFile Settings.ofNode? source path).mapError
      (.loading ("Failed to load config " ++ Text.quoted path))

/-- The definitions below a directory. -/
def loadDefinitionsAt (source : FileSource) (dir : String) :
    Except Failure (Dict String WrittenDefinition) :=
  (loadDefinitions source dir).mapError
    (.loading ("Failed to load definitions from " ++ Text.quoted dir))

/-- The configuration that settings and definitions make. -/
def loadConfig (source : FileSource) (config dir : Option String) : Except Failure Config := do
  let settings ← loadSettings source config
  let known ← match dir with
    | none => .ok ∅
    | some dir => loadDefinitionsAt source dir
  return settings.toConfig known

/-- The services of the manifest at a path. -/
def loadServices (source : FileSource) (path : String) : Except Failure (List WebService) :=
  ((loadFile Manifest.ofNode? source path).mapError
    (.loading ("Failed to load services " ++ Text.quoted path))).map Manifest.services

/-- What a command comes to, given what is found at each path. -/
def plan (source : FileSource) : Command → Except Failure Plan
  | .build config services dir output types => do
    let c ← loadConfig source config dir
    let found ← loadServices source services
    let document ← (WebService.buildDocument c found).mapError
      (.building "Failed to build Swagger document")
    return { steps := document.outputSteps output (OutputFormat.ofList types) }
  | .definitions config dir models => do
    let c ← loadConfig source config (some dir)
    let document ← (c.definitionsDocument models).mapError (.building "Failed to build definitions")
    return { printed := (Json.ofDict (document.definitions.map Schema.toJson)).pretty ++ "\n" }

/-- What is worth telling about the files that a configuration is made from. -/
def configNotices (source : FileSource) (config dir : Option String) : List String :=
  match loadSettings source config with
  | .ok _ => dir.toList.flatMap (definitionNotices source)
  | .error _ => []

/-- What is worth telling about a command, given what is found at each path. -/
def notices (source : FileSource) : Command → List String
  | .build config services dir _ _ =>
    configNotices source config dir ++
      match loadConfig source config dir, loadServices source services with
      | .ok c, .ok found => RouteSet.notices c (found.map WebService.toRouteSet)
      | _, _ => []
  | .definitions config dir _ => configNotices source config (some dir)

/-- The paths that a command reads. -/
def paths : Command → List String
  | .build config services dir _ _ => config.toList ++ dir.toList ++ [services]
  | .definitions config dir _ => config.toList ++ [dir]

end Command

/-- How a run of the program ends. -/
structure Outcome where
  /-- The exit code: 0 for success, 1 for a failure, 2 for wrong usage. -/
  code : UInt32
  /-- What is printed. -/
  printed : String := ""
  /-- What is said about a failure. -/
  said : String := ""
deriving DecidableEq

/-- Run the program on a tree of files. -/
def FileTree.run (t : FileTree) (args : List String) : FileTree × Outcome :=
  match Request.ofArguments? args with
  | none => (t, { code := 2 })
  | some .explain => (t, { code := 0 })
  | some (.run command) =>
    match command.plan t.find? with
    | .error f => (t, { code := 1, said := f.report })
    | .ok plan =>
      match t.perform plan.steps with
      | (t, some step) => (t, { code := 1, said := (Failure.writing step).report })
      | (t, none) => (t, { code := 0, printed := plan.printed })

end Swagger
