import Swagger.Document.Writing
import Swagger.FileTree
import Swagger.Json.Printer
import Swagger.Text.Blank
import Swagger.Text.Quoted
import Swagger.Yaml.Printer

/-! # Writing documents to files
What has to be done to write a document is a list of steps, which can be done to a `FileTree` as well as
to the files of a machine.

* `OutputFormat` — the formats that a document can be written in.
* `Document.outputSteps` — the steps that write a document to a directory.
* `FileTree.perform` — do steps until one fails. -/

namespace Swagger

/-- A format that a document can be written in. -/
inductive OutputFormat where
  /-- Indented JSON. -/
  | json
  /-- YAML in block style. -/
  | yaml
deriving DecidableEq

namespace OutputFormat

/-- The name of a format, which is also its extension. -/
def name : OutputFormat → String
  | .json => "json"
  | .yaml => "yaml"

/-- The format with a name. -/
def ofName? (s : String) : Option OutputFormat := [.json, .yaml].find? fun f => f.name == s

/-- The formats in a list with commas; blanks and other names do not count. -/
def ofList (s : String) : List OutputFormat :=
  ((s.split (· == ',')).toList.map fun w => Text.trim w.toString).filterMap ofName?

end OutputFormat

/-- The text of a document in a format. -/
def Document.text (d : Document) : OutputFormat → String
  | .json => d.toJson.pretty
  | .yaml => d.toJson.yaml

/-- A change to files. -/
inductive OutputStep where
  /-- Make a directory and those around it, unless it is there. -/
  | makeDirectory (path : String)
  /-- Write a file. -/
  | writeFile (path text : String)
deriving DecidableEq

namespace OutputStep

/-- The file that is written. -/
def path? : OutputStep → Option String
  | makeDirectory _ => none
  | writeFile path _ => some path

/-- What is said when the step fails. -/
def failure : OutputStep → String
  | makeDirectory path => "Failed to create output directory: " ++ Text.quoted path
  | writeFile path _ => "Failed to create file: " ++ Text.quoted path

end OutputStep

/-- The steps that write a document to a directory, once for each format. -/
def Document.outputSteps (d : Document) (dir : String) (formats : List OutputFormat) :
    List OutputStep :=
  .makeDirectory dir ::
    formats.map fun f => .writeFile (FilePath.join dir ("swagger." ++ f.name)) (d.text f)

namespace FileTree

/-- Do a step, if it is possible. -/
def step? (t : FileTree) : OutputStep → Option FileTree
  | .makeDirectory path => t.makeDirectory? path
  | .writeFile path text => t.writeFile? path text.toUTF8

/-- Do steps one after the other until one fails, which is then given too. -/
def perform (t : FileTree) : List OutputStep → FileTree × Option OutputStep
  | [] => (t, none)
  | s :: rest =>
    match t.step? s with
    | some t => t.perform rest
    | none => (t, some s)

end FileTree

end Swagger
