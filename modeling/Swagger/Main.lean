import Swagger.CommandLine

/-! # The program
Reads the files that a command needs, and prints and writes what the command comes to. -/

namespace Swagger

namespace Main

/-- How the program is used. -/
def usage : String :=
  "Usage: build -s <SERVICES> [-c <CONFIG>] [-d <DEFINITIONS>] [-o <OUTPUT>] [--ot <TYPES>] [-v]\n" ++
    "       definitions -d <DEFINITIONS> [-c <CONFIG>] [-v] <MODELS>..."

/-- The file or directory at a path. -/
partial def treeAt (path : String) : IO (Option FileTree) := do
  try
    let place ← IO.FS.realPath path
    if ← place.isDir then
      let entries ← (← place.readDir).toList.mapM fun e => do
        return (e.fileName, ← treeAt (FilePath.join path e.fileName))
      return some (.directory (Dict.ofList (entries.filterMap fun e => e.2.map fun t => (e.1, t))))
    else return some (.file (← IO.FS.readBinFile path))
  catch _ => return none

/-- What is found at each of some paths. -/
def sourceOf (paths : List String) : IO FileSource := do
  let found ← paths.mapM fun path => do return (path, ← treeAt path)
  return fun path => (found.lookup path).join

/-- Do a step to the files of the machine, and say whether that was possible. -/
def perform (step : OutputStep) : IO Bool := do
  try
    match step with
    | .makeDirectory path => if path.isEmpty then pure () else IO.FS.createDirAll path
    | .writeFile path text => IO.FS.writeFile path text
    return true
  catch _ => return false

/-- Do steps until one fails; the exit code. -/
def performAll : List OutputStep → IO UInt32
  | [] => return 0
  | step :: rest => do
    if ← perform step then performAll rest
    else
      IO.eprintln (Failure.writing step).report
      return 1

/-- Run a command; the exit code. -/
def run (command : Command) : IO UInt32 := do
  let source ← sourceOf command.paths
  (command.notices source).forM IO.eprintln
  match command.plan source with
  | .error f =>
    IO.eprintln f.report
    return 1
  | .ok plan =>
    IO.print plan.printed
    performAll plan.steps

end Main

end Swagger

/-- Run the program with its arguments. -/
def main (args : List String) : IO UInt32 :=
  match Swagger.Request.ofArguments? args with
  | none => do
    IO.eprintln Swagger.Main.usage
    return 2
  | some .explain => do
    IO.println Swagger.Main.usage
    return 0
  | some (.run command) => Swagger.Main.run command
