import Swagger.Dict
import Swagger.FilePath

/-! # Files and directories
What a program can see of a file system: a tree of named files, below the directory it works in.

* `FileTree` — a file or a directory.
* `FileTree.find?` — what a path names.
* `FileTree.files` — all files of a tree with their paths, in the order of their names.
* `FileTree.makeDirectory?`, `FileTree.writeFile?` — the tree after a change, if it is possible. -/

namespace Swagger

/-- A file or a directory. -/
inductive FileTree where
  /-- A file. -/
  | file (content : ByteArray)
  /-- A directory. -/
  | directory (entries : Dict String FileTree)

namespace FileTree

/-- A directory without files. -/
def empty : FileTree := .directory ⟨[]⟩

instance : Inhabited FileTree := ⟨empty⟩

/-- The content of a file. -/
def content? : FileTree → Option ByteArray
  | file content => some content
  | directory _ => none

/-- What some names lead to from a tree inside others, the innermost of which comes first. -/
def findFrom? : List FileTree → FileTree → List String → Option FileTree
  | _, t, [] => some t
  | _, .file _, _ :: _ => none
  | outer, .directory d, name :: rest =>
    if name = "" ∨ name = "." then findFrom? outer (.directory d) rest
    else if name = ".." then
      match outer with
      | [] => none
      | t :: outer => findFrom? outer t rest
    else
      match d.find? name with
      | none => none
      | some t => findFrom? (.directory d :: outer) t rest

/-- Whether a path can name something below the directory it starts from. -/
def isRelative (path : String) : Bool := !path.isEmpty && path.toList.head? != some '/'

/-- What a path names. -/
def find? (t : FileTree) (path : String) : Option FileTree :=
  if isRelative path then findFrom? [] t (FilePath.names path) else none

mutual

/-- All files of a tree with their paths, in the order of their names. -/
def files (path : String) : FileTree → List (String × ByteArray)
  | .file content => [(path, content)]
  | .directory d => filesOfEntries path d.entries

/-- All files below the entries of a directory. -/
def filesOfEntries (path : String) : List (String × FileTree) → List (String × ByteArray)
  | [] => []
  | (name, t) :: rest => files (FilePath.join path name) t ++ filesOfEntries path rest

end

/-- Change what some names lead to. A name that leads nowhere is changed as `none`. -/
def change? (f : Option FileTree → Option FileTree) : List String → Option FileTree → Option FileTree
  | [], t => f t
  | name :: rest, some (.directory d) => do
    let t ← change? f rest (d.find? name)
    return .directory (d.insert name t)
  | _ :: _, _ => none

/-- The names that a path leads through once dots are followed, after those given in reverse; each
directory on the way has to exist. -/
def resolve? (t : FileTree) : List String → List String → Option (List String)
  | found, [] => some found.reverse
  | found, name :: rest =>
    match findFrom? [] t found.reverse with
    | some (.file _) => none
    | here =>
      if name = "" ∨ name = "." then
        if here.isSome then resolve? t found rest else none
      else if name = ".." then
        match here, found with
        | some _, _ :: found => resolve? t found rest
        | _, _ => none
      else if here.isSome then resolve? t (name :: found) rest
      else none

/-- Put a directory in an existing one, where it may be already. -/
def addDirectory? (t : FileTree) (names : List String) : Option FileTree :=
  change? (fun
    | none => some empty
    | some (.directory d) => some (.directory d)
    | some (.file _) => none) names (some t)

/-- Make the directory that some names lead to, and those around it. -/
def makeDirectoryFrom? (t : FileTree) (found : List String) : List String → Option FileTree
  | [] => some t
  | name :: rest =>
    if name = "" ∨ name = "." then makeDirectoryFrom? t found rest
    else if name = ".." then
      match found with
      | [] => none
      | _ :: found => makeDirectoryFrom? t found rest
    else do
      let t ← t.addDirectory? (name :: found).reverse
      makeDirectoryFrom? t (name :: found) rest

/-- Whether a path ends in a point that stands for the directory itself, slashes aside. -/
def endsInDot (names : List String) : Bool :=
  (names.reverse.dropWhile (· == "")).head? == some "."

/-- Make a directory and those around it. The directory of a path that ends in a point must exist. -/
def makeDirectory? (t : FileTree) (path : String) : Option FileTree :=
  if path.isEmpty then some t
  else
    match t.find? path with
    | some (.directory _) => some t
    | some (.file _) => none
    | none =>
      let names := FilePath.names path
      if !isRelative path || endsInDot names then none else makeDirectoryFrom? t [] names

/-- Write a file into an existing directory, in the place of an earlier one. -/
def writeFile? (t : FileTree) (path : String) (content : ByteArray) : Option FileTree :=
  if isRelative path then do
    let names ← resolve? t [] (FilePath.names path)
    change? (fun
      | some (.directory _) => none
      | _ => some (.file content)) names (some t)
  else none

end FileTree

end Swagger
