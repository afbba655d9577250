/-! # Names of files
* `FilePath.names` — the names in a path, from the outermost on.
* `FilePath.join` — a name below a directory.
* `FilePath.extension?` — what says how a file is written. -/

namespace Swagger

namespace FilePath

/-- The names in a path, from the outermost on. A slash at the end makes an empty name. -/
def names (path : String) : List String := (path.split (· == '/')).toList.map fun s => s.toString

/-- A name below a directory. -/
def join (dir name : String) : String :=
  if dir.isEmpty || dir.toList.getLast? == some '/' then dir ++ name else dir ++ "/" ++ name

/-- What follows the last point in a name, if something stands before the point. -/
def extensionOf? (name : List Char) : Option (List Char) :=
  let back := name.reverse
  let after := back.takeWhile (· != '.')
  if after.length + 1 < back.length then some after.reverse else none

/-- The extension of the file that a path names. -/
def extension? (path : String) : Option String :=
  (extensionOf? (path.toList.reverse.takeWhile (· != '/')).reverse).map String.ofList

end FilePath

end Swagger
