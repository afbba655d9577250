/-! # Paths of routes
* `Path.join` — a root and a sub path, with exactly one slash between them.
* `Path.withoutWildcard` — a path whose last segment takes the rest of the request, written without
  saying so. -/

namespace Swagger

namespace Path

/-- The characters without slashes in front. -/
def dropSlashes (cs : List Char) : List Char := cs.dropWhile (· == '/')

/-- The characters without slashes at the end. -/
def dropLastSlashes (cs : List Char) : List Char := (dropSlashes cs.reverse).reverse

/-- Join two parts, of which slashes at the seam do not count. -/
def joinParts (root sub : List Char) : List Char :=
  match dropLastSlashes root, dropSlashes sub with
  | [], [] => ['/']
  | r, [] => r
  | r, s => r ++ '/' :: s

/-- A root and a sub path, with exactly one slash between them. -/
def join (root sub : String) : String := String.ofList (joinParts root.toList sub.toList)

/-- The mark of a segment that takes the rest of the request. -/
def wildcard : List Char := [':', '*', '\x7d']

/-- A path that ends in `:*}` with just the brace in its place. -/
def withoutWildcard (path : String) : String :=
  let cs := path.toList
  if wildcard.isSuffixOf cs then String.ofList (cs.take (cs.length - 3) ++ ['\x7d']) else path

end Path

end Swagger
