/-! # Names of models
A model has a canonical name, whose last part after a slash names its definition. The names of simple
types stand for themselves and have no definition.

* `ModelName.ofTypePath` — the canonical name of a type given by its path of modules.
* `ModelName.definitionName` — the name of a model's definition.
* `SimpleType.ofName?` — the type and format of a simple type. -/

namespace Swagger

namespace ModelName

/-- Split a reversed path at the first pair of colons: the last segment and the modules before it,
both reversed. -/
def splitLast? : List Char → Option (List Char × List Char)
  | ':' :: ':' :: rest => some ([], rest)
  | c :: rest => (splitLast? rest).map fun p => (c :: p.1, p.2)
  | [] => none

/-- Every pair of colons, from left to right, as a slash. -/
def slashed : List Char → List Char
  | ':' :: ':' :: rest => '/' :: slashed rest
  | c :: rest => c :: slashed rest
  | [] => []

/-- The canonical name of a type: its modules joined by slashes, a point, its name. Arguments in angle
brackets stay as they are, and so does a type outside every module. -/
def ofTypePath (path : String) : String :=
  let cs := path.toList
  let outer := cs.takeWhile (· != '<')
  let arguments := cs.dropWhile (· != '<')
  match splitLast? outer.reverse with
  | some (name, modules) =>
    String.ofList (slashed modules.reverse ++ '.' :: name.reverse ++ arguments)
  | none => path

/-- The name of a model's definition: what stands after the last slash. -/
def definitionName (name : String) : String :=
  String.ofList (name.toList.reverse.takeWhile (· != '/')).reverse

end ModelName

/-- A simple type: the name of the type and a format, which may be empty. -/
structure SimpleType where
  /-- The name of the type. -/
  type : String
  /-- The format. -/
  format : String
deriving DecidableEq

namespace SimpleType

/-- The simple types by name. -/
def table : List (String × SimpleType) :=
  [("u8", ⟨"integer", "byte"⟩), ("i8", ⟨"integer", "byte"⟩), ("u16", ⟨"integer", "int32"⟩),
    ("i16", ⟨"integer", "int32"⟩), ("i32", ⟨"integer", "int32"⟩), ("u32", ⟨"integer", "int64"⟩),
    ("i64", ⟨"integer", "int64"⟩), ("u64", ⟨"integer", "int64"⟩), ("isize", ⟨"integer", "int64"⟩),
    ("usize", ⟨"integer", "int64"⟩), ("f32", ⟨"number", "float"⟩), ("f64", ⟨"number", "double"⟩),
    ("bool", ⟨"boolean", ""⟩), ("string", ⟨"string", ""⟩), ("integer", ⟨"integer", ""⟩),
    ("number", ⟨"number", ""⟩), ("boolean", ⟨"boolean", ""⟩), ("object", ⟨"object", ""⟩),
    ("bytes", ⟨"string", "byte"⟩), ("date-time", ⟨"string", "date-time"⟩)]

/-- The simple type with a name. -/
def ofName? (name : String) : Option SimpleType := table.lookup name

end SimpleType

end Swagger
