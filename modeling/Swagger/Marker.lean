import Swagger.Schema
import Swagger.Text.Blank
import Swagger.Text.Quoted
import Swagger.Text.Word

/-! # Markers
Comment lines of the form `+key=value` say how values of a model are merged: replaced as a whole, or
part by part. A marker is recorded as a vendor extension of the schema.

* `Marker` — the four kinds.
* `Marker.splitLine?` — key and value of a marker line, whatever the key.
* `Marker.ofLines` — the markers among comment lines; other lines and other keys do not count.
* `Marker.line` — a marker as a line.
* `Marker.apply` — record markers on a schema. -/

namespace Swagger

/-- How a structured value is merged. -/
inductive StructType where
  /-- Replaced as a whole. -/
  | atomic
  /-- Field by field. -/
  | granular
deriving DecidableEq

/-- How a list is merged. -/
inductive ListType where
  /-- Replaced as a whole. -/
  | atomic
  /-- As a set of its items. -/
  | set
  /-- As a map of its items by the fields that are named as keys. -/
  | map
deriving DecidableEq

/-- How a map is merged. -/
inductive MapType where
  /-- Replaced as a whole. -/
  | atomic
  /-- Entry by entry. -/
  | granular
deriving DecidableEq

/-- A marker. -/
inductive Marker where
  /-- How a structured value is merged. -/
  | structType (value : StructType)
  /-- How a list is merged. -/
  | listType (value : ListType)
  /-- A field that is part of the key of a list's items. -/
  | listMapKey (field : String)
  /-- How a map is merged. -/
  | mapType (value : MapType)
deriving DecidableEq

/-- Why markers are refused. -/
inductive MarkerError where
  /-- The value is none that the marker may have. -/
  | invalidValue (marker value : String)
  /-- Keys are named for a list that is not merged as a map. -/
  | mapKeysWithoutMapList
deriving DecidableEq

/-- The wording. -/
def MarkerError.message : MarkerError → String
  | .invalidValue marker value => "invalid value " ++ Text.quoted value ++ " for marker +" ++ marker
  | .mapKeysWithoutMapList => "+listMapKey requires +listType=map"

namespace StructType

/-- The word for it. -/
def word : StructType → String
  | .atomic => "atomic"
  | .granular => "granular"

/-- The type that a word names. -/
def ofWord? (s : String) : Option StructType := [.atomic, .granular].find? fun t => t.word == s

end StructType

namespace ListType

/-- The word for it. -/
def word : ListType → String
  | .atomic => "atomic"
  | .set => "set"
  | .map => "map"

/-- The type that a word names. -/
def ofWord? (s : String) : Option ListType := [.atomic, .set, .map].find? fun t => t.word == s

end ListType

namespace MapType

/-- The word for it. -/
def word : MapType → String
  | .atomic => "atomic"
  | .granular => "granular"

/-- The type that a word names. -/
def ofWord? (s : String) : Option MapType := [.atomic, .granular].find? fun t => t.word == s

end MapType

namespace Marker

/-- The key of a marker. -/
def key : Marker → String
  | .structType _ => "structType"
  | .listType _ => "listType"
  | .listMapKey _ => "listMapKey"
  | .mapType _ => "mapType"

/-- The value of a marker. -/
def value : Marker → String
  | .structType t => t.word
  | .listType t => t.word
  | .listMapKey field => field
  | .mapType t => t.word

/-- The marker as a line. -/
def line (m : Marker) : String := "+" ++ m.key ++ "=" ++ m.value

/-- The text after the mark of a comment: nothing, or at least two slashes. -/
def skipComment (cs : List Char) : List Char :=
  match cs with
  | '/' :: '/' :: rest => rest.dropWhile (· == '/')
  | _ => cs

/-- Key and value of a marker line: blanks, perhaps the mark of a comment, blanks, a plus sign, a word,
an equals sign, a value without blanks, blanks. -/
def splitLine? (line : String) : Option (String × String) :=
  match ((skipComment (line.toList.dropWhile Text.isBlank)).dropWhile Text.isBlank) with
  | '+' :: rest =>
    let key := rest.takeWhile Text.isWord
    match rest.dropWhile Text.isWord with
    | '=' :: rest =>
      let value := rest.takeWhile fun c => !Text.isBlank c
      let after := rest.dropWhile fun c => !Text.isBlank c
      if key.isEmpty || !after.all Text.isBlank then none
      else some (String.ofList key, String.ofList value)
    | _ => none
  | _ => none

/-- The marker with a key and a value. There is none for a key that is not a marker's. -/
def ofKeyValue (key value : String) : Except MarkerError (Option Marker) :=
  let refused := MarkerError.invalidValue key value
  if key = "structType" then
    match StructType.ofWord? value with
    | some t => .ok (some (.structType t))
    | none => .error refused
  else if key = "listType" then
    match ListType.ofWord? value with
    | some t => .ok (some (.listType t))
    | none => .error refused
  else if key = "mapType" then
    match MapType.ofWord? value with
    | some t => .ok (some (.mapType t))
    | none => .error refused
  else if key = "listMapKey" then
    if value.isEmpty then .error refused else .ok (some (.listMapKey value))
  else .ok none

/-- The marker on a line, if it is a marker line. -/
def ofLine (line : String) : Except MarkerError (Option Marker) :=
  match splitLine? line with
  | some (key, value) => ofKeyValue key value
  | none => .ok none

/-- The markers among comment lines, in order; the first bad one is an error. -/
def ofLines : List String → Except MarkerError (List Marker)
  | [] => .ok []
  | line :: rest => do
    let m ← ofLine line
    let ms ← ofLines rest
    return m.toList ++ ms

/-- The extension for `structType`. -/
def structTypeKey : String := "x-struct-type"

/-- The extension for `listType`. -/
def listTypeKey : String := "x-list-type"

/-- The extension for `listMapKey`. -/
def listMapKeysKey : String := "x-list-map-keys"

/-- The extension for `mapType`. -/
def mapTypeKey : String := "x-map-type"

/-- Record one marker; keys are only recorded all together. -/
def record (x : Extensions) : Marker → Extensions
  | .structType t => x.insert structTypeKey (.str t.word)
  | .listType t => x.insert listTypeKey (.str t.word)
  | .mapType t => x.insert mapTypeKey (.str t.word)
  | .listMapKey _ => x

/-- The fields that are named as keys, in order. -/
def mapKeys (ms : List Marker) : List String :=
  ms.filterMap fun
    | .listMapKey field => some field
    | _ => none

/-- How a list is merged by the last marker that says so. -/
def lastListType (ms : List Marker) : Option ListType :=
  (ms.filterMap fun
    | .listType t => some t
    | _ => none).getLast?

/-- Record markers among vendor extensions. Keys need a list that is merged as a map; where there is
none, everything but the keys has been recorded when this is found. -/
def applyTo (x : Extensions) (ms : List Marker) : Extensions × Except MarkerError Unit :=
  let recorded := ms.foldl record x
  let keys := mapKeys ms
  if keys.isEmpty then (recorded, .ok ())
  else if lastListType ms = some .map then
    (recorded.insert listMapKeysKey (Json.ofStrings keys), .ok ())
  else (recorded, .error .mapKeysWithoutMapList)

/-- Record markers on a schema. -/
def apply (s : Schema) (ms : List Marker) : Schema × Except MarkerError Unit :=
  let r := applyTo s.extensions ms
  (s.withExtensions r.1, r.2)

/-- Read markers from comment lines and record them on a schema, which stays as it was where a line
is bad. -/
def applyLines (s : Schema) (lines : List String) : Schema × Except MarkerError Unit :=
  match ofLines lines with
  | .ok ms => apply s ms
  | .error e => (s, .error e)

end Marker

end Swagger
