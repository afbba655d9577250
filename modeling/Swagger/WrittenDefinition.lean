import Swagger.Config
import Swagger.Marker
import Swagger.Notice
import Swagger.Schema.Reading
import Swagger.Schema.References

/-! # Definitions as they are written
In a definition file models refer to each other by bare names, and comment markers stand beside the
schemas.

* `WrittenDefinition` — a schema with bare references, and further models that it needs.
* `WrittenDefinition.resolve` — the definition with pointers in their place.
* `DefinitionEntry` — a definition with its markers.
* `DefinitionEntry.marked` — the definition with the markers recorded. -/

namespace Swagger

/-- A schema with bare references, and further models that it needs. -/
structure WrittenDefinition where
  /-- The schema. -/
  schema : Schema := {}
  /-- The models that it needs whatever it refers to. -/
  dependencies : List String := []
deriving DecidableEq, Inhabited

namespace WrittenDefinition

/-- The names of the fields, in order. -/
def fieldNames : List String := ["schema", "dependencies"]

/-- Read the fields. -/
def ofFields? (f : Fields) : Option WrittenDefinition := do
  return {
    schema := ← f.read "schema" Schema.ofNode? {}
    dependencies := ← f.strings "dependencies" }

/-- Read from a mapping, or from a list of the fields. -/
def ofNode? (n : Node) : Option WrittenDefinition := do
  let f ← n.record? fieldNames 0
  ofFields? f

/-- The definition with a pointer in the place of every bare name, which is also noted as needed. -/
def resolve (d : WrittenDefinition) (pointer : String → String) : Definition :=
  let r := d.schema.resolve pointer d.dependencies
  ⟨r.1, r.2⟩

end WrittenDefinition

/-- A definition with its markers. -/
structure DefinitionEntry where
  /-- The definition. -/
  definition : WrittenDefinition := {}
  /-- Comment lines on the whole schema. -/
  markers : List String := []
  /-- Comment lines on its properties. -/
  propertyMarkers : Dict String (List String) := ∅
deriving DecidableEq, Inhabited

namespace DefinitionEntry

/-- The names of the fields that are not the definition's. -/
def fieldNames : List String := ["markers", "propertyMarkers"]

/-- Read from a mapping that holds the fields of the definition and of the entry together. -/
def ofNode? (n : Node) : Option DefinitionEntry := do
  let (f, others) ← n.open? fieldNames
  let inner ← Node.fieldsOf? WrittenDefinition.fieldNames
    (others.map fun e => (Node.str e.1 true, e.2))
  return {
    definition := ← WrittenDefinition.ofFields? inner
    markers := ← f.strings "markers"
    propertyMarkers := ← f.dict "propertyMarkers" (Node.list? Node.string?) }

/-- Record the markers that a property's comment lines hold. -/
def markProperty (s : Schema) (e : String × List String) : Except MarkerError Schema := do
  let ms ← Marker.ofLines e.2
  match s.properties.find? e.1 with
  | none => return s
  | some p =>
    let r := Marker.apply p ms
    let _ ← r.2
    return { s with properties := s.properties.adjust e.1 fun _ => r.1 }

/-- Record the markers of the whole schema. -/
def markSchema (e : DefinitionEntry) : Except MarkerError Schema := do
  let r := Marker.applyLines e.definition.schema e.markers
  let _ ← r.2
  return r.1

/-- The definition with all its markers recorded. Markers on what is no property do nothing. -/
def marked (e : DefinitionEntry) : Except MarkerError WrittenDefinition := do
  let s ← e.markSchema
  let s ← e.propertyMarkers.entries.foldlM markProperty s
  return { e.definition with schema := s }

/-- What is worth telling about the markers of an entry with a name. -/
def notices (name : String) (e : DefinitionEntry) : List String :=
  match e.markSchema with
  | .error _ => []
  | .ok s =>
    noticesOfRun markProperty
      (fun s p =>
        match Marker.ofLines p.2, s.properties.find? p.1 with
        | .ok _, none => ["Markers for unknown property " ++ name ++ "." ++ p.1]
        | _, _ => [])
      s e.propertyMarkers.entries

end DefinitionEntry

end Swagger
