import Swagger.Schema

/-! # Resolving references
In a definition file a reference is the bare name of a model, unless it begins with `#`. Resolving
replaces every bare name by a pointer to the model's definition and notes the model as a dependency.

* `Reference.isPointer` — whether a reference begins with `#`.
* `Reference.resolve` — one reference: the pointer, and the names noted so far.
* `Schema.resolve` — all references of a schema, in the order of `Schema.refs`. -/

namespace Swagger

namespace Reference

/-- Whether a reference is a pointer into the document already. -/
def isPointer (target : String) : Bool := target.toList.head? == some '#'

/-- Note a name, unless it is noted already. -/
def note (names : List String) (name : String) : List String :=
  if names.contains name then names else names ++ [name]

/-- Resolve one reference. -/
def resolve (pointer : String → String) (target : String) (names : List String) :
    String × List String :=
  if isPointer target then (target, names) else (pointer target, note names target)

/-- Resolve a reference that may be absent. -/
def resolveOptional (pointer : String → String) :
    Option String → List String → Option String × List String
  | none, names => (none, names)
  | some target, names =>
    let r := resolve pointer target names
    (some r.1, r.2)

end Reference

namespace Schema

mutual

/-- Resolve every reference of a schema and note the names of the models meant by them. -/
def resolve (pointer : String → String) : Schema → List String → Schema × List String
  | ⟨own, items, allOf, properties, additional⟩, names =>
    let r := Reference.resolveOptional pointer own.reference names
    let p := resolveProperties pointer properties.entries r.2
    let a := resolveList pointer allOf p.2
    let i := resolveItems pointer items a.2
    let d := resolveAdditional pointer additional i.2
    (⟨{ own with reference := r.1 }, i.1, a.1, ⟨p.1⟩, d.1⟩, d.2)

/-- Resolve the references in the properties. -/
def resolveProperties (pointer : String → String) :
    List (String × Schema) → List String → List (String × Schema) × List String
  | [], names => ([], names)
  | (k, s) :: rest, names =>
    let x := resolve pointer s names
    let xs := resolveProperties pointer rest x.2
    ((k, x.1) :: xs.1, xs.2)

/-- Resolve the references in a list of schemas. -/
def resolveList (pointer : String → String) : List Schema → List String → List Schema × List String
  | [], names => ([], names)
  | s :: rest, names =>
    let x := resolve pointer s names
    let xs := resolveList pointer rest x.2
    (x.1 :: xs.1, xs.2)

/-- Resolve the references in the items. -/
def resolveItems (pointer : String → String) :
    Option (OneOrMany Schema) → List String → Option (OneOrMany Schema) × List String
  | none, names => (none, names)
  | some (.one s), names =>
    let x := resolve pointer s names
    (some (.one x.1), x.2)
  | some (.many l), names =>
    let x := resolveList pointer l names
    (some (.many x.1), x.2)

/-- Resolve the references in the schema of further properties. -/
def resolveAdditional (pointer : String → String) :
    Option (FlagOr Schema) → List String → Option (FlagOr Schema) × List String
  | none, names => (none, names)
  | some (.flag b), names => (some (.flag b), names)
  | some (.other s), names =>
    let x := resolve pointer s names
    (some (.other x.1), x.2)

end

end Schema

end Swagger
