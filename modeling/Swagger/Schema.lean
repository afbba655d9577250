import Swagger.Json

/-! # Schemas
The part of JSON Schema that a Swagger 2.0 document uses. A schema has keywords of its own and four
places where other schemas stand inside it.

* `Keywords` — what a schema says itself, vendor extensions included.
* `Schema` — keywords with `items`, `allOf`, `properties` and `additionalProperties`.
* `Schema.reference`, `Schema.simple` — the two schemas that stand for a model.
* `Schema.refs` — every reference in the schema, in the order in which it is walked. -/

namespace Swagger

/-- Vendor extensions: further members of an object, by key. -/
abbrev Extensions := Dict String Json

/-- A pointer to documentation elsewhere. -/
structure ExternalDocs where
  /-- What is found there. -/
  description : String := ""
  /-- Where it is found. -/
  url : String := ""
deriving DecidableEq, Inhabited

/-- One value, or a list of them. -/
inductive OneOrMany (α : Type) where
  /-- One value. -/
  | one (value : α)
  /-- A list. -/
  | many (values : List α)
deriving DecidableEq

/-- A truth value, or a value of another kind. -/
inductive FlagOr (α : Type) where
  /-- A truth value. -/
  | flag (value : Bool)
  /-- A value of the other kind. -/
  | other (value : α)
deriving DecidableEq

/-- What a schema says without the schemas inside it. -/
structure Keywords where
  /-- The definition that the schema stands for. -/
  reference : Option String := none
  /-- Free text. -/
  description : String := ""
  /-- The names of the types allowed. -/
  types : List String := []
  /-- A refinement of the type. -/
  format : String := ""
  /-- A short name. -/
  title : String := ""
  /-- The value assumed where there is none. -/
  defaultValue : Option Json := none
  /-- The greatest number allowed. -/
  maximum : Option Double := none
  /-- The least number allowed. -/
  minimum : Option Double := none
  /-- The greatest length of a string. -/
  maxLength : Option Nat := none
  /-- The least length of a string. -/
  minLength : Option Nat := none
  /-- A regular expression for strings. -/
  pattern : String := ""
  /-- The greatest number of items. -/
  maxItems : Option Nat := none
  /-- The least number of items. -/
  minItems : Option Nat := none
  /-- Whether items have to differ. -/
  uniqueItems : Bool := false
  /-- The values allowed. -/
  enumeration : List Json := []
  /-- The properties that have to be there. -/
  required : List String := []
  /-- The property that tells variants apart. -/
  discriminator : String := ""
  /-- Whether the property is never sent. -/
  readOnly : Bool := false
  /-- Further documentation. -/
  externalDocs : Option ExternalDocs := none
  /-- A sample value. -/
  sample : Option Json := none
  /-- Everything else. -/
  extensions : Extensions := ∅
deriving DecidableEq, Inhabited

/-- A schema. -/
structure Schema where
  /-- What the schema says itself. -/
  own : Keywords := {}
  /-- The schema of the items, or one schema for each position. -/
  items : Option (OneOrMany Schema) := none
  /-- Schemas that all have to hold. -/
  allOf : List Schema := []
  /-- The schemas of the properties. -/
  properties : Dict String Schema := ⟨[]⟩
  /-- Whether other properties are allowed, or their schema. -/
  additional : Option (FlagOr Schema) := none

namespace Schema

/-- The schema that says nothing. -/
def empty : Schema := {}

instance : Inhabited Schema := ⟨empty⟩

/-- A schema that stands for a definition. -/
def reference (target : String) : Schema := { own := { reference := some target } }

/-- A schema of a simple type; the format may be empty. -/
def simple (type format : String) : Schema := { own := { types := [type], format := format } }

/-- The schema with other keywords of its own. -/
def withOwn (s : Schema) (own : Keywords) : Schema := { s with own := own }

/-- The vendor extensions of the schema. -/
def extensions (s : Schema) : Extensions := s.own.extensions

/-- The schema with other vendor extensions. -/
def withExtensions (s : Schema) (x : Extensions) : Schema :=
  s.withOwn { s.own with extensions := x }

/-- A schema has the extensions that it was given. -/
@[simp] theorem extensions_withExtensions (s : Schema) (x : Extensions) :
    (s.withExtensions x).extensions = x := rfl

/-- A schema with its own extensions is the same. -/
@[simp] theorem withExtensions_extensions (s : Schema) : s.withExtensions s.extensions = s := by
  cases s; rfl

mutual

/-- Every reference in the schema: its own, then those of its properties by key, of `allOf`, of the
items, and of the schema of further properties. -/
def refs : Schema → List String
  | ⟨own, items, allOf, properties, additional⟩ =>
    own.reference.toList ++ (refsOfProperties properties.entries ++ (refsOfList allOf ++
      (refsOfItems items ++ refsOfAdditional additional)))

/-- The references in the properties. -/
def refsOfProperties : List (String × Schema) → List String
  | [] => []
  | (_, s) :: rest => refs s ++ refsOfProperties rest

/-- The references in a list of schemas. -/
def refsOfList : List Schema → List String
  | [] => []
  | s :: rest => refs s ++ refsOfList rest

/-- The references in the items. -/
def refsOfItems : Option (OneOrMany Schema) → List String
  | none => []
  | some (.one s) => refs s
  | some (.many l) => refsOfList l

/-- The references in the schema of further properties. -/
def refsOfAdditional : Option (FlagOr Schema) → List String
  | none => []
  | some (.flag _) => []
  | some (.other s) => refs s

end

mutual

/-- Whether two schemas are the same. -/
def decEq : (a b : Schema) → Decidable (a = b)
  | ⟨own, items, allOf, ⟨properties⟩, additional⟩, ⟨own', items', allOf', ⟨properties'⟩, additional'⟩ =>
    if h₁ : own = own' then
      match decEqItems items items', decEqList allOf allOf', decEqProperties properties properties',
        decEqAdditional additional additional' with
      | isTrue h₂, isTrue h₃, isTrue h₄, isTrue h₅ => isTrue (by rw [h₁, h₂, h₃, h₄, h₅])
      | isFalse h, _, _, _ => isFalse (by simp [h])
      | _, isFalse h, _, _ => isFalse (by simp [h])
      | _, _, isFalse h, _ => isFalse (by simp [h])
      | _, _, _, isFalse h => isFalse (by simp [h])
    else isFalse (by simp [h₁])

/-- Whether two lists of schemas are the same. -/
def decEqList : (a b : List Schema) → Decidable (a = b)
  | [], [] => isTrue rfl
  | x :: a, y :: b =>
    match decEq x y, decEqList a b with
    | isTrue h, isTrue h₁ => isTrue (by rw [h, h₁])
    | isFalse h, _ => isFalse (by simp [h])
    | _, isFalse h => isFalse (by simp [h])
  | [], _ :: _ | _ :: _, [] => isFalse (by simp)

/-- Whether two lists of properties are the same. -/
def decEqProperties : (a b : List (String × Schema)) → Decidable (a = b)
  | [], [] => isTrue rfl
  | (k, x) :: a, (l, y) :: b =>
    if hk : k = l then
      match decEq x y, decEqProperties a b with
      | isTrue h, isTrue h₁ => isTrue (by rw [hk, h, h₁])
      | isFalse h, _ => isFalse (by simp [h])
      | _, isFalse h => isFalse (by simp [h])
    else isFalse (by simp [hk])
  | [], _ :: _ | _ :: _, [] => isFalse (by simp)

/-- Whether the items are the same. -/
def decEqItems : (a b : Option (OneOrMany Schema)) → Decidable (a = b)
  | none, none => isTrue rfl
  | some (.one x), some (.one y) =>
    match decEq x y with
    | isTrue h => isTrue (by rw [h])
    | isFalse h => isFalse (by simp [h])
  | some (.many a), some (.many b) =>
    match decEqList a b with
    | isTrue h => isTrue (by rw [h])
    | isFalse h => isFalse (by simp [h])
  | none, some _ | some _, none => isFalse (by simp)
  | some (.one _), some (.many _) | some (.many _), some (.one _) => isFalse (by simp)

/-- Whether the schemas of further properties are the same. -/
def decEqAdditional : (a b : Option (FlagOr Schema)) → Decidable (a = b)
  | none, none => isTrue rfl
  | some (.flag x), some (.flag y) =>
    if h : x = y then isTrue (by rw [h]) else isFalse (by simp [h])
  | some (.other x), some (.other y) =>
    match decEq x y with
    | isTrue h => isTrue (by rw [h])
    | isFalse h => isFalse (by simp [h])
  | none, some _ | some _, none => isFalse (by simp)
  | some (.flag _), some (.other _) | some (.other _), some (.flag _) => isFalse (by simp)

end

instance : DecidableEq Schema := decEq

end Schema

end Swagger
