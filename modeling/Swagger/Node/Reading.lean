import Swagger.Node

/-! # Reading typed values from nodes
The kinds of field that the types of this library have, and how each is read from a node. A reader
answers `none` for a node that is not of its kind.

* `string?`, `bool?`, `double?`, `natural?`, `code?` — the scalars.
* `list?`, `dict?`, `optional?` — values made of others.
* `Fields` — the named fields of an object, each written at most once.
* `Node.record?` — the fields of a type that ignores what it does not know.
* `Node.extensible?` — the fields of a type that keeps what it does not know. -/

namespace Swagger

namespace Node

/-- A string; a YAML scalar is one whatever it looks like. -/
def string? (n : Node) : Option String := n.text?

/-- A truth value. -/
def bool? : Node → Option Bool
  | .bool b => some b
  | .scalar s => if s.admits Yaml.boolTag then Yaml.bool? s.text else none
  | _ => none

/-- A double; an integer counts as the nearest one. -/
def double? : Node → Option Double
  | .num (.int i) => some (Double.ofInt i)
  | .num (.real d) => some d
  | .scalar s => if s.admits Yaml.floatTag then Yaml.double? s.text else none
  | _ => none

/-- A natural number below a bound. -/
def naturalBelow? (bound : Nat) : Node → Option Nat
  | .num (.int i) => if 0 ≤ i ∧ i < bound then some i.toNat else none
  | .scalar s =>
    if s.admits Yaml.intTag then (Yaml.unsigned? s.text).filter (decide <| · < bound) else none
  | _ => none

/-- A natural number of sixty-four bits. -/
def natural? (n : Node) : Option Nat := n.naturalBelow? (Nat.pow 2 64)

/-- A status code: a natural number of sixteen bits. -/
def code? (n : Node) : Option UInt16 := (n.naturalBelow? (Nat.pow 2 16)).map UInt16.ofNat

/-- A status code written as the key of a JSON object: decimal digits without a zero in front and
without escapes. In YAML the key is an integer as any other. -/
def codeKey? : Node → Option UInt16
  | .str s verbatim =>
    let cs := s.toList
    let plain := verbatim && !cs.isEmpty && cs.all Char.isDigit && (cs.head? != some '0' || cs == ['0'])
    if plain then ((Yaml.digits? 10 cs).filter (decide <| · < Nat.pow 2 16)).map UInt16.ofNat else none
  | .scalar s => (Node.scalar s).code?
  | _ => none

/-- The items of a list. Where nothing is written in YAML, the list is empty. -/
def items? : Node → Option (List Node)
  | .seq _ items => some items
  | .scalar s => if s.isBlank then some [] else none
  | _ => none

/-- The entries of a mapping. Where nothing is written in YAML, the mapping is empty. -/
def entries? : Node → Option (List (Node × Node))
  | .map _ entries => some entries
  | .scalar s => if s.isBlank then some [] else none
  | _ => none

/-- A list whose items are all of a kind. -/
def list? {α : Type} (item : Node → Option α) (n : Node) : Option (List α) := do
  let items ← n.items?
  items.mapM item

/-- A dictionary; of a repeated key the last value counts. -/
def dictBy? {κ α : Type} [Ord κ] (key : Node → Option κ) (value : Node → Option α) (n : Node) :
    Option (Dict κ α) := do
  let entries ← n.entries?
  let pairs ← entries.mapM fun e => do
    let k ← key e.1
    let v ← value e.2
    return (k, v)
  return Dict.ofList pairs

/-- A dictionary with strings as keys. -/
def dict? {α : Type} (value : Node → Option α) (n : Node) : Option (Dict String α) :=
  n.dictBy? string? value

/-- A value that may be left out by writing null, or nothing in YAML. -/
def optional? {α : Type} (value : Node → Option α) : Node → Option (Option α)
  | .null => some none
  | .scalar s =>
    if s.style == .plain && s.tag == some Yaml.nullTag then
      if Yaml.isNullWord s.text then some none else none
    else if s.style == .plain && s.tag.isNone && (s.text.isEmpty || Yaml.isNullWord s.text) then
      some none
    else (value (.scalar s)).map some
  | n => (value n).map some

end Node

/-- Fields of an object that are present, each once. -/
structure Fields where
  /-- The names and values found. -/
  found : List (String × Node)

namespace Fields

/-- The value of a field, if it is present. -/
def get? (f : Fields) (name : String) : Option Node := f.found.lookup name

/-- Read a field that takes a default where it is absent. -/
def read {α : Type} (f : Fields) (name : String) (value : Node → Option α) (dflt : α) : Option α :=
  match f.get? name with
  | none => some dflt
  | some n => value n

/-- Read a field that has to be present. -/
def require {α : Type} (f : Fields) (name : String) (value : Node → Option α) : Option α :=
  (f.get? name).bind value

/-- Read a field that may be absent or null. -/
def optional {α : Type} (f : Fields) (name : String) (value : Node → Option α) :
    Option (Option α) :=
  f.read name (Node.optional? value) none

/-- Read a field that holds a string. -/
def string (f : Fields) (name : String) : Option String := f.read name Node.string? ""

/-- Read a field that holds a truth value. -/
def flag (f : Fields) (name : String) : Option Bool := f.read name Node.bool? false

/-- Read a field that holds a list. -/
def list {α : Type} (f : Fields) (name : String) (item : Node → Option α) : Option (List α) :=
  f.read name (Node.list? item) []

/-- Read a field that holds a list of strings. -/
def strings (f : Fields) (name : String) : Option (List String) := f.list name Node.string?

/-- Read a field that holds a dictionary. -/
def dict {α : Type} (f : Fields) (name : String) (value : Node → Option α) :
    Option (Dict String α) :=
  f.read name (Node.dict? value) ∅

/-- Add a field, which must not be there yet. -/
def add? (f : Fields) (name : String) (value : Node) : Option Fields :=
  if (f.get? name).isSome then none else some ⟨(name, value) :: f.found⟩

end Fields

namespace Node

/-- The field that a key names: by its name, or in a settled mapping by its position. -/
def fieldName? (names : List String) : Node → Option (Option String)
  | .num (.int i) => if 0 ≤ i then some names[i.toNat]? else none
  | n => n.text?.map fun s => if names.contains s then some s else none

/-- The fields of a mapping that are among the names; all others are passed over unread. -/
def fieldsOf? (names : List String) : List (Node × Node) → Option Fields
  | [] => some ⟨[]⟩
  | (k, x) :: rest => do
    let f ← fieldsOf? names rest
    match ← fieldName? names k with
    | some name => f.add? name x
    | none => some f

/-- The fields of a type that ignores what it does not know. A settled list gives them by position:
it must not be longer than the list of names, nor shorter than `least`. -/
def record? (names : List String) (least : Nat) : Node → Option Fields
  | .seq .settled items =>
    if least ≤ items.length ∧ items.length ≤ names.length then some ⟨names.zip items⟩ else none
  | .map _ entries => fieldsOf? names entries
  | .scalar s => if s.isBlank then some ⟨[]⟩ else none
  | _ => none

/-- Split the entries of a mapping into the named fields and the rest, whose kinds are settled. -/
def splitFields? (names : List String) : List (Node × Node) → Option (Fields × List (String × Node))
  | [] => some (⟨[]⟩, [])
  | (k, x) :: rest => do
    let (f, others) ← splitFields? names rest
    let key ← k.text?
    if names.contains key then
      let f ← f.add? key x
      return (f, others)
    else
      let y ← x.settled?
      return (f, (key, y) :: others)

/-- The named fields of a mapping and the rest, whose kinds are settled. -/
def open? (names : List String) (n : Node) : Option (Fields × List (String × Node)) := do
  let entries ← n.entries?
  splitFields? names entries

/-- The fields of a type that keeps what it does not know: the named fields, and all others as a
dictionary of free values. -/
def extensible? (names : List String) (n : Node) : Option (Fields × Dict String Json) := do
  let (f, others) ← n.open? names
  let pairs ← others.mapM fun e => do
    let j ← e.2.json?
    return (e.1, j)
  return (f, Dict.ofList pairs)

end Node

end Swagger
