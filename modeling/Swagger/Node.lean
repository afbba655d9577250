import Swagger.Json
import Swagger.Yaml.Scalar

/-! # Nodes of a configuration text
What a JSON or YAML text says before anything is known about the type that will be read from it. A
JSON text determines the kind of every value; a YAML scalar takes its kind from the field it is read
for.

* `Node` — a value as written; an unreadable one does no harm where nobody looks at it.
* `Node.ofJson` — a JSON value as a node.
* `Node.settled?` — the node with every scalar's kind decided, as needed where the type to be read is
  only found by looking at the value.
* `Node.json?` — the node as a free JSON value. -/

namespace Swagger

/-- Where a list or mapping stands. -/
inductive Form where
  /-- In a JSON text, or in a value whose kinds are settled. -/
  | settled
  /-- In a YAML text. -/
  | written
  /-- In a YAML text, under a tag of the document's own. -/
  | tagged
deriving DecidableEq

/-- A value as written. -/
inductive Node where
  /-- The value null. -/
  | null
  /-- A truth value. -/
  | bool (value : Bool)
  /-- A number. -/
  | num (value : Number)
  /-- A string, and whether it was written without escapes. -/
  | str (value : String) (verbatim : Bool)
  /-- A YAML scalar. -/
  | scalar (value : Yaml.Scalar)
  /-- A list. -/
  | seq (form : Form) (items : List Node)
  /-- A mapping, in the order of the text, repeated keys included. -/
  | map (form : Form) (entries : List (Node × Node))
  /-- A value that may be skipped but not read: a number out of range, half a surrogate pair, or
  too many levels. -/
  | unreadable
deriving Inhabited

namespace Node

mutual

/-- A JSON value as a node. -/
def ofJson : Json → Node
  | .null => .null
  | .bool b => .bool b
  | .num n => .num n
  | .str s => .str s true
  | .arr items => .seq .settled (ofItems items)
  | .obj members => .map .settled (ofMembers members)

/-- The items of an array as nodes. -/
def ofItems : List Json → List Node
  | [] => []
  | x :: rest => ofJson x :: ofItems rest

/-- The members of an object as nodes. -/
def ofMembers : List (String × Json) → List (Node × Node)
  | [] => []
  | (k, x) :: rest => (.str k true, ofJson x) :: ofMembers rest

end

/-- The node of what a plain scalar stands for; integers too wide for every field have none. -/
def ofPlain? : Yaml.Plain → Option Node
  | .null => some .null
  | .bool b => some (.bool b)
  | .int i => some (.num (.int i))
  | .wideInt => none
  | .real d => some (.num (.real d))
  | .text s => some (.str s true)

mutual

/-- The node with the kind of every scalar decided. -/
def settled? : Node → Option Node
  | .scalar s => s.resolve?.bind ofPlain?
  | .seq .tagged _ => none
  | .seq _ items => (settledItems? items).map (.seq .settled)
  | .map .tagged _ => none
  | .map _ entries => (settledEntries? entries).map (.map .settled)
  | .unreadable => none
  | n => some n

/-- The items with all kinds decided. -/
def settledItems? : List Node → Option (List Node)
  | [] => some []
  | x :: rest => do
    let y ← settled? x
    let ys ← settledItems? rest
    return y :: ys

/-- The keys and values with all kinds decided. -/
def settledEntries? : List (Node × Node) → Option (List (Node × Node))
  | [] => some []
  | (k, x) :: rest => do
    let k' ← settled? k
    let y ← settled? x
    let ys ← settledEntries? rest
    return (k', y) :: ys

end

/-- The text of a node that can stand for a string: a string, or any YAML scalar as it is written. -/
def text? : Node → Option String
  | .str s _ => some s
  | .scalar s => some s.text
  | _ => none

/-- A number as a free value: what is not finite becomes null. -/
def freeNumber : Number → Json
  | .int i => .num (.int i)
  | .real d => if d.isFinite then .num (.real d) else .null

/-- What a plain scalar stands for, as a free value. -/
def freePlain? : Yaml.Plain → Option Json
  | .null => some .null
  | .bool b => some (.bool b)
  | .int i => some (.num (.int i))
  | .wideInt => none
  | .real d => some (freeNumber (.real d))
  | .text s => some (.str s)

mutual

/-- The node as a free JSON value. Keys are strings, and of a repeated key the last value counts. -/
def json? : Node → Option Json
  | .null => some .null
  | .bool b => some (.bool b)
  | .num n => some (freeNumber n)
  | .str s _ => some (.str s)
  | .scalar s => s.resolve?.bind freePlain?
  | .seq .tagged _ => none
  | .seq _ items => (jsonItems? items).map .arr
  | .map .tagged _ => none
  | .map _ entries => (jsonMembers? entries).map fun ms => .ofDict (Dict.ofList ms)
  | .unreadable => none

/-- The items as free JSON values. -/
def jsonItems? : List Node → Option (List Json)
  | [] => some []
  | x :: rest => do
    let y ← json? x
    let ys ← jsonItems? rest
    return y :: ys

/-- The entries as members of a JSON object. -/
def jsonMembers? : List (Node × Node) → Option (List (String × Json))
  | [] => some []
  | (k, x) :: rest => do
    let key ← k.text?
    let y ← json? x
    let ys ← jsonMembers? rest
    return (key, y) :: ys

end

mutual

/-- The number of levels of a node. -/
def depth : Node → Nat
  | .seq _ items => itemsDepth items + 1
  | .map _ entries => entriesDepth entries + 1
  | _ => 0

/-- The greatest number of levels among the items. -/
def itemsDepth : List Node → Nat
  | [] => 0
  | x :: rest => max (depth x) (itemsDepth rest)

/-- The greatest number of levels among the values. -/
def entriesDepth : List (Node × Node) → Nat
  | [] => 0
  | (_, x) :: rest => max (depth x) (entriesDepth rest)

end

end Node

end Swagger
