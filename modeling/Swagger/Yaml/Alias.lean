import Swagger.Node
import Swagger.Yaml.Tree

/-! # References inside a YAML document
A node may be named and its content be used again. Names get numbers in the order of the text: a new
name the number of names known before, and a name used again the number of names known. A number
means the last node that got it.

* `Tree.number?` — the tree with numbers in the place of names; none if a name is unknown.
* `Tree.targets` — the nodes that have a number.
* `Tree.toNode` — the node of a document, with references replaced by the content they stand for. Only
  so many levels and references are followed that a small text does not get out of hand. -/

namespace Swagger

namespace Yaml

namespace Tree

/-- The names known, each with its number. -/
abbrev Anchors := Dict String Nat

/-- The number of a node, and the names known after it. -/
def numberAnchor (anchors : Anchors) : Option String → Option Nat × Anchors
  | none => (none, anchors)
  | some name => (some anchors.entries.length, anchors.insert name anchors.entries.length)

mutual

/-- The tree with numbers in the place of names, and the names known after it. -/
def number? (anchors : Anchors) : Tree String → Option (Tree Nat × Anchors)
  | .alias name => (anchors.find? name).map fun n => (.alias n, anchors)
  | .scalar a s =>
    let (n, anchors) := numberAnchor anchors a
    some (.scalar n s, anchors)
  | .seq a tag items => do
    let (n, anchors) := numberAnchor anchors a
    let (items, anchors) ← numberItems? anchors items
    return (.seq n tag items, anchors)
  | .map a tag entries => do
    let (n, anchors) := numberAnchor anchors a
    let (entries, anchors) ← numberEntries? anchors entries
    return (.map n tag entries, anchors)

/-- The items with numbers in the place of names. -/
def numberItems? (anchors : Anchors) : List (Tree String) → Option (List (Tree Nat) × Anchors)
  | [] => some ([], anchors)
  | x :: rest => do
    let (y, anchors) ← number? anchors x
    let (ys, anchors) ← numberItems? anchors rest
    return (y :: ys, anchors)

/-- The entries with numbers in the place of names. -/
def numberEntries? (anchors : Anchors) :
    List (Tree String × Tree String) → Option (List (Tree Nat × Tree Nat) × Anchors)
  | [] => some ([], anchors)
  | (k, x) :: rest => do
    let (l, anchors) ← number? anchors k
    let (y, anchors) ← number? anchors x
    let (ys, anchors) ← numberEntries? anchors rest
    return ((l, y) :: ys, anchors)

end

/-- A node under its number, if it has one. -/
def numbered (t : Tree Nat) : Option Nat → List (Nat × Tree Nat)
  | none => []
  | some n => [(n, t)]

mutual

/-- The nodes that have a number, in the order of the text. -/
def targets : Tree Nat → List (Nat × Tree Nat)
  | .alias _ => []
  | .scalar n s => numbered (.scalar n s) n
  | .seq n tag items => numbered (.seq n tag items) n ++ itemsTargets items
  | .map n tag entries => numbered (.map n tag entries) n ++ entriesTargets entries

/-- The nodes among the items that have a number. -/
def itemsTargets : List (Tree Nat) → List (Nat × Tree Nat)
  | [] => []
  | x :: rest => targets x ++ itemsTargets rest

/-- The nodes among the keys and values that have a number. -/
def entriesTargets : List (Tree Nat × Tree Nat) → List (Nat × Tree Nat)
  | [] => []
  | (k, x) :: rest => targets k ++ targets x ++ entriesTargets rest

end

mutual

/-- The number of scalars and references, and of the ends of collections. -/
def weight : Tree Nat → Nat
  | .alias _ => 1
  | .scalar _ _ => 1
  | .seq _ _ items => itemsWeight items + 2
  | .map _ _ entries => entriesWeight entries + 2

/-- The weight of all items. -/
def itemsWeight : List (Tree Nat) → Nat
  | [] => 0
  | x :: rest => weight x + itemsWeight rest

/-- The weight of all keys and values. -/
def entriesWeight : List (Tree Nat × Tree Nat) → Nat
  | [] => 0
  | (k, x) :: rest => weight k + weight x + entriesWeight rest

end

/-- Where a collection with a tag stands. -/
def form : Option String → Form
  | some tag => if tag.toList.head? == some '!' then .tagged else .written
  | none => .written

mutual

/-- The node of a tree, given the last node for each number first, the number of references that may
still be followed and, as the first argument, the number of levels that may still be opened. -/
def expand (targets : List (Nat × Tree Nat)) : Nat → Tree Nat → Nat → Node × Nat
  | _, .scalar _ s, jumps => (.scalar s, jumps)
  | 0, .seq _ _ _, jumps => (.unreadable, jumps)
  | 0, .map _ _ _, jumps => (.unreadable, jumps)
  | levels + 1, .seq _ tag items, jumps =>
    let r := expandItems targets levels items jumps
    (.seq (form tag) r.1, r.2)
  | levels + 1, .map _ tag entries, jumps =>
    let r := expandEntries targets levels entries jumps
    (.map (form tag) r.1, r.2)
  | levels, .alias n, jumps =>
    if jumps = 0 then (.unreadable, 0)
    else
      match levels, targets.lookup n with
      | _, some (.scalar _ s) => (.scalar s, jumps - 1)
      | levels + 1, some (.seq _ tag items) =>
        let r := expandItems targets levels items (jumps - 1)
        (.seq (form tag) r.1, r.2)
      | levels + 1, some (.map _ tag entries) =>
        let r := expandEntries targets levels entries (jumps - 1)
        (.map (form tag) r.1, r.2)
      | _, _ => (.unreadable, jumps - 1)
  termination_by levels t _ => (levels, sizeOf t)

/-- The nodes of the items. -/
def expandItems (targets : List (Nat × Tree Nat)) (levels : Nat) :
    List (Tree Nat) → Nat → List Node × Nat
  | [], jumps => ([], jumps)
  | x :: rest, jumps =>
    let r := expand targets levels x jumps
    let rs := expandItems targets levels rest r.2
    (r.1 :: rs.1, rs.2)
  termination_by l _ => (levels, sizeOf l)

/-- The nodes of the keys and values. -/
def expandEntries (targets : List (Nat × Tree Nat)) (levels : Nat) :
    List (Tree Nat × Tree Nat) → Nat → List (Node × Node) × Nat
  | [], jumps => ([], jumps)
  | (k, x) :: rest, jumps =>
    let rk := expand targets levels k jumps
    let rx := expand targets levels x rk.2
    let rs := expandEntries targets levels rest rx.2
    ((rk.1, rx.1) :: rs.1, rs.2)
  termination_by l _ => (levels, sizeOf l)

end

/-- The levels of collections that may stand inside each other. -/
def maxLevels : Nat := 128

/-- The node of a document, with references replaced by the content they stand for. -/
def toNode (t : Tree Nat) : Node := (expand t.targets.reverse maxLevels t (100 * t.weight)).1

end Tree

end Yaml

end Swagger
