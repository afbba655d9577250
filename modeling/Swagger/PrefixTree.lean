import Swagger.Dict

/-! # Prefix trees
A set of words, kept so that one walk along a text tells whether some word begins it.

* `PrefixTree` — a node says whether a word ends here and where each byte leads.
* `PrefixTree.insert`, `PrefixTree.ofWords` — adding words.
* `PrefixTree.beginsWith` — whether some word begins a text. -/

namespace Swagger

/-- A set of words. -/
inductive PrefixTree where
  /-- A node: whether a word ends here, and the nodes that the next byte leads to. -/
  | node (ends : Bool) (children : Dict UInt8 PrefixTree)

namespace PrefixTree

/-- The set without words. -/
def empty : PrefixTree := .node false ⟨[]⟩

instance : Inhabited PrefixTree := ⟨empty⟩

/-- Whether a word ends at the root. -/
def ends : PrefixTree → Bool
  | .node e _ => e

/-- The nodes that a byte leads to. -/
def children : PrefixTree → Dict UInt8 PrefixTree
  | .node _ cs => cs

/-- The bytes of a text. -/
def bytes (s : String) : List UInt8 := s.toUTF8.toList

/-- Add a word given by its bytes. -/
def insertBytes : List UInt8 → PrefixTree → PrefixTree
  | [], t => .node true t.children
  | b :: rest, t =>
    .node t.ends (t.children.insert b (insertBytes rest ((t.children.find? b).getD empty)))

/-- Add a word. -/
def insert (t : PrefixTree) (word : String) : PrefixTree := insertBytes (bytes word) t

/-- The set of the words of a list. -/
def ofWords (words : List String) : PrefixTree := words.foldl insert empty

/-- Whether some word begins the bytes of a text. -/
def beginsWithBytes : List UInt8 → PrefixTree → Bool
  | [], t => t.ends
  | b :: rest, t =>
    t.ends ||
      match t.children.find? b with
      | some child => beginsWithBytes rest child
      | none => false

/-- Whether some word begins a text. -/
def beginsWith (t : PrefixTree) (s : String) : Bool := beginsWithBytes (bytes s) t

end PrefixTree

end Swagger
