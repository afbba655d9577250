import Swagger.Yaml.Token

/-! # The tree of a YAML document
What the tokens of a document say: scalars, lists, mappings and references to earlier nodes.

* `Tree` — a document as written, with names for nodes and references of some type.
* `Tree.node?` and its companions — the grammar, one function for each kind of collection.
* `Tree.ofTokens?` — the tree of a text's only document; a text without one is empty. -/

namespace Swagger

namespace Yaml

/-- A document as written. -/
inductive Tree (ν : Type) where
  /-- The content of a node elsewhere. -/
  | alias (name : ν)
  /-- A scalar. -/
  | scalar (anchor : Option ν) (value : Scalar)
  /-- A list. -/
  | seq (anchor : Option ν) (tag : Option String) (items : List (Tree ν))
  /-- Keys with values. -/
  | map (anchor : Option ν) (tag : Option String) (entries : List (Tree ν × Tree ν))

namespace Tree

/-- What is said in front of a node. -/
structure Properties where
  /-- Its name. -/
  anchor : Option String := none
  /-- Its tag. -/
  tag : Option String := none

/-- A scalar where nothing is written. -/
def blank (p : Properties) : Tree String := .scalar p.anchor ⟨"", .plain, p.tag⟩

/-- What handles in front of tags stand for. -/
abbrev Handles := List (String × String)

/-- The handles that need no directive. -/
def commonHandles : Handles := [("!", "!"), ("!!", "tag:yaml.org,2002:")]

/-- The tag that a handle and a suffix make. -/
def tag? (handles : Handles) (handle suffix : String) : Option String :=
  if handle.isEmpty then some suffix else (handles.lookup handle).map fun r => r ++ suffix

/-- Name and tag in front of a node, in either order, and the tokens after them. -/
def properties? (handles : Handles) : List Token → Option (Properties × List Token)
  | .anchor a :: .tag h s :: rest => (tag? handles h s).map fun t => (⟨some a, some t⟩, rest)
  | .tag h s :: .anchor a :: rest => (tag? handles h s).map fun t => (⟨some a, some t⟩, rest)
  | .anchor a :: rest => some (⟨some a, none⟩, rest)
  | .tag h s :: rest => (tag? handles h s).map fun t => (⟨none, some t⟩, rest)
  | ts => some ({}, ts)

/-- Whether a block collection goes on or ends here, so that nothing is written before. -/
def atBlockMark : List Token → Bool
  | .key :: _ | .value :: _ | .blockEnd :: _ => true
  | _ => false

/-- Whether the items of a block sequence go on or end here. -/
def atItemMark : List Token → Bool
  | .item :: _ | .blockEnd :: _ => true
  | _ => false

/-- Whether a collection in brackets goes on or ends here. -/
def atFlowMark (kind : Collection) : List Token → Bool
  | .comma :: _ => true
  | .flowEnd k :: _ => k == kind
  | _ => false

mutual

/-- A node and the tokens after it. Indentation may open a collection where `block` says so, and a list
need not be indented where `indentless` says so. Each function here takes at least every other step a
token, so `fuel` is twice their number. -/
def node? (handles : Handles) (block indentless : Bool) :
    Nat → List Token → Option (Tree String × List Token)
  | 0, _ => none
  | fuel + 1, ts =>
    match ts with
    | .alias name :: rest => some (.alias name, rest)
    | _ => do
      let (p, ts) ← properties? handles ts
      match ts with
      | .scalar text style :: rest =>
        let tag := if p.tag == some "!" then none else p.tag
        return (.scalar p.anchor ⟨text, style, tag⟩, rest)
      | .flowStart .sequence :: rest => do
        let (items, rest) ← flowItems? handles true fuel rest
        return (.seq p.anchor p.tag items, rest)
      | .flowStart .mapping :: rest => do
        let (entries, rest) ← flowEntries? handles true fuel rest
        return (.map p.anchor p.tag entries, rest)
      | ts =>
        let opens := match ts with
          | .item :: _ => indentless
          | .blockStart _ :: _ => block
          | _ => false
        match opens, ts with
        | true, .item :: _ => do
          let (items, rest) ← indentlessItems? handles fuel ts
          return (.seq p.anchor p.tag items, rest)
        | true, .blockStart .sequence :: rest => do
          let (items, rest) ← blockItems? handles fuel rest
          return (.seq p.anchor p.tag items, rest)
        | true, .blockStart .mapping :: rest => do
          let (entries, rest) ← blockEntries? handles fuel rest
          return (.map p.anchor p.tag entries, rest)
        | _, _ => if p.anchor.isSome || p.tag.isSome then some (blank p, ts) else none

/-- The items of an indented list. -/
def blockItems? (handles : Handles) : Nat → List Token → Option (List (Tree String) × List Token)
  | 0, _ => none
  | fuel + 1, ts =>
    match ts with
    | .item :: rest => do
      let (x, rest) ←
        if atItemMark rest then some (blank {}, rest) else node? handles true false fuel rest
      let (xs, rest) ← blockItems? handles fuel rest
      return (x :: xs, rest)
    | .blockEnd :: rest => some ([], rest)
    | _ => none

/-- The items of a list that is not indented. -/
def indentlessItems? (handles : Handles) :
    Nat → List Token → Option (List (Tree String) × List Token)
  | 0, _ => none
  | fuel + 1, ts =>
    match ts with
    | .item :: rest => do
      let (x, rest) ←
        if atItemMark rest || atBlockMark rest then some (blank {}, rest)
        else node? handles true false fuel rest
      let (xs, rest) ← indentlessItems? handles fuel rest
      return (x :: xs, rest)
    | ts => some ([], ts)

/-- The entries of an indented mapping. -/
def blockEntries? (handles : Handles) :
    Nat → List Token → Option (List (Tree String × Tree String) × List Token)
  | 0, _ => none
  | fuel + 1, ts =>
    match ts with
    | .key :: rest => do
      let (k, rest) ←
        if atBlockMark rest then some (blank {}, rest) else node? handles true true fuel rest
      let (x, rest) ←
        match rest with
        | .value :: rest =>
          if atBlockMark rest then some (blank {}, rest) else node? handles true true fuel rest
        | rest => some (blank {}, rest)
      let (xs, rest) ← blockEntries? handles fuel rest
      return ((k, x) :: xs, rest)
    | .blockEnd :: rest => some ([], rest)
    | _ => none

/-- The items of a list in brackets. A key among them makes a mapping of one entry; where the key
itself is missing, the token that shows this is taken with it. -/
def flowItems? (handles : Handles) (first : Bool) :
    Nat → List Token → Option (List (Tree String) × List Token)
  | 0, _ => none
  | fuel + 1, ts =>
    match ts with
    | .flowEnd .sequence :: rest => some ([], rest)
    | ts => do
      let ts ←
        match first, ts with
        | true, ts => some ts
        | false, .comma :: rest => some rest
        | false, _ => none
      match ts with
      | .flowEnd .sequence :: rest => return ([], rest)
      | .key :: rest => do
        let (k, rest) ←
          match rest with
          | .value :: rest | .comma :: rest | .flowEnd .sequence :: rest => some (blank {}, rest)
          | rest => node? handles false false fuel rest
        let (x, rest) ← flowValue? handles .sequence fuel rest
        let (xs, rest) ← flowItems? handles false fuel rest
        return (.map none none [(k, x)] :: xs, rest)
      | ts => do
        let (x, rest) ← node? handles false false fuel ts
        let (xs, rest) ← flowItems? handles false fuel rest
        return (x :: xs, rest)

/-- The value after a key in brackets, which may be missing. -/
def flowValue? (handles : Handles) (kind : Collection) :
    Nat → List Token → Option (Tree String × List Token)
  | 0, _ => none
  | fuel + 1, ts =>
    match ts with
    | .value :: rest =>
      if atFlowMark kind rest then some (blank {}, rest) else node? handles false false fuel rest
    | rest => some (blank {}, rest)

/-- The entries of a mapping in braces. -/
def flowEntries? (handles : Handles) (first : Bool) :
    Nat → List Token → Option (List (Tree String × Tree String) × List Token)
  | 0, _ => none
  | fuel + 1, ts =>
    match ts with
    | .flowEnd .mapping :: rest => some ([], rest)
    | ts => do
      let ts ←
        match first, ts with
        | true, ts => some ts
        | false, .comma :: rest => some rest
        | false, _ => none
      match ts with
      | .flowEnd .mapping :: rest => return ([], rest)
      | .key :: rest => do
        let missing := atFlowMark .mapping rest || rest.head? == some .value
        let (k, rest) ←
          if missing then some (blank {}, rest) else node? handles false false fuel rest
        let (x, rest) ← flowValue? handles .mapping fuel rest
        let (xs, rest) ← flowEntries? handles false fuel rest
        return ((k, x) :: xs, rest)
      | ts => do
        let (k, rest) ← node? handles false false fuel ts
        let (xs, rest) ← flowEntries? handles false fuel rest
        return ((k, blank {}) :: xs, rest)

end

/-- What the directives of a document say, and the tokens after them. A document demands a version at
most once, and explains a handle at most once. -/
def directives? (versioned : Bool) (handles : Handles) : List Token → Option (Handles × List Token)
  | .version major minor :: rest =>
    if !versioned && major == 1 && (minor == 1 || minor == 2) then directives? true handles rest
    else none
  | .handle name replacement :: rest =>
    if (handles.lookup name).isSome then none
    else directives? versioned ((name, replacement) :: handles) rest
  | ts => some (handles ++ commonHandles, ts)

/-- The tree of a text's only document; a text without one is empty. -/
def ofTokens? (ts : List Token) : Option (Tree String) := do
  let fuel := 2 * ts.length + 2
  if ts.isEmpty then return blank {}
  else
    let (handles, rest) ← directives? false [] ts
    let explicit := rest.length != ts.length || rest.head? == some .documentStart
    let (tree, rest) ←
      match explicit, rest with
      | true, .documentStart :: rest =>
        if rest.isEmpty || rest.head? == some .documentEnd then some (blank {}, rest)
        else node? handles true false fuel rest
      | true, _ => none
      | false, rest => node? handles true false fuel rest
    if (rest.dropWhile (· == .documentEnd)).isEmpty then return tree else none

end Tree

end Yaml

end Swagger
