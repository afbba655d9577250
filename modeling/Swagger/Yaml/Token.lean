import Swagger.Yaml.Scalar

/-! # Tokens of a YAML text
* `Token` — the pieces that a text is cut into. Some of them have no characters of their own: where
  indentation opens or closes a collection, and where a word turns out to be a key. -/

namespace Swagger

namespace Yaml

/-- The kind of a collection. -/
inductive Collection where
  /-- A list of items. -/
  | sequence
  /-- Keys with values. -/
  | mapping
deriving DecidableEq

/-- A piece of a text. -/
inductive Token where
  /-- The version that a document demands. -/
  | version (major minor : Nat)
  /-- What a handle in front of tags stands for. -/
  | handle (name replacement : String)
  /-- The mark at the start of a document. -/
  | documentStart
  /-- The mark at the end of a document. -/
  | documentEnd
  /-- Indentation opens a collection. -/
  | blockStart (kind : Collection)
  /-- Indentation closes a collection. -/
  | blockEnd
  /-- A bracket or brace opens a collection. -/
  | flowStart (kind : Collection)
  /-- A bracket or brace closes a collection. -/
  | flowEnd (kind : Collection)
  /-- An item of a block sequence follows. -/
  | item
  /-- A comma between items or entries. -/
  | comma
  /-- A key follows. -/
  | key
  /-- A value follows. -/
  | value
  /-- The content of an earlier node. -/
  | alias (name : String)
  /-- A name for the node that follows. -/
  | anchor (name : String)
  /-- A tag: a handle, which may be empty, and what comes after it. -/
  | tag (handle suffix : String)
  /-- A scalar. -/
  | scalar (text : String) (style : Style)
deriving DecidableEq

end Yaml

end Swagger
