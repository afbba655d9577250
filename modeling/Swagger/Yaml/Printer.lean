import Swagger.Json
import Swagger.Decimal.Shortest
import Swagger.Yaml.Style

/-! # YAML text
The text of a value in block style: a mapping has an entry a line, a list an item a line, and what is
empty stands in braces or brackets.

* `BlockText.scalarText` — what is no collection, or an empty one.
* `BlockText.entries`, `BlockText.items` — what stands on the lines of a mapping and of a list.
* `Json.yaml` — the text of a value. -/

namespace Swagger

namespace Json

namespace BlockText

open Swagger.Yaml (pad writeScalar isShortKey isBreak)

/-- Positional from `0.00001` to below `1e16`; a positive exponent has no sign; infinities and what is
no number have words. -/
def numberLayout : DecimalLayout := ⟨-4, 16, false, ".inf", ".nan"⟩

/-- The text of a number. -/
def numberText : Number → String
  | .int i => toString i
  | .real d => numberLayout.write d

/-- Whether a text ends at the start of a line, as a literal block may. -/
def endsLine (cs : List Char) : Bool := cs.getLast?.any isBreak

/-- A text, and after it another one on a new line. -/
def thenLine (indent : Nat) (cs next : List Char) : List Char :=
  cs ++ ((if endsLine cs then [] else ['\n']) ++ pad indent ++ next)

/-- Texts on a line each, all in one column. -/
def lines (indent : Nat) : List (List Char) → List Char
  | [] => []
  | [cs] => cs
  | cs :: rest => thenLine indent cs (lines indent rest)

/-- The text of a value that is no collection, or an empty one. -/
def scalarText (indent : Nat) : Json → List Char
  | .null => "null".toList
  | .bool b => (if b then "true" else "false").toList
  | .num n => (numberText n).toList
  | .str s => writeScalar indent s
  | .arr _ => ['[', ']']
  | .obj _ => ['\x7b', '\x7d']

mutual

/-- The text of a value behind the mark of an item, of a long key or of its value, which stands in a
column. A collection begins on the same line, two columns further. -/
def inline (column : Nat) : Json → List Char
  | .arr (x :: rest) => ' ' :: lines (column + 2) (items (column + 2) (x :: rest))
  | .obj (m :: rest) => ' ' :: lines (column + 2) (entries (column + 2) (m :: rest))
  | j => ' ' :: scalarText (column + 2) j

/-- The text of a value behind a short key, which begins in a column. A mapping begins on the next
line, two columns further; a list does so in the same column. -/
def behindKey (column : Nat) : Json → List Char
  | .arr (x :: rest) => '\n' :: (pad column ++ lines column (items column (x :: rest)))
  | .obj (m :: rest) =>
    '\n' :: (pad (column + 2) ++ lines (column + 2) (entries (column + 2) (m :: rest)))
  | j => ' ' :: scalarText (column + 2) j

/-- The texts of the items of a list that begins in a column. -/
def items (column : Nat) : List Json → List (List Char)
  | [] => []
  | x :: rest => ('-' :: inline column x) :: items column rest

/-- The texts of the entries of a mapping that begins in a column. -/
def entries (column : Nat) : List (String × Json) → List (List Char)
  | [] => []
  | (k, x) :: rest =>
    (if isShortKey k then writeScalar (column + 2) k ++ ':' :: behindKey column x
    else thenLine column ('?' :: ' ' :: writeScalar (column + 2) k) (':' :: inline column x)) ::
      entries column rest

end

/-- The text of a value that stands alone, without the line break at its end. -/
def document : Json → List Char
  | .arr (x :: rest) => lines 0 (items 0 (x :: rest))
  | .obj (m :: rest) => lines 0 (entries 0 (m :: rest))
  | j => scalarText 2 j

end BlockText

/-- The text of a value in block style; it ends with a line break. -/
def yaml (j : Json) : String := String.ofList (BlockText.thenLine 0 (BlockText.document j) [])

end Json

end Swagger
