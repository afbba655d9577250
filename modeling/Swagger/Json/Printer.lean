import Swagger.Json
import Swagger.Decimal.Shortest

/-! # JSON text
The compact and the indented text of a value.

* `Json.quoted` — a string between quotes, with only the escapes that JSON demands.
* `Json.compact` — no blanks at all; this text is also what shared parameters are compared by.
* `Json.pretty` — one member or item a line, two blanks for each level; what is empty stays on its
  line. -/

namespace Swagger

namespace Json

/-- Positional from `0.00001` to below `1e+16`; an exponent always has its sign; what is no finite
number is `null`. -/
def numberLayout : DecimalLayout := ⟨-4, 16, true, "null", "null"⟩

/-- The text of a number. -/
def numberText : Number → String
  | .int i => toString i
  | .real d => if d.isFinite then numberLayout.write d else "null"

/-- The lower-case hexadecimal digit of a number below sixteen. -/
def hexDigit (n : Nat) : Char := (Nat.digitChar n).toLower

/-- The text of one character of a string. -/
def escape (c : Char) : List Char :=
  match c with
  | '\x22' => ['\x5c', '\x22']
  | '\x5c' => ['\x5c', '\x5c']
  | '\x08' => ['\x5c', 'b']
  | '\x0c' => ['\x5c', 'f']
  | '\n' => ['\x5c', 'n']
  | '\r' => ['\x5c', 'r']
  | '\t' => ['\x5c', 't']
  | c =>
    if c.toNat < 0x20 then
      ['\x5c', 'u', '0', '0', hexDigit (c.toNat / 16), hexDigit (c.toNat % 16)]
    else [c]

/-- The text of a string. -/
def quoted (s : String) : String :=
  String.ofList ('\x22' :: (s.toList.flatMap escape ++ ['\x22']))

mutual

/-- The text of a value without blanks. -/
def compact : Json → String
  | .null => "null"
  | .bool true => "true"
  | .bool false => "false"
  | .num n => numberText n
  | .str s => quoted s
  | .arr items => "[" ++ ",".intercalate (compactItems items) ++ "]"
  | .obj members => "\x7b" ++ ",".intercalate (compactMembers members) ++ "\x7d"

/-- The texts of the items. -/
def compactItems : List Json → List String
  | [] => []
  | x :: rest => compact x :: compactItems rest

/-- The texts of the members. -/
def compactMembers : List (String × Json) → List String
  | [] => []
  | (k, x) :: rest => (quoted k ++ ":" ++ compact x) :: compactMembers rest

end

/-- A line break, followed by the blanks of a level. -/
def newline (level : Nat) : String := "\n" ++ String.ofList (List.replicate (2 * level) ' ')

/-- Items between brackets, each on a line of its own one level deeper. -/
def block (opening closing : String) (level : Nat) (items : List String) : String :=
  if items.isEmpty then opening ++ closing
  else
    opening ++ newline (level + 1) ++ ("," ++ newline (level + 1)).intercalate items ++
      newline level ++ closing

mutual

/-- The indented text of a value that stands at a level. -/
def prettyAt (level : Nat) : Json → String
  | .null => "null"
  | .bool true => "true"
  | .bool false => "false"
  | .num n => numberText n
  | .str s => quoted s
  | .arr items => block "[" "]" level (prettyItems (level + 1) items)
  | .obj members => block "\x7b" "\x7d" level (prettyMembers (level + 1) members)

/-- The indented texts of the items. -/
def prettyItems (level : Nat) : List Json → List String
  | [] => []
  | x :: rest => prettyAt level x :: prettyItems level rest

/-- The indented texts of the members. -/
def prettyMembers (level : Nat) : List (String × Json) → List String
  | [] => []
  | (k, x) :: rest => (quoted k ++ ": " ++ prettyAt level x) :: prettyMembers level rest

end

/-- The indented text of a value. -/
def pretty (j : Json) : String := prettyAt 0 j

/-- There is one text for every item. -/
@[simp] theorem length_compactItems (l : List Json) : (compactItems l).length = l.length := by
  induction l with
  | nil => rfl
  | cons x rest ih => simp [compactItems, ih]

/-- There is one text for every member. -/
@[simp] theorem length_compactMembers (l : List (String × Json)) :
    (compactMembers l).length = l.length := by
  induction l with
  | nil => rfl
  | cons x rest ih => obtain ⟨k, x⟩ := x; simp [compactMembers, ih]

end Json

end Swagger
