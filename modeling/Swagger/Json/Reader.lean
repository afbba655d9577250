import Swagger.Json.Numeral

/-! # Reading JSON text
The grammar of JSON, strictly: one value, blanks around its parts, and nothing else. What is well
formed but has no value stays an unreadable node, so that it is only refused where it is looked at.

* `Text.string?` — a string after its opening quote.
* `Text.number?` — a number.
* `Text.value?` — any value; at most 127 arrays and objects may stand inside each other.
* `Node.ofJsonText?` — a whole text. -/

namespace Swagger

namespace Json

namespace Text

/-- The blanks of JSON. -/
def isBlank (c : Char) : Bool := c == ' ' || c == '\n' || c == '\r' || c == '\t'

/-- The text without blanks in front. -/
def skipBlanks (cs : List Char) : List Char := cs.dropWhile isBlank

/-- A piece of a string: a character, or a sixteen-bit unit given by its code. -/
inductive Piece where
  /-- A character that stands for itself. -/
  | char (c : Char)
  /-- A character written as an escape. -/
  | escaped (c : Char)
  /-- A unit given by four hexadecimal digits. -/
  | unit (n : Nat)

/-- The four hexadecimal digits of a unit. -/
def unit? (a b c d : Char) : Option Nat := Yaml.digits? 16 [a, b, c, d]

/-- The character that an escape of one letter stands for. -/
def simpleEscape? : Char → Option Char
  | '\x22' => some '\x22'
  | '\x5c' => some '\x5c'
  | '/' => some '/'
  | 'b' => some '\x08'
  | 'f' => some '\x0c'
  | 'n' => some '\n'
  | 'r' => some '\r'
  | 't' => some '\t'
  | _ => none

/-- The pieces of a string up to its closing quote, after those already found, and the text after
it. -/
def pieces? (found : List Piece) : List Char → Option (List Piece × List Char)
  | [] => none
  | '\x22' :: rest => some (found.reverse, rest)
  | '\x5c' :: 'u' :: a :: b :: c :: d :: rest =>
    match unit? a b c d with
    | some n => pieces? (.unit n :: found) rest
    | none => none
  | '\x5c' :: e :: rest =>
    match simpleEscape? e with
    | some c => pieces? (.escaped c :: found) rest
    | none => none
  | c :: rest => if c.toNat < 0x20 || c == '\x5c' then none else pieces? (.char c :: found) rest

/-- The characters of the pieces, after those already found. The two halves of a surrogate pair follow
each other; half a pair has no character. -/
def characters? (found : List Char) : List Piece → Option (List Char)
  | [] => some found.reverse
  | .char c :: rest => characters? (c :: found) rest
  | .escaped c :: rest => characters? (c :: found) rest
  | .unit n :: .unit m :: rest =>
    if 0xd800 ≤ n ∧ n < 0xdc00 then
      if 0xdc00 ≤ m ∧ m < 0xe000 then
        characters? (Char.ofNat (0x10000 + (n - 0xd800) * 0x400 + (m - 0xdc00)) :: found) rest
      else none
    else if 0xdc00 ≤ n ∧ n < 0xe000 then none
    else characters? (Char.ofNat n :: found) (.unit m :: rest)
  | .unit n :: rest =>
    if 0xd800 ≤ n ∧ n < 0xe000 then none else characters? (Char.ofNat n :: found) rest

/-- Whether a piece is a character that stands for itself. -/
def Piece.isPlain : Piece → Bool
  | .char _ => true
  | _ => false

/-- A string after its opening quote: the node and the text after the closing quote. -/
def string? (cs : List Char) : Option (Node × List Char) := do
  let (ps, rest) ← pieces? [] cs
  match characters? [] ps with
  | some s => return (.str (String.ofList s) (ps.all Piece.isPlain), rest)
  | none => return (.unreadable, rest)

/-- The value of a digit character. -/
def digitValue (c : Char) : Nat := c.toNat - '0'.toNat

/-- The digits in front of a text, and the rest. -/
def digits (cs : List Char) : List Nat × List Char :=
  ((cs.takeWhile Char.isDigit).map digitValue, cs.dropWhile Char.isDigit)

/-- The digits after the point, of which there is at least one where there is a point. -/
def frac? (cs : List Char) : Option (List Nat × List Char) :=
  match cs with
  | '.' :: rest =>
    let d := digits rest
    if d.1.isEmpty then none else some d
  | _ => some ([], cs)

/-- The exponent, whose digits may not be missing. -/
def exponent? (cs : List Char) : Option (Option Exponent × List Char) :=
  let signed (negative : Bool) (rest : List Char) : Option (Option Exponent × List Char) :=
    let d := digits rest
    if d.1.isEmpty then none else some (some ⟨negative, d.1⟩, d.2)
  match cs with
  | c :: rest =>
    if c == 'e' || c == 'E' then
      match rest with
      | '-' :: rest => signed true rest
      | '+' :: rest => signed false rest
      | _ => signed false rest
    else some (none, cs)
  | [] => some (none, cs)

/-- A number and the text after it. Zero is the only number that begins with a zero digit. -/
def number? (cs : List Char) : Option (Node × List Char) := do
  let negative := cs.head? == some '-'
  let body := if negative then cs.drop 1 else cs
  let (whole, rest) := digits body
  if whole.isEmpty then none
  else if whole.head? == some 0 && whole.length != 1 then none
  else do
    let (frac, rest) ← frac? rest
    let (exponent, rest) ← exponent? rest
    let n : Numeral := ⟨negative, whole, frac, exponent⟩
    match n.value? with
    | some v => return (.num v, rest)
    | none => return (.unreadable, rest)

/-- The text after a word, if it begins with it. -/
def word? (w : String) (cs : List Char) : Option (List Char) :=
  if w.toList.isPrefixOf cs then some (cs.drop w.length) else none

mutual

/-- A value and the text after it. The first argument bounds the number of steps, the second is the
number of levels that may still be opened. -/
def value? : Nat → Nat → List Char → Option (Node × List Char)
  | 0, _, _ => none
  | fuel + 1, levels, cs =>
    match skipBlanks cs with
    | '\x22' :: rest => string? rest
    | '[' :: rest =>
      match skipBlanks rest with
      | ']' :: rest => some (if levels = 0 then .unreadable else .seq .settled [], rest)
      | rest => do
        let (items, rest) ← items? fuel (levels - 1) rest
        return (if levels = 0 then .unreadable else .seq .settled items, rest)
    | '\x7b' :: rest =>
      match skipBlanks rest with
      | '\x7d' :: rest => some (if levels = 0 then .unreadable else .map .settled [], rest)
      | rest => do
        let (members, rest) ← members? fuel (levels - 1) rest
        return (if levels = 0 then .unreadable else .map .settled members, rest)
    | 't' :: rest => (word? "rue" rest).map fun rest => (.bool true, rest)
    | 'f' :: rest => (word? "alse" rest).map fun rest => (.bool false, rest)
    | 'n' :: rest => (word? "ull" rest).map fun rest => (.null, rest)
    | rest => number? rest

/-- The items of an array up to its closing bracket. -/
def items? : Nat → Nat → List Char → Option (List Node × List Char)
  | 0, _, _ => none
  | fuel + 1, levels, cs => do
    let (x, rest) ← value? fuel levels cs
    match skipBlanks rest with
    | ',' :: rest =>
      let (xs, rest) ← items? fuel levels rest
      return (x :: xs, rest)
    | ']' :: rest => return ([x], rest)
    | _ => none

/-- The members of an object up to its closing brace. -/
def members? : Nat → Nat → List Char → Option (List (Node × Node) × List Char)
  | 0, _, _ => none
  | fuel + 1, levels, cs => do
    let (k, rest) ← match skipBlanks cs with
      | '\x22' :: rest => string? rest
      | _ => none
    let (x, rest) ← match skipBlanks rest with
      | ':' :: rest => value? fuel levels rest
      | _ => none
    match skipBlanks rest with
    | ',' :: rest =>
      let (xs, rest) ← members? fuel levels rest
      return ((k, x) :: xs, rest)
    | '\x7d' :: rest => return ([(k, x)], rest)
    | _ => none

end

/-- The levels of arrays and objects that may stand inside each other. -/
def maxLevels : Nat := 127

end Text

end Json

/-- The node of a JSON text. Every step of the reader takes a character, so twice their number is
enough. -/
def Node.ofJsonText? (s : String) : Option Node := do
  let cs := s.toList
  let (n, rest) ← Json.Text.value? (2 * cs.length + 2) Json.Text.maxLevels cs
  if (Json.Text.skipBlanks rest).isEmpty then return n else none

/-- The free value of a JSON text. -/
def Json.ofText? (s : String) : Option Json := (Node.ofJsonText? s).bind Node.json?

end Swagger
