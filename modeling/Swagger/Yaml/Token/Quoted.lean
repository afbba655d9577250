import Swagger.Yaml.Scalar
import Swagger.Yaml.Token.Gap

/-! # Quoted scalars
Between single quotes only the quote itself is written specially, namely twice. Between double quotes
a backslash begins an escape, and at the end of a line it takes the line break away.

* `Quote` — the two kinds.
* `escapeLetter?`, `escapeWidth?` — the escapes of one letter, and those by code point.
* `Cursor.quoted?` — the text of a quoted scalar and the place after it. -/

namespace Swagger

namespace Yaml

/-- The two kinds of quotes. -/
inductive Quote where
  /-- Single. -/
  | single
  /-- Double. -/
  | double
deriving DecidableEq

/-- The character of a quote. -/
def Quote.char : Quote → Char
  | .single => '\x27'
  | .double => '\x22'

/-- The character that a letter after a backslash stands for. -/
def escapeLetter? : Char → Option Char
  | '0' => some '\x00'
  | 'a' => some '\x07'
  | 'b' => some '\x08'
  | 't' => some '\t'
  | '\t' => some '\t'
  | 'n' => some '\n'
  | 'v' => some '\x0b'
  | 'f' => some '\x0c'
  | 'r' => some '\r'
  | 'e' => some '\x1b'
  | ' ' => some ' '
  | '\x22' => some '\x22'
  | '/' => some '/'
  | '\x5c' => some '\x5c'
  | 'N' => some '\u0085'
  | '_' => some '\u00a0'
  | 'L' => some '\u2028'
  | 'P' => some '\u2029'
  | _ => none

/-- The number of hexadecimal digits after a letter that announces a code point. -/
def escapeWidth? : Char → Option Nat
  | 'x' => some 2
  | 'u' => some 4
  | 'U' => some 8
  | _ => none

/-- The character with a code point, if there is one. -/
def character? (n : Nat) : Option Char :=
  if n < 0xd800 ∨ (0xe000 ≤ n ∧ n ≤ 0x10ffff) then some (Char.ofNat n) else none

/-- What an escape stands for, after the backslash: a character and the number of characters that
write it. -/
def escape? : List Char → Option (Char × Nat)
  | [] => none
  | c :: rest =>
    match escapeLetter? c with
    | some d => some (d, 1)
    | none => do
      let width ← escapeWidth? c
      let digits := rest.take width
      if digits.length < width then none
      else do
        let n ← digits? 16 digits
        let d ← character? n
        return (d, width + 1)

/-- How a word of a quoted scalar ends. -/
inductive WordEnd where
  /-- Before a gap or the end of the text. -/
  | gap
  /-- Before the closing quote. -/
  | quote
  /-- After a line break that does not count. -/
  | escapedBreak

/-- A word of a quoted scalar, after the characters already found: its text, the place after it and
how it ends. Each step takes a character, of which at most `fuel` are left. -/
def Cursor.quotedWord? (q : Quote) : Nat → List Char → Cursor → Option (List Char × Cursor × WordEnd)
  | 0, found, c => some (found.reverse, c, .gap)
  | fuel + 1, found, c =>
    match c.rest with
    | [] => some (found.reverse, c, .gap)
    | d :: rest =>
      if isGap d then some (found.reverse, c, .gap)
      else if q = .single ∧ d = q.char ∧ rest.head? = some q.char then
        quotedWord? q fuel (d :: found) (c.skip 2)
      else if d = q.char then some (found.reverse, c, .quote)
      else if q = .double ∧ d = '\x5c' then
        if rest.head?.any isBreak then some (found.reverse, c.next.skipBreak, .escapedBreak)
        else
          match escape? rest with
          | none => none
          | some (e, n) => quotedWord? q fuel (e :: found) (c.skip (n + 1))
      else quotedWord? q fuel (d :: found) c.next

/-- The rest of a quoted scalar after the text already found. A mark of a document must not stand in
it. Each step takes a character at least, of which less than `fuel` are left. -/
def Cursor.quotedFrom? (q : Quote) : Nat → List Char → Cursor → Option (List Char × Cursor)
  | 0, _, _ => none
  | fuel + 1, text, c =>
    if c.atDocumentMark || c.rest.isEmpty then none
    else do
      let (word, c, ending) ← c.quotedWord? q fuel []
      let text := text ++ word
      let begun : Gap := match ending with
        | .escapedBreak => .broken [] []
        | _ => .inline []
      if c.rest.head? == some q.char then return (text, c.next)
      else do
        let (g, c) ← c.gap? 0 fuel begun
        quotedFrom? q fuel (text ++ g.fold) c

/-- The text of a quoted scalar whose opening quote stands here, where at most `fuel` characters are
left, and the place after it. -/
def Cursor.quoted? (c : Cursor) (fuel : Nat) (q : Quote) : Option (List Char × Cursor) :=
  c.next.quotedFrom? q fuel []

end Yaml

end Swagger
