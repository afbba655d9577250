import Swagger.Yaml.Cursor
import Swagger.Yaml.Token

/-! # Names, tags and directives
The parts of a YAML text that are made of ASCII names: names of nodes, tags with their handles, and
the directives in front of a document.

* `Cursor.anchorName?` — the name of a node.
* `Cursor.uri?` — the characters of a tag, octets written in hexadecimal included.
* `Cursor.tag?` — a tag.
* `Cursor.directive?` — a directive, which takes its line. -/

namespace Swagger

namespace Yaml

/-- The name of a node after its mark, and the place after it. -/
def Cursor.anchorName? (c : Cursor) : Option (String × Cursor) :=
  let name := c.takeWhile isNameChar
  let c := c.skip name.length
  let ends := endsWord c.rest ||
    c.rest.head?.any fun d => ['?', ':', ',', ']', '\x7d', '%', '@', '\x60'].contains d
  if name.isEmpty || !ends then none else some (String.ofList name, c)

/-- Characters of a tag that stand for themselves. Some marks of collections may only be written
between angle brackets. -/
def isUriChar (bracketed : Bool) (c : Char) : Bool :=
  isNameChar c ||
    [';', '/', '?', ':', '@', '&', '=', '+', '$', '.', '!', '~', '*', '\x27', '(', ')'].contains c ||
    (bracketed && [',', '[', ']'].contains c)

/-- An octet written in hexadecimal, in front of a text. -/
def octet? : List Char → Option (Nat × List Char)
  | '%' :: a :: b :: rest => (digits? 16 [a, b]).map fun n => (n, rest)
  | _ => none

/-- The number of octets of a character that begins with an octet. -/
def octetWidth? (n : Nat) : Option Nat :=
  if n < 0x80 then some 1
  else if 0xc0 ≤ n ∧ n < 0xe0 then some 2
  else if 0xe0 ≤ n ∧ n < 0xf0 then some 3
  else if 0xf0 ≤ n ∧ n < 0xf8 then some 4
  else none

/-- Further octets of a character: their number, and the value so far. -/
def furtherOctets? : Nat → Nat → List Char → Option (Nat × List Char)
  | 0, value, cs => some (value, cs)
  | n + 1, value, cs => do
    let (octet, rest) ← octet? cs
    if 0x80 ≤ octet ∧ octet < 0xc0 then furtherOctets? n (value * 64 + (octet - 0x80)) rest else none

/-- A character written as octets, and the number of characters that write it. -/
def octets? (cs : List Char) : Option (Char × Nat) := do
  let (first, rest) ← octet? cs
  let width ← octetWidth? first
  let value := if width = 1 then first else first % Nat.pow 2 (7 - width)
  let (value, _) ← furtherOctets? (width - 1) value rest
  return (Char.ofNat value, 3 * width)

/-- The characters of a tag after those already found, and the place after them. Each step takes a
character, of which there are `fuel`. -/
def Cursor.uriFrom? (bracketed : Bool) : Nat → List Char → Cursor → Option (List Char × Cursor)
  | 0, found, c => some (found.reverse, c)
  | fuel + 1, found, c =>
    match c.rest with
    | [] => some (found.reverse, c)
    | d :: _ =>
      if d = '%' then do
        let (e, n) ← octets? c.rest
        uriFrom? bracketed fuel (e :: found) (c.skip n)
      else if isUriChar bracketed d then uriFrom? bracketed fuel (d :: found) c.next
      else some (found.reverse, c)

/-- The characters of a tag, and the place after them. -/
def Cursor.uri? (c : Cursor) (bracketed : Bool) : Option (List Char × Cursor) :=
  c.uriFrom? bracketed c.rest.length []

/-- A tag that stands here: its handle, its suffix and the place after it. Without a second exclamation
mark there is no handle, and what was taken for one belongs to the suffix. -/
def Cursor.shortTag? (c : Cursor) : Option (List Char × List Char × Cursor) := do
  let name := c.next.takeWhile isNameChar
  let c := c.next.skip name.length
  if c.rest.head? == some '!' then
    let (suffix, c) ← c.next.uri? false
    if suffix.isEmpty then none else return ('!' :: (name ++ ['!']), suffix, c)
  else
    let (more, c) ← c.uri? false
    let suffix := name ++ more
    return (if suffix.isEmpty then ([], ['!'], c) else (['!'], suffix, c))

/-- A tag between angle brackets that stands here: its suffix and the place after it. -/
def Cursor.longTag? (c : Cursor) : Option (List Char × List Char × Cursor) := do
  let (suffix, c) ← (c.skip 2).uri? true
  if suffix.isEmpty || c.rest.head? != some '>' then none else return ([], suffix, c.next)

/-- A tag that stands here and the place after it, where a word has to end, or in brackets a comma
may stand. -/
def Cursor.tag? (c : Cursor) (flow : Bool) : Option (Token × Cursor) := do
  let (handle, suffix, c) ← if c.rest[1]? == some '<' then c.longTag? else c.shortTag?
  if endsWord c.rest || (flow && c.rest.head? == some ',') then
    return (.tag (String.ofList handle) (String.ofList suffix), c)
  else none

/-- The number of a version: at most nine digits. -/
def Cursor.versionNumber? (c : Cursor) : Option (Nat × Cursor) :=
  let ds := c.takeWhile Char.isDigit
  if 9 < ds.length then none else (digits? 10 ds).map fun n => (n, c.skip ds.length)

/-- The version that a directive demands, after its name. -/
def Cursor.versionDirective? (c : Cursor) : Option (Token × Cursor) := do
  let (major, c) ← (c.skipWhile isBlank).versionNumber?
  if c.rest.head? == some '.' then
    let (minor, c) ← c.next.versionNumber?
    return (.version major minor, c)
  else none

/-- The handle that a directive explains, after its name. -/
def Cursor.handleDirective? (c : Cursor) : Option (Token × Cursor) := do
  let c := c.skipWhile isBlank
  if c.rest.head? != some '!' then none
  else
    let name := c.next.takeWhile isNameChar
    let c := c.next.skip name.length
    let closed := c.rest.head? == some '!'
    let handle := '!' :: (name ++ if closed then ['!'] else [])
    let c := if closed then c.next else c
    if !closed && !name.isEmpty then none
    else if !(c.rest.head?.any isBlank) then none
    else
      let (replacement, c) ← (c.skipWhile isBlank).uri? true
      if replacement.isEmpty || !endsWord c.rest then none
      else return (.handle (String.ofList handle) (String.ofList replacement), c)

/-- A directive that stands here and the place after its line. -/
def Cursor.directive? (c : Cursor) : Option (Token × Cursor) := do
  let name := c.next.takeWhile isNameChar
  let c := c.next.skip name.length
  if name.isEmpty || !endsWord c.rest then none
  else
    let (token, c) ←
      if name == "YAML".toList then c.versionDirective?
      else if name == "TAG".toList then c.handleDirective?
      else none
    let c := c.skipWhile isBlank
    let c := if c.rest.head? == some '#' then c.skipWhile fun d => !isBreak d else c
    if endsLine c.rest then return (token, c.skipBreak) else none

end Yaml

end Swagger
