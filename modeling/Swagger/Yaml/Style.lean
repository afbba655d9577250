import Swagger.Yaml.Cursor
import Swagger.Yaml.Scalar

/-! # How a string is written in YAML
A string is written without quotes where that reads as the same string, with line breaks as a literal
block, and otherwise between quotes.

* `WrittenStyle.ofText` — the style of a string.
* `isShortKey` — whether a string may stand in front of its colon.
* `writeScalar` — the text of a string, lines after the first indented. -/

namespace Swagger

namespace Yaml

/-- How a string is written. -/
inductive WrittenStyle where
  /-- Without quotes. -/
  | plain
  /-- Between single quotes. -/
  | single
  /-- Between double quotes. -/
  | double
  /-- As a block that keeps its line breaks. -/
  | literal
deriving DecidableEq

/-- Characters that are written as they are, line feeds included. -/
def isShown (c : Char) : Bool :=
  let n := c.toNat
  n == 0xa || (0x20 ≤ n && n ≤ 0x7e) || (0xa0 ≤ n && n != 0xfeff && n != 0xfffe && n != 0xffff)

/-- Characters that a plain scalar does not begin with. -/
def isFirstIndicator (c : Char) : Bool :=
  ['#', ',', '[', ']', '\x7b', '\x7d', '&', '*', '!', '|', '>', '\x27', '\x22', '%', '@',
    '\x60'].contains c

/-- Whether text ends before the rest, or a gap begins it, or the character zero. -/
def gapFollows : List Char → Bool
  | [] => true
  | c :: _ => isGap c || c == '\x00'

/-- Whether something after the first character means more than itself in a plain scalar: a colon that
ends a word, or a hash that begins one. -/
def hasInnerIndicator : List Char → Bool
  | a :: b :: rest =>
    (b == ':' && gapFollows rest) || (b == '#' && gapFollows [a]) || hasInnerIndicator (b :: rest)
  | _ => false

/-- Whether something in a plain scalar would mean more than itself. -/
def hasIndicator (cs : List Char) : Bool :=
  ['-', '-', '-'].isPrefixOf cs || ['.', '.', '.'].isPrefixOf cs ||
    (match cs with
    | [] => false
    | c :: rest =>
      isFirstIndicator c || (['?', ':', '-'].contains c && gapFollows rest)) ||
    hasInnerIndicator cs

/-- Whether a character of one kind is followed by one of another. -/
def hasPair (p q : Char → Bool) : List Char → Bool
  | a :: b :: rest => (p a && q b) || hasPair p q (b :: rest)
  | _ => false

/-- Whether a character is a space. -/
def isSpace (c : Char) : Bool := c == ' '

/-- Whether a string can only be written with escapes. -/
def needsEscapes (cs : List Char) : Bool := hasPair isSpace isBreak cs || !cs.all isShown

/-- Whether a string may be written plainly, as far as its characters go. -/
def allowsPlain (cs : List Char) : Bool :=
  let edge (c : Option Char) : Bool := c.any fun c => isSpace c || isBreak c
  !(edge cs.head? || edge cs.getLast? || cs.any isBreak || hasIndicator cs || needsEscapes cs)

/-- Whether a plain text would be taken for a number, a truth value or null, or nearly for a number. -/
def looksTyped (s : String) : Bool :=
  match plain s with
  | .text _ => hasLeadingZero s.toList
  | _ => true

namespace WrittenStyle

/-- The style of a string. -/
def ofText (s : String) : WrittenStyle :=
  let cs := s.toList
  if cs.contains '\n' then
    if needsEscapes cs || cs.getLast? == some ' ' then double else literal
  else if !looksTyped s && allowsPlain cs then plain
  else if needsEscapes cs || hasPair isBreak isSpace cs then double
  else single

end WrittenStyle

/-- Whether a string may stand in front of its colon: on one line, and at most 128 bytes. -/
def isShortKey (s : String) : Bool := !s.toList.any isBreak && s.utf8ByteSize ≤ 128

/-- Blanks at the start of a line. -/
def pad (indent : Nat) : List Char := List.replicate indent ' '

/-- Characters with every line indented that is not empty. The flag says whether a line begins. -/
def indented (indent : Nat) : Bool → List Char → List Char
  | _, [] => []
  | start, c :: rest =>
    if isBreak c then c :: indented indent true rest
    else if start then pad indent ++ c :: indented indent false rest
    else c :: indented indent false rest

/-- What the header of a literal block says about the line breaks at the end. -/
def chompingMark (cs : List Char) : List Char :=
  match cs.reverse with
  | [] => ['-']
  | [c] => if isBreak c then ['+'] else ['-']
  | c :: d :: _ => if !isBreak c then ['-'] else if isBreak d then ['+'] else []

/-- A literal block. Its indentation is written where the first line does not show it. -/
def writeLiteral (indent : Nat) (cs : List Char) : List Char :=
  let shown := !(cs.head?.any fun c => isSpace c || isBreak c)
  '|' :: ((if shown then [] else ['2']) ++ chompingMark cs ++ '\n' :: indented indent true cs)

/-- Text between single quotes. -/
def writeSingle (indent : Nat) (cs : List Char) : List Char :=
  let doubled := cs.flatMap fun c => if c == '\x27' then ['\x27', '\x27'] else [c]
  let padding := if cs.getLast?.any isBreak then pad indent else []
  '\x27' :: (indented indent false doubled ++ padding ++ ['\x27'])

/-- A number in upper-case hexadecimal digits, with zeros in front up to a width. -/
def hexDigits (width n : Nat) : List Char :=
  let ds := (Nat.toDigits 16 n).map Char.toUpper
  List.replicate (width - ds.length) '0' ++ ds

/-- The letter that stands for a character after a backslash. -/
def escapeLetterOf? (c : Char) : Option Char :=
  match c.toNat with
  | 0x0 => some '0'
  | 0x7 => some 'a'
  | 0x8 => some 'b'
  | 0x9 => some 't'
  | 0xa => some 'n'
  | 0xb => some 'v'
  | 0xc => some 'f'
  | 0xd => some 'r'
  | 0x1b => some 'e'
  | 0x22 => some '\x22'
  | 0x5c => some '\x5c'
  | 0x85 => some 'N'
  | 0x2028 => some 'L'
  | 0x2029 => some 'P'
  | _ => none

/-- A character between double quotes. -/
def escaped (c : Char) : List Char :=
  if isShown c && !isBreak c && c != '\x22' && c != '\x5c' then [c]
  else
    match escapeLetterOf? c with
    | some l => ['\x5c', l]
    | none =>
      let n := c.toNat
      if n ≤ 0xff then '\x5c' :: 'x' :: hexDigits 2 n
      else if n ≤ 0xffff then '\x5c' :: 'u' :: hexDigits 4 n
      else '\x5c' :: 'U' :: hexDigits 8 n

/-- Text between double quotes. -/
def writeDouble (cs : List Char) : List Char := '\x22' :: (cs.flatMap escaped ++ ['\x22'])

/-- The text of a string, lines after the first indented. -/
def writeScalar (indent : Nat) (s : String) : List Char :=
  match WrittenStyle.ofText s with
  | .plain => s.toList
  | .single => writeSingle indent s.toList
  | .double => writeDouble s.toList
  | .literal => writeLiteral indent s.toList

end Yaml

end Swagger
