import Swagger.Yaml.Cursor

/-! # Block scalars
A block scalar is all lines that are indented far enough. Its header may say how far that is and what
becomes of the line breaks at the end; otherwise the first line that is not empty decides, and one
line break stays.

* `Chomping` — what becomes of the line breaks at the end.
* `Cursor.blockHeader?` — the header, and the place after it.
* `Cursor.block?` — the text of a block scalar and the place after it. -/

namespace Swagger

namespace Yaml

/-- What becomes of the line breaks at the end. -/
inductive Chomping where
  /-- None stays. -/
  | strip
  /-- One stays. -/
  | clip
  /-- All stay. -/
  | keep
deriving DecidableEq

/-- What a character in the header says about the line breaks at the end. -/
def Chomping.ofChar? : Char → Option Chomping
  | '+' => some .keep
  | '-' => some .strip
  | _ => none

/-- A digit that gives an indentation. -/
def indentDigit? (c : Char) : Option Nat :=
  if '1' ≤ c ∧ c ≤ '9' then some (c.toNat - '0'.toNat) else none

/-- What the header says, in either order, and the number of its characters. -/
def blockHeader : List Char → Chomping × Nat × Nat
  | a :: b :: _ =>
    match Chomping.ofChar? a, indentDigit? a with
    | some ch, _ =>
      match indentDigit? b with
      | some n => (ch, n, 2)
      | none => (ch, 0, 1)
    | none, some n =>
      match Chomping.ofChar? b with
      | some ch => (ch, n, 2)
      | none => (.clip, n, 1)
    | none, none => (.clip, 0, 0)
  | [a] =>
    match Chomping.ofChar? a, indentDigit? a with
    | some ch, _ => (ch, 0, 1)
    | none, some n => (.clip, n, 1)
    | none, none => (.clip, 0, 0)
  | [] => (.clip, 0, 0)

/-- The header after its mark: what becomes of the line breaks at the end, the indentation or zero,
and the place after the line. Only blanks and a comment may follow. -/
def Cursor.blockHeader? (c : Cursor) : Option (Chomping × Nat × Cursor) :=
  let (chomping, increment, width) := blockHeader c.rest
  let c := (c.skip width).skipWhile isBlank
  let c := if c.rest.head? == some '#' then c.skipWhile fun d => !isBreak d else c
  if endsLine c.rest then some (chomping, increment, c.skipBreak) else none

/-- The empty lines at a place: the greatest column reached, the text of their line breaks and the
place after them. `indent` is the indentation, or zero while it is open; blanks are taken up to it, and
no tab may stand before it. Each step takes a line, of which less than `fuel` are left. -/
def Cursor.emptyLines? (indent : Nat) :
    Nat → Nat → List Char → Cursor → Option (Nat × List Char × Cursor)
  | 0, deepest, breaks, c => some (deepest, breaks, c)
  | fuel + 1, deepest, breaks, c =>
    let spaces := (c.rest.takeWhile (· == ' ')).length
    let c := c.skip (if indent = 0 then spaces else min spaces (indent - c.column))
    let deepest := max deepest c.column
    if (indent = 0 || c.column < indent) && c.rest.head? == some '\t' then none
    else if c.rest.head?.any isBreak then
      emptyLines? indent fuel deepest (breaks ++ lineBreak c.rest) c.skipBreak
    else some (deepest, breaks, c)

/-- What is known about a block scalar after some of its lines. -/
structure BlockLines where
  /-- The text without the line breaks after the last line. -/
  text : List Char := []
  /-- The line break after the last line. -/
  lastBreak : List Char := []
  /-- The line breaks of the empty lines after it. -/
  emptyBreaks : List Char := []
  /-- Whether the last line begins with a blank. -/
  blankInFront : Bool := false

/-- Add a line. In a folded scalar a single line break between two lines that begin without a blank
counts as a blank. -/
def BlockLines.add (folded : Bool) (b : BlockLines) (line : List Char) : BlockLines :=
  let blank := line.head?.any isBlank
  let seam :=
    if folded && b.lastBreak == ['\n'] && !b.blankInFront && !blank then
      if b.emptyBreaks.isEmpty then [' '] else []
    else b.lastBreak
  { text := b.text ++ (seam ++ b.emptyBreaks ++ line), blankInFront := blank }

/-- The lines of a block scalar with a known indentation. Each step takes a line, of which less than
`fuel` are left. -/
def Cursor.blockLines? (folded : Bool) (indent : Nat) :
    Nat → BlockLines → Cursor → Option (BlockLines × Cursor)
  | 0, b, c => some (b, c)
  | fuel + 1, b, c =>
    if c.column = indent ∧ c.rest ≠ [] then do
      let line := c.rest.takeWhile fun d => !isBreak d
      let c := c.skip line.length
      let b := { b.add folded line with lastBreak := lineBreak c.rest }
      let (_, breaks, c) ← c.skipBreak.emptyLines? indent (fuel + 1) 0 []
      blockLines? folded indent fuel { b with emptyBreaks := breaks } c
    else some (b, c)

/-- The text of all lines, with the line breaks at the end that stay. -/
def BlockLines.finish (b : BlockLines) : Chomping → List Char
  | .strip => b.text
  | .clip => b.text ++ b.lastBreak
  | .keep => b.text ++ b.lastBreak ++ b.emptyBreaks

/-- The text of a block scalar whose mark stands here, where less than `fuel` lines are left, and the
place after it. `outer` is the indentation of the collection around it, which is negative where there is
none. -/
def Cursor.block? (c : Cursor) (fuel : Nat) (folded : Bool) (outer : Int) :
    Option (List Char × Cursor) := do
  let (chomping, increment, c) ← c.next.blockHeader?
  let least := max 1 (outer + 1).toNat
  let given := if increment = 0 then 0 else (max outer 0).toNat + increment
  let (deepest, breaks, c) ← c.emptyLines? given fuel 0 []
  let indent := if given = 0 then max deepest least else given
  let (b, c) ← c.blockLines? folded indent fuel { emptyBreaks := breaks }
  return (b.finish chomping, c)

end Yaml

end Swagger
