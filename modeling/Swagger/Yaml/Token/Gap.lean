import Swagger.Yaml.Cursor

/-! # Gaps between the words of a scalar
Words of a plain or quoted scalar are separated by blanks and line breaks. A gap inside a line stays
as it is; a single line break counts as a blank, and of several the first does not count.

* `Gap` — what stands between two words.
* `Gap.fold` — the text that it stands for.
* `Cursor.gap?` — the gap at a place, and the place after it. -/

namespace Swagger

namespace Yaml

/-- What stands between two words. -/
inductive Gap where
  /-- Blanks in a line, perhaps none. -/
  | inline (blanks : List Char)
  /-- A line break, and those after it. -/
  | broken (first others : List Char)
deriving DecidableEq

namespace Gap

/-- The text that a gap stands for. -/
def fold : Gap → List Char
  | inline blanks => blanks
  | broken ['\n'] [] => [' ']
  | broken ['\n'] others => others
  | broken first others => first ++ others

/-- Whether the gap goes over more than one line. -/
def isBroken : Gap → Bool
  | inline _ => false
  | broken _ _ => true

/-- The gap with a further line break. -/
def addBreak (text : List Char) : Gap → Gap
  | inline _ => broken text []
  | broken first others => broken first (others ++ text)

/-- The gap with a further blank; blanks around a line break do not count. -/
def addBlank (c : Char) : Gap → Gap
  | inline blanks => inline (blanks ++ [c])
  | broken first others => broken first others

end Gap

/-- The gap at a place, added to a gap that has begun, and the place after it. After a line break no
tab may stand in a column before `indent`. Each step takes a character, of which at most `fuel` are
left. -/
def Cursor.gap? (indent : Nat) : Nat → Gap → Cursor → Option (Gap × Cursor)
  | 0, g, c => some (g, c)
  | fuel + 1, g, c =>
    match c.rest with
    | [] => some (g, c)
    | b :: _ =>
      if isBlank b then
        if g.isBroken && b == '\t' && c.column < indent then none
        else gap? indent fuel (g.addBlank b) c.next
      else if isBreak b then gap? indent fuel (g.addBreak (lineBreak c.rest)) c.skipBreak
      else some (g, c)

end Yaml

end Swagger
