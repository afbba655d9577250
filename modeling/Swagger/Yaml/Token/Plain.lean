import Swagger.Yaml.Token.Gap

/-! # Plain scalars
Words without quotes. A plain scalar ends before a comment, before a colon that ends a word, and
inside brackets before a comma or bracket.

* `plainWord?` — the rest of a word of a plain scalar.
* `Cursor.plain?` — a plain scalar, the place after it, and whether a line break came last. -/

namespace Swagger

namespace Yaml

/-- The marks of collections in brackets, other than the question mark. -/
def isFlowMark (c : Char) : Bool := c == ',' || c == '[' || c == ']' || c == '\x7b' || c == '\x7d'

/-- The rest of a word, after the characters already found. Inside brackets a colon must not stand
right before a mark. -/
def plainWord? (flow : Bool) (found : List Char) : List Char → Option (List Char)
  | [] => some found.reverse
  | c :: rest =>
    if isGap c then some found.reverse
    else if flow && c == ':' && (rest.head?.any fun d => isFlowMark d || d == '?') then none
    else if (c == ':' && endsWord rest) || (flow && isFlowMark c) then some found.reverse
    else plainWord? flow (c :: found) rest

/-- A plain scalar: its text so far, the gap before the next word, the indentation that further lines
need. The result is the text, the place after the scalar and whether the last gap was broken. Each
step takes a word, and at most `fuel` characters are left. -/
def Cursor.plainFrom? (flow : Bool) (indent : Nat) :
    Nat → List Char → Gap → Cursor → Option (List Char × Cursor × Bool)
  | 0, text, g, c => some (text, c, g.isBroken)
  | fuel + 1, text, g, c =>
    if c.atDocumentMark || c.rest.head? == some '#' then some (text, c, g.isBroken)
    else
      match plainWord? flow [] c.rest with
      | none => none
      | some [] => some (text, c, g.isBroken)
      | some word =>
        let text := text ++ (g.fold ++ word)
        let c := c.skip word.length
        if !(c.rest.head?.any isGap) then some (text, c, false)
        else
          match c.gap? indent fuel (.inline []) with
          | none => none
          | some (g, c) =>
            if !flow && c.column < indent then some (text, c, g.isBroken)
            else plainFrom? flow indent fuel text g c

/-- A plain scalar that starts here, where at most `fuel` characters are left. -/
def Cursor.plain? (c : Cursor) (fuel : Nat) (flow : Bool) (indent : Nat) :
    Option (List Char × Cursor × Bool) :=
  c.plainFrom? flow indent fuel [] (.inline [])

end Yaml

end Swagger
