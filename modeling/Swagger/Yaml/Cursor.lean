/-! # Places in a YAML text
What is left of a text, and where in the text that is.

* `Cursor` — the rest of a text with its index, line and column, all counted in characters.
* `Cursor.skip`, `Cursor.skipWhile`, `Cursor.skipBreak` — the ways to go on.
* `isBlank`, `isBreak`, `endsWord` — what separates words.
* `lineBreak` — the line break in front of a text, as it counts in a scalar. -/

namespace Swagger

namespace Yaml

/-- Blanks inside a line. -/
def isBlank (c : Char) : Bool := c == ' ' || c == '\t'

/-- Characters that break a line. -/
def isBreak (c : Char) : Bool :=
  c == '\n' || c == '\r' || c == '\u0085' || c == '\u2028' || c == '\u2029'

/-- Blanks and line breaks. -/
def isGap (c : Char) : Bool := isBlank c || isBreak c

/-- Letters, digits, the hyphen and the underscore, of ASCII alone: the characters of names. -/
def isNameChar (c : Char) : Bool := c.isAlphanum || c == '-' || c == '_'

/-- Whether a word ends in front of a text: at a blank, a line break or the end. -/
def endsWord : List Char → Bool
  | [] => true
  | c :: _ => isGap c

/-- Whether a line ends in front of a text. -/
def endsLine : List Char → Bool
  | [] => true
  | c :: _ => isBreak c

/-- The line break in front of a text, as it counts in a scalar: only the separators of lines and
paragraphs are told apart from others. -/
def lineBreak : List Char → List Char
  | [] => []
  | c :: _ => if c == '\u2028' || c == '\u2029' then [c] else if isBreak c then ['\n'] else []

/-- Whether a text begins with a mark of three characters that stands for itself: the start or the
end of a document, if it also stands at the start of a line. -/
def atMark (mark : Char) : List Char → Bool
  | a :: b :: c :: rest => a == mark && b == mark && c == mark && endsWord rest
  | _ => false

/-- The rest of a text and where it begins. -/
structure Cursor where
  /-- What is left. -/
  rest : List Char
  /-- The number of characters before it. -/
  index : Nat := 0
  /-- The number of lines before it. -/
  line : Nat := 0
  /-- The number of characters before it in its line. -/
  column : Nat := 0

namespace Cursor

/-- The place after some characters of the same line. -/
def skip (c : Cursor) (n : Nat) : Cursor :=
  { c with rest := c.rest.drop n, index := c.index + n, column := c.column + n }

/-- The place after one character of the same line. -/
def next (c : Cursor) : Cursor := c.skip 1

/-- The place after a line break; a carriage return and a line feed make one. -/
def skipBreak (c : Cursor) : Cursor :=
  match c.rest with
  | '\r' :: '\n' :: rest => ⟨rest, c.index + 2, c.line + 1, 0⟩
  | b :: rest => if isBreak b then ⟨rest, c.index + 1, c.line + 1, 0⟩ else c
  | [] => c

/-- The characters in front that satisfy a test, which no line break does. -/
def takeWhile (c : Cursor) (p : Char → Bool) : List Char := c.rest.takeWhile p

/-- The place after the characters that satisfy a test, which no line break does. -/
def skipWhile (c : Cursor) (p : Char → Bool) : Cursor := c.skip (c.rest.takeWhile p).length

/-- Whether a document starts or ends here. -/
def atDocumentMark (c : Cursor) : Bool :=
  c.column == 0 && (atMark '-' c.rest || atMark '.' c.rest)

end Cursor

end Yaml

end Swagger
