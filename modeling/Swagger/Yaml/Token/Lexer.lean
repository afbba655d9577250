import Swagger.Yaml.Token.Block
import Swagger.Yaml.Token.Plain
import Swagger.Yaml.Token.Quoted
import Swagger.Yaml.Token.Tag

/-! # The tokens of a YAML text
The text is cut from left to right. Outside brackets the column of a token opens and closes
collections. Whether a token begins a key is only known when the colon after it is found; until then it
is a candidate, which does not outlast its line or 1024 characters.

* `Lexer` — the tokens found so far, and what decides about the next.
* `Lexer.step?` — the next token, with those that go before it.
* `Token.ofText?` — all tokens of a text; none if some part of it is no token. -/

namespace Swagger

namespace Yaml

/-- A token that may turn out to begin a key. -/
structure Candidate where
  /-- The number of tokens before it. -/
  position : Nat
  /-- The number of characters before it. -/
  index : Nat
  /-- The number of lines before it. -/
  line : Nat
  /-- The number of characters before it in its line. -/
  column : Nat
  /-- Whether nothing but a key may stand there. -/
  required : Bool

/-- Whether a candidate can no longer begin a key. -/
def Candidate.isStale (k : Candidate) (c : Cursor) : Bool :=
  k.line < c.line || k.index + 1024 < c.index

/-- The tokens found so far, and what decides about the next. -/
structure Lexer where
  /-- What is left of the text. -/
  cursor : Cursor
  /-- The tokens found, the last one first. -/
  tokens : List Token := []
  /-- Their number. -/
  count : Nat := 0
  /-- The column of the innermost block collection, negative outside. -/
  indent : Int := -1
  /-- The columns of the collections around it. -/
  outer : List Int := []
  /-- The candidate outside all brackets or of the innermost pair of them. -/
  candidate : Option Candidate := none
  /-- The candidates of the pairs of brackets around it, and of what is outside. -/
  candidates : List (Option Candidate) := []
  /-- Whether a key may begin here. -/
  keyAllowed : Bool := true

namespace Lexer

/-- Whether the place is inside brackets. -/
def inFlow (l : Lexer) : Bool := !l.candidates.isEmpty

/-- Add a token. -/
def push (l : Lexer) (t : Token) : Lexer := { l with tokens := t :: l.tokens, count := l.count + 1 }

/-- Put a token in the place after a number of others. -/
def insertAt (l : Lexer) (position : Nat) (t : Token) : Lexer :=
  let after := l.count - position
  { l with
    tokens := l.tokens.take after ++ t :: l.tokens.drop after
    count := l.count + 1 }

/-- Close the collections that are indented further than a column. -/
def closeTo (column : Int) (l : Lexer) : Lexer :=
  if l.inFlow then l
  else
    let indents := l.indent :: l.outer
    let closed := indents.takeWhile fun i => decide (column < i)
    let left := indents.drop closed.length
    { l with
      tokens := List.replicate closed.length .blockEnd ++ l.tokens
      count := l.count + closed.length
      indent := left.headD (-1)
      outer := left.tail }

/-- Open a collection in a column if it is indented further than the innermost one. Its token goes
after a number of others. -/
def openAt (column position : Nat) (kind : Collection) (l : Lexer) : Lexer :=
  if l.inFlow || decide ((column : Int) ≤ l.indent) then l
  else
    { l.insertAt position (.blockStart kind) with
      indent := column
      outer := l.indent :: l.outer }

/-- Give up the candidate, which must not be one where nothing but a key may stand. -/
def dropCandidate? (l : Lexer) : Option Lexer :=
  if l.candidate.any Candidate.required then none else some { l with candidate := none }

/-- Make the next token a candidate, where a key may begin. -/
def saveCandidate? (l : Lexer) : Option Lexer :=
  if l.keyAllowed then do
    let l ← l.dropCandidate?
    let c := l.cursor
    let required := !l.inFlow && l.indent == (c.column : Int)
    return { l with candidate := some ⟨l.count, c.index, c.line, c.column, required⟩ }
  else some l

/-- Give up the candidates that can no longer begin a key. -/
def dropStale? (l : Lexer) : Option Lexer :=
  let stale (k : Option Candidate) : Bool := k.any fun k => k.isStale l.cursor
  let fresh (k : Option Candidate) : Option Candidate := k.filter fun k => !k.isStale l.cursor
  if (l.candidate :: l.candidates).any fun k => stale k && k.any Candidate.required then none
  else some { l with candidate := fresh l.candidate, candidates := l.candidates.map fresh }

/-- Go past blanks, comments and line breaks. Where a key may begin no tab counts as a blank outside
brackets, and after a line break a key may begin there. Each step takes a line, of which there are at
most `fuel`. -/
def skipGaps : Nat → Lexer → Lexer
  | 0, l => l
  | fuel + 1, l =>
    let c := if l.cursor.index = 0 ∧ l.cursor.rest.head? = some '\uFEFF' then l.cursor.next else l.cursor
    let c := c.skipWhile fun d => d == ' ' || (d == '\t' && (l.inFlow || !l.keyAllowed))
    let c := if c.rest.head? == some '#' then c.skipWhile fun d => !isBreak d else c
    if c.rest.head?.any isBreak then
      skipGaps fuel { l with cursor := c.skipBreak, keyAllowed := l.keyAllowed || !l.inFlow }
    else { l with cursor := c }

/-- A mark that stands between documents, or a directive. -/
def betweenDocuments? (l : Lexer) : Option Lexer :=
  (l.closeTo (-1)).dropCandidate?.map fun l => { l with keyAllowed := false }

/-- A mark of three characters. -/
def documentMark? (l : Lexer) (t : Token) : Option Lexer := do
  let l ← l.betweenDocuments?
  return { l with cursor := l.cursor.skip 3 }.push t

/-- A directive. -/
def directive? (l : Lexer) : Option Lexer := do
  let l ← l.betweenDocuments?
  let (t, c) ← l.cursor.directive?
  return { l with cursor := c }.push t

/-- A bracket or brace that opens a collection. -/
def openFlow? (l : Lexer) (kind : Collection) : Option Lexer := do
  let l ← l.saveCandidate?
  return { l with
    cursor := l.cursor.next
    candidate := none
    candidates := l.candidate :: l.candidates
    keyAllowed := true }.push (.flowStart kind)

/-- A bracket or brace that closes a collection. -/
def closeFlow? (l : Lexer) (kind : Collection) : Option Lexer := do
  let l ← l.dropCandidate?
  return { l with
    cursor := l.cursor.next
    candidate := l.candidates.headD none
    candidates := l.candidates.tail
    keyAllowed := false }.push (.flowEnd kind)

/-- A comma. -/
def comma? (l : Lexer) : Option Lexer := do
  let l ← l.dropCandidate?
  return { l with cursor := l.cursor.next, keyAllowed := true }.push .comma

/-- The mark of an item. -/
def item? (l : Lexer) : Option Lexer := do
  let l ←
    if l.inFlow then some l
    else if l.keyAllowed then some (l.openAt l.cursor.column l.count .sequence)
    else none
  let l ← l.dropCandidate?
  return { l with cursor := l.cursor.next, keyAllowed := true }.push .item

/-- The mark of a key. -/
def key? (l : Lexer) : Option Lexer := do
  let l ←
    if l.inFlow then some l
    else if l.keyAllowed then some (l.openAt l.cursor.column l.count .mapping)
    else none
  let l ← l.dropCandidate?
  return { l with cursor := l.cursor.next, keyAllowed := !l.inFlow }.push .key

/-- The mark of a value. A candidate now is a key. -/
def value? (l : Lexer) : Option Lexer := do
  let l ←
    match l.candidate with
    | some k =>
      let l := (l.insertAt k.position .key).openAt k.column k.position .mapping
      some { l with candidate := none, keyAllowed := false }
    | none =>
      if l.inFlow then some { l with keyAllowed := false }
      else if l.keyAllowed then some (l.openAt l.cursor.column l.count .mapping)
      else none
  return { l with cursor := l.cursor.next }.push .value

/-- A name, tag or scalar, which may begin a key but after which no key begins. -/
def word? (l : Lexer) (read : Cursor → Option (Token × Cursor)) : Option Lexer := do
  let l ← l.saveCandidate?
  let (t, c) ← read l.cursor
  return { l with cursor := c, keyAllowed := false }.push t

/-- A quoted scalar, where at most `fuel` characters are left. -/
def quoted? (l : Lexer) (fuel : Nat) (q : Quote) : Option Lexer :=
  l.word? fun c => (c.quoted? fuel q).map fun r => (.scalar (String.ofList r.1) .other, r.2)

/-- A block scalar, where at most `fuel` characters are left. -/
def block? (l : Lexer) (fuel : Nat) (folded : Bool) : Option Lexer := do
  let l ← l.dropCandidate?
  let (text, c) ← l.cursor.block? fuel folded l.indent
  let style := if folded then Style.other else Style.literal
  return { l with cursor := c, keyAllowed := true }.push (.scalar (String.ofList text) style)

/-- A plain scalar, where at most `fuel` characters are left. If it ends after a line break, a key may
begin there. -/
def plain? (l : Lexer) (fuel : Nat) : Option Lexer := do
  let l ← l.saveCandidate?
  let (text, c, broken) ← l.cursor.plain? fuel l.inFlow (l.indent + 1).toNat
  return { l with cursor := c, keyAllowed := broken }.push (.scalar (String.ofList text) .plain)

/-- Marks that a plain scalar does not begin with, however it goes on. -/
def isMark (c : Char) : Bool :=
  isFlowMark c ||
    ['#', '&', '*', '!', '|', '>', '\x27', '\x22', '%', '@', '\x60'].contains c

/-- Whether a plain scalar begins with a character and the text after it. -/
def beginsPlain (flow : Bool) (c : Char) (rest : List Char) : Bool :=
  if c == '-' then !(rest.head?.any isBlank)
  else if c == '?' || c == ':' then !flow && !endsWord rest
  else !isGap c && !isMark c

/-- The token that begins with a character and the text after it, where at most `fuel` characters are
left. -/
def token? (l : Lexer) (fuel : Nat) (c : Char) (rest : List Char) : Option Lexer :=
  let marks := l.inFlow || endsWord rest
  if l.cursor.column = 0 ∧ c = '%' then l.directive?
  else if l.cursor.column = 0 ∧ atMark '-' l.cursor.rest then l.documentMark? .documentStart
  else if l.cursor.column = 0 ∧ atMark '.' l.cursor.rest then l.documentMark? .documentEnd
  else if c = '[' then l.openFlow? .sequence
  else if c = '\x7b' then l.openFlow? .mapping
  else if c = ']' then l.closeFlow? .sequence
  else if c = '\x7d' then l.closeFlow? .mapping
  else if c = ',' then l.comma?
  else if c = '-' ∧ endsWord rest then l.item?
  else if c = '?' ∧ marks then l.key?
  else if c = ':' ∧ marks then l.value?
  else if c = '*' then l.word? fun c => c.next.anchorName?.map fun r => (.alias r.1, r.2)
  else if c = '&' then l.word? fun c => c.next.anchorName?.map fun r => (.anchor r.1, r.2)
  else if c = '!' then l.word? fun c => c.tag? l.inFlow
  else if c = '|' ∧ !l.inFlow then l.block? fuel false
  else if c = '>' ∧ !l.inFlow then l.block? fuel true
  else if c = '\x27' then l.quoted? fuel .single
  else if c = '\x22' then l.quoted? fuel .double
  else if beginsPlain l.inFlow c rest then l.plain? fuel
  else none

/-- What is left to do at the end of the text. -/
def finish? (l : Lexer) : Option Lexer := (l.closeTo (-1)).dropCandidate?

/-- All tokens, after those already found. Each step takes a character, of which less than `fuel` are
left. -/
def run? : Nat → Lexer → Option Lexer
  | 0, _ => none
  | fuel + 1, l => do
    let l ← (l.skipGaps (fuel + 1)).dropStale?
    let l := l.closeTo l.cursor.column
    match l.cursor.rest with
    | [] => l.finish?
    | c :: rest =>
      let l ← l.token? fuel c rest
      run? fuel l

end Lexer

/-- Characters that may stand in a text. -/
def isAllowed (c : Char) : Bool :=
  let n := c.toNat
  n == 0x9 || n == 0xa || n == 0xd || (0x20 ≤ n && n ≤ 0x7e) || n == 0x85 ||
    (0xa0 ≤ n && n ≤ 0xd7ff) || (0xe000 ≤ n && n ≤ 0xfffd) || 0x10000 ≤ n

/-- All tokens of a text, in order. -/
def Token.ofText? (s : String) : Option (List Token) :=
  let cs := s.toList
  if cs.all isAllowed then
    (Lexer.run? (cs.length + 1) { cursor := ⟨cs, 0, 0, 0⟩ }).map fun l => l.tokens.reverse
  else none

end Yaml

end Swagger
