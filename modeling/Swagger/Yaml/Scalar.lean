import Swagger.Decimal.Double

/-! # What a YAML scalar stands for
A scalar is text with a style and perhaps a tag. Without a tag only a plain scalar is looked into: it
is null, a truth value, an integer, a double or else a string, by the core rules of YAML 1.2.

* `Scalar` — text, style and tag.
* `Plain` — what a plain text stands for.
* `unsigned?`, `negative?`, `double?` — the numbers among the texts.
* `plain` — the rules in their order; `Scalar.resolve?` adds the tags. -/

namespace Swagger

namespace Yaml

/-- How a scalar is written, as far as reading depends on it. -/
inductive Style where
  /-- Without quotes. -/
  | plain
  /-- As a block that keeps its line breaks. -/
  | literal
  /-- Quoted, or as a folded block. -/
  | other
deriving DecidableEq

/-- A scalar. -/
structure Scalar where
  /-- The content. -/
  text : String
  /-- How it is written. -/
  style : Style
  /-- Its tag, the handle already replaced. -/
  tag : Option String
deriving DecidableEq

/-- The tag of null. -/
def nullTag : String := "tag:yaml.org,2002:null"

/-- The tag of truth values. -/
def boolTag : String := "tag:yaml.org,2002:bool"

/-- The tag of integers. -/
def intTag : String := "tag:yaml.org,2002:int"

/-- The tag of floating-point numbers. -/
def floatTag : String := "tag:yaml.org,2002:float"

/-- The words for null. -/
def isNullWord (s : String) : Bool := ["null", "Null", "NULL", "~"].contains s

/-- The truth value of a word. -/
def bool? (s : String) : Option Bool :=
  if ["true", "True", "TRUE"].contains s then some true
  else if ["false", "False", "FALSE"].contains s then some false
  else none

/-- The value of a hexadecimal digit, of either case. -/
def digit? (c : Char) : Option Nat :=
  if '0' ≤ c ∧ c ≤ '9' then some (c.toNat - '0'.toNat)
  else if 'a' ≤ c ∧ c ≤ 'f' then some (c.toNat - 'a'.toNat + 10)
  else if 'A' ≤ c ∧ c ≤ 'F' then some (c.toNat - 'A'.toNat + 10)
  else none

/-- The number that at least one digit of a radix writes, and nothing else. -/
def digits? (radix : Nat) (cs : List Char) : Option Nat :=
  if cs.isEmpty then none
  else cs.foldlM (fun n c => do
    let d ← digit? c
    if d < radix then some (n * radix + d) else none) 0

/-- The text without one sign in front. -/
def dropSign : List Char → List Char
  | '+' :: rest => rest
  | '-' :: rest => rest
  | cs => cs

/-- A row of digits with a needless zero in front, which is no number. -/
def hasLeadingZero (cs : List Char) : Bool :=
  match dropSign cs with
  | '0' :: d :: rest => (d :: rest).all Char.isDigit
  | _ => false

/-- An integer without a minus sign: decimal, or hexadecimal, octal or binary after its mark. -/
def unsigned? (s : String) : Option Nat :=
  let cs := s.toList
  let body := match cs with
    | '+' :: rest => rest
    | _ => cs
  match body with
  | '0' :: 'x' :: rest => digits? 16 rest
  | '0' :: 'o' :: rest => digits? 8 rest
  | '0' :: 'b' :: rest => digits? 2 rest
  | _ => if hasLeadingZero cs then none else digits? 10 body

/-- The magnitude of an integer with a minus sign. -/
def negative? (s : String) : Option Nat :=
  match s.toList with
  | '-' :: '0' :: 'x' :: rest => digits? 16 rest
  | '-' :: '0' :: 'o' :: rest => digits? 8 rest
  | '-' :: '0' :: 'b' :: rest => digits? 2 rest
  | '-' :: rest => if hasLeadingZero ('-' :: rest) then none else digits? 10 rest
  | _ => none

/-- The exponent that follows a mantissa: none at all, or a mark, a sign and digits. -/
def exponent? : List Char → Option Int
  | [] => some 0
  | c :: rest =>
    if c = 'e' ∨ c = 'E' then
      match rest with
      | '-' :: ds => (digits? 10 ds).map fun n => -(n : Int)
      | '+' :: ds => (digits? 10 ds).map fun n => (n : Int)
      | ds => (digits? 10 ds).map fun n => (n : Int)
    else none

/-- The double nearest to a decimal number, if it is finite. At least one digit stands before or
after the point. -/
def decimal? (cs : List Char) : Option Double :=
  let negative := cs.head? == some '-'
  let body := dropSign cs
  let whole := body.takeWhile Char.isDigit
  let afterWhole := body.dropWhile Char.isDigit
  let frac := match afterWhole with
    | '.' :: rest => rest.takeWhile Char.isDigit
    | _ => []
  let afterFrac := match afterWhole with
    | '.' :: rest => rest.dropWhile Char.isDigit
    | rest => rest
  if whole.isEmpty && frac.isEmpty then none
  else do
    let n ← digits? 10 (whole ++ frac)
    let e ← exponent? afterFrac
    let d := Double.ofDecimal negative n (e - (frac.length : Int))
    if d.isFinite then some d else none

/-- A double: a decimal number, an infinity, or what is no number. -/
def double? (s : String) : Option Double :=
  let cs := s.toList
  let body := match cs with
    | '+' :: rest => rest
    | _ => cs
  let signed := match cs with
    | '+' :: '+' :: _ => true
    | '+' :: '-' :: _ => true
    | _ => false
  if signed then none
  else if [".inf", ".Inf", ".INF"].contains (String.ofList body) then some (Double.infinity false)
  else if ["-.inf", "-.Inf", "-.INF"].contains s then some (Double.infinity true)
  else if [".nan", ".NaN", ".NAN"].contains s then some Double.nan
  else decimal? body

/-- What a plain text stands for. -/
inductive Plain where
  /-- Null. -/
  | null
  /-- A truth value. -/
  | bool (value : Bool)
  /-- An integer of sixty-four bits, signed or not. -/
  | int (value : Int)
  /-- An integer of more than sixty-four and at most 128 bits, which no field can hold. -/
  | wideInt
  /-- A double. -/
  | real (value : Double)
  /-- A string. -/
  | text (value : String)

/-- The integer a text writes, if it has at most 128 bits. -/
def integer? (s : String) : Option Plain :=
  match unsigned? s with
  | some n =>
    if n < Nat.pow 2 64 then some (.int n)
    else if n < Nat.pow 2 128 then some .wideInt else none
  | none =>
    match negative? s with
    | some n =>
      if n ≤ Nat.pow 2 63 then some (.int (-(n : Int)))
      else if n ≤ Nat.pow 2 127 then some .wideInt else none
    | none => none

/-- What a plain text stands for, by the core rules in their order. -/
def plain (s : String) : Plain :=
  if s.isEmpty || isNullWord s then .null
  else
    match bool? s with
    | some b => .bool b
    | none =>
      match integer? s with
      | some p => p
      | none =>
        if hasLeadingZero s.toList then .text s
        else
          match double? s with
          | some d => .real d
          | none => .text s

namespace Scalar

/-- Whether the tag is one of the document's own, which only a variant's name may carry. -/
def isLocal (s : Scalar) : Bool :=
  match s.tag with
  | some t => t.toList.head? == some '!'
  | none => false

/-- Whether the scalar is plain and empty, as where nothing was written. -/
def isBlank (s : Scalar) : Bool := s.style == .plain && s.text.isEmpty

/-- What a scalar stands for where any kind of value may stand. A core tag decides the kind and the
text has to fit it; every other tag makes a string. -/
def resolve? (s : Scalar) : Option Plain :=
  if s.isLocal then none
  else
    match s.tag with
    | none => some (if s.style == .plain then plain s.text else .text s.text)
    | some t =>
      if t = boolTag then (bool? s.text).map .bool
      else if t = intTag then integer? s.text
      else if t = floatTag then (double? s.text).map .real
      else if t = nullTag then if isNullWord s.text then some .null else none
      else some (.text s.text)

/-- Whether a value of a kind may be read from the scalar: a plain one always, a literal block if it
carries the kind's tag. -/
def admits (s : Scalar) (tag : String) : Bool :=
  s.style == .plain || (s.style == .literal && s.tag == some tag)

end Scalar

end Yaml

end Swagger
