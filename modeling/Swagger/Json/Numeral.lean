import Swagger.Node

/-! # JSON numerals
The value of a number written in JSON. An integer within sixty-four bits keeps its value. Every other
number is a double, found by one rounding for each step: the digits as far as they fit into
sixty-four bits, rounded to a double, are then multiplied or divided by a power of ten.

* `Numeral` — the parts of a written number.
* `Numeral.value?` — its value, which is missing when it lies beyond the largest double. -/

namespace Swagger

namespace Json

/-- The exponent of a written number. -/
structure Exponent where
  /-- Whether it has a minus sign. -/
  negative : Bool
  /-- Its digits. -/
  digits : List Nat

/-- The parts of a number as written. -/
structure Numeral where
  /-- Whether it has a minus sign. -/
  negative : Bool
  /-- The digits before the point. -/
  whole : List Nat
  /-- The digits after the point; none without a point. -/
  frac : List Nat
  /-- The exponent, if there is one. -/
  exponent : Option Exponent

/-- Append digits to a number as long as it stays below a bound; the second part counts the digits
that were taken. -/
def appendDigits (bound : Nat) : Nat → List Nat → Nat × Nat
  | n, [] => (n, 0)
  | n, d :: rest =>
    if n * 10 + d < bound then
      let r := appendDigits bound (n * 10 + d) rest
      (r.1, r.2 + 1)
    else (n, 0)

/-- `f · 10 ^ e` in steps of at most 308 decimal orders, each rounded. Nothing is the value of a
product that overflows; a quotient that has become zero ends the division. -/
def scale : Nat → Double → Int → Option Double
  | 0, f, _ => some f
  | fuel + 1, f, e =>
    if e.natAbs ≤ 308 then
      if 0 ≤ e then
        let p := f.mul (Double.powerOfTen e.natAbs)
        if p.isFinite then some p else none
      else some (f.div (Double.powerOfTen e.natAbs))
    else if f.isZero then some f
    else if 0 ≤ e then none
    else scale fuel (f.div (Double.powerOfTen 308)) (e + 308)

/-- The double with a significand and a decimal exponent. -/
def double? (negative : Bool) (significand : Nat) (e : Int) : Option Double :=
  (scale (e.natAbs / 308 + 1) (Double.ofInt significand) e).map fun d =>
    if negative then d.neg else d

namespace Numeral

/-- Whether the number is written as an integer whose digits all fit. -/
def isPlain (n : Numeral) (taken : Nat) : Bool :=
  n.frac.isEmpty && n.exponent.isNone && taken == n.whole.length

/-- An integer, or the double that takes its place: a negative zero, or what is below the least
integer of sixty-four bits. -/
def integer (negative : Bool) (n : Nat) : Number :=
  if negative then
    if n = 0 ∨ Nat.pow 2 63 < n then .real (Double.ofInt n).neg else .int (-(n : Int))
  else .int n

/-- The value of a written number. -/
def value? (n : Numeral) : Option Number :=
  let w := appendDigits (Nat.pow 2 64) 0 n.whole
  if n.isPlain w.2 then some (integer n.negative w.1)
  else
    let dropped := n.whole.length - w.2
    let s := if n.frac.isEmpty then (w.1, 0) else appendDigits (Nat.pow 2 64) w.1 n.frac
    let base : Int := (dropped : Int) - (s.2 : Int)
    match n.exponent with
    | none => (double? n.negative s.1 base).map .real
    | some x =>
      let e := appendDigits (Nat.pow 2 31) 0 x.digits
      if e.2 < x.digits.length then
        if s.1 = 0 ∨ x.negative then some (.real (Double.zero n.negative)) else none
      else
        let shift : Int := if x.negative then -(e.1 : Int) else e.1
        (double? n.negative s.1 (base + shift)).map .real

end Numeral

end Json

end Swagger
