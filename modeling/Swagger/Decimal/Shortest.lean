import Swagger.Decimal.Double

/-! # The shortest decimal that reads back
Among all decimals that round to a given double, those with the fewest digits, and of these the
nearest to the double.

* `Decimal` — an integer of digits and a power of ten.
* `Decimal.onGrid?` — the better of a double's two neighbours on a decimal grid, if it reads back.
* `Decimal.shortest` — the first grid, from coarse to fine, that has such a neighbour.
* `DecimalLayout.write` — a double as text: where positional notation ends and how an exponent is
  marked is the layout's decision. -/

namespace Swagger

/-- The decimal number `digits · 10 ^ exponent`. -/
structure Decimal where
  /-- The significant digits, as an integer. -/
  digits : Nat
  /-- The power of ten of the last digit. -/
  exponent : Int
deriving DecidableEq

namespace Decimal

/-- The number of decimal digits of a natural number. -/
def width (n : Nat) : Nat := (Nat.toDigits 10 n).length

/-- The exponent `e` with `10 ^ e ≤ n / d < 10 ^ (e + 1)`, for positive `n` and `d`. -/
def order (n d : Nat) : Int :=
  if d ≤ n then (width (n / d) : Int) - 1 else -(width ((d - 1) / n) : Int)

/-- The better of the two neighbours of `m · 2 ^ q` on the grid `10 ^ k`, if one of them lies between
the bounds `lo · 2 ^ (q - 2)` and `hi · 2 ^ (q - 2)`, which belong to the interval when `closed`. -/
def onGrid? (m lo hi : Nat) (q : Int) (closed : Bool) (k : Int) : Option Decimal :=
  let p := Double.power 2 (q - 2)
  let g := Double.power 10 k
  let unit := g.1 * p.2
  let scale := p.1 * g.2
  let v := 4 * m * scale
  let a := v / unit
  let r := v % unit
  let below : Bool := if closed then decide (lo * scale ≤ a * unit) else decide (lo * scale < a * unit)
  let above : Bool :=
    if closed then decide ((a + 1) * unit ≤ hi * scale) else decide ((a + 1) * unit < hi * scale)
  if below && above then
    if 2 * r < unit then some ⟨a, k⟩
    else if unit < 2 * r then some ⟨a + 1, k⟩
    else some ⟨a + a % 2, k⟩
  else if below then some ⟨a, k⟩
  else if above then some ⟨a + 1, k⟩
  else none

/-- Drop zeros at the end of the digits; `fuel` bounds their number. -/
def trim : Nat → Decimal → Decimal
  | 0, d => d
  | fuel + 1, d =>
    if d.digits % 10 == 0 && d.digits != 0 then trim fuel ⟨d.digits / 10, d.exponent + 1⟩ else d

/-- The shortest decimal that reads back as a finite double's magnitude. Seventeen digits always do,
so the search ends. -/
def shortest (d : Double) : Decimal :=
  let m := d.magnitude.1
  let q := d.magnitude.2
  if m = 0 then ⟨0, 0⟩
  else
    let lo := if d.isBinadeStart then 4 * m - 1 else 4 * m - 2
    let p := Double.power 2 q
    let top := order (m * p.1) p.2
    let found := (List.range 17).findSome? fun (i : Nat) =>
      onGrid? m lo (4 * m + 2) q (m % 2 == 0) (top - (i : Int))
    trim 20 (found.getD ⟨m * p.1, 0⟩)

end Decimal

/-- How a double is set out as text. -/
structure DecimalLayout where
  /-- The least position of the point, counted from the first digit, that is written positionally. -/
  firstPlace : Int
  /-- The last position of the point that is written positionally. -/
  lastPlace : Int
  /-- Whether a positive exponent has a plus sign. -/
  plus : Bool
  /-- The text of infinity, without a sign. -/
  infinity : String
  /-- The text of what is not a number. -/
  nan : String

namespace DecimalLayout

/-- A row of zeros. -/
def zeros (n : Nat) : String := String.ofList (List.replicate n '0')

/-- A finite magnitude: positional with at least one place after the point, or with an exponent. -/
def writeDecimal (layout : DecimalLayout) (d : Decimal) : String :=
  let ds := Nat.toDigits 10 d.digits
  let n := ds.length
  let point : Int := (n : Int) + d.exponent
  if d.digits = 0 then "0.0"
  else if layout.firstPlace ≤ point ∧ point ≤ layout.lastPlace then
    if 0 ≤ d.exponent then String.ofList ds ++ zeros d.exponent.natAbs ++ ".0"
    else if 0 < point then
      String.ofList (ds.take point.natAbs) ++ "." ++ String.ofList (ds.drop point.natAbs)
    else "0." ++ zeros point.natAbs ++ String.ofList ds
  else
    let mantissa :=
      if n = 1 then String.ofList ds
      else String.ofList (ds.take 1) ++ "." ++ String.ofList (ds.drop 1)
    let e := point - 1
    let sign := if e < 0 then "-" else if layout.plus then "+" else ""
    mantissa ++ "e" ++ sign ++ toString e.natAbs

/-- The text of a double: the fewest digits that read back, in the given layout. -/
def write (layout : DecimalLayout) (d : Double) : String :=
  if d.isNaN then layout.nan
  else
    let body := if d.isFinite then layout.writeDecimal (Decimal.shortest d) else layout.infinity
    if d.isNegative then "-" ++ body else body

end DecimalLayout

end Swagger
