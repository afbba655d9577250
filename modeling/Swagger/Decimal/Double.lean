/-! # Double-precision numbers in exact arithmetic
A double is kept as its sixty-four bits, so that equality is decidable and every operation is a
computation on natural numbers.

* `Double.ofRatio` — the double nearest to a fraction, ties to the even neighbour.
* `Double.magnitude` — a finite double is `m · 2 ^ q`; this is the pair `(m, q)`.
* `Double.mul`, `Double.div` — the nearest double to the exact product and quotient.
* `Double.ofDecimal` — the nearest double to `digits · 10 ^ exponent`. -/

namespace Swagger

/-- A double-precision number, given by its bits: sign, eleven bits of exponent, fraction. -/
structure Double where
  /-- The sixty-four bits. -/
  bits : UInt64
deriving DecidableEq, Inhabited

namespace Double

/-- The bits of positive infinity; every larger magnitude is not a number. -/
def infinityBits : Nat := 0x7ff0000000000000

/-- The double with a sign and the remaining sixty-three bits. -/
def ofParts (negative : Bool) (rest : Nat) : Double :=
  ⟨UInt64.ofNat (if negative then 0x8000000000000000 + rest else rest)⟩

/-- Zero with a sign. -/
def zero (negative : Bool) : Double := ofParts negative 0

/-- Infinity with a sign. -/
def infinity (negative : Bool) : Double := ofParts negative infinityBits

/-- The double that is not a number. -/
def nan : Double := ofParts false 0x7ff8000000000000

/-- Whether the sign bit is set. -/
def isNegative (d : Double) : Bool := decide (0x8000000000000000 ≤ d.bits.toNat)

/-- The bits below the sign. -/
def rest (d : Double) : Nat := d.bits.toNat % 0x8000000000000000

/-- Whether the double is a number and not infinite. -/
def isFinite (d : Double) : Bool := decide (d.rest < infinityBits)

/-- Whether the double is not a number. -/
def isNaN (d : Double) : Bool := decide (infinityBits < d.rest)

/-- Whether the double is zero, of either sign. -/
def isZero (d : Double) : Bool := d.rest == 0

/-- The same magnitude with the other sign. -/
def neg (d : Double) : Double := ofParts (!d.isNegative) d.rest

/-- The integer `m` and the power `q` of two with magnitude `m · 2 ^ q`. -/
def magnitude (d : Double) : Nat × Int :=
  let e : Nat := d.rest / Nat.pow 2 52
  let f : Nat := d.rest % Nat.pow 2 52
  if e = 0 then (f, -1074) else (f + Nat.pow 2 52, (e : Int) - 1075)

/-- Whether the next smaller magnitude is only half as far away as the next larger one. -/
def isBinadeStart (d : Double) : Bool := d.rest % Nat.pow 2 52 == 0 && decide (Nat.pow 2 53 ≤ d.rest)

/-- `base ^ e` for an exponent of either sign, as a fraction. -/
def power (base : Nat) (e : Int) : Nat × Nat :=
  if e < 0 then (1, Nat.pow base e.natAbs) else (Nat.pow base e.natAbs, 1)

/-- Divide and round to the nearest integer, ties to the even one. -/
def divNearest (n d : Nat) : Nat :=
  let q := n / d
  let r := n % d
  if 2 * r < d then q else if d < 2 * r then q + 1 else q + q % 2

/-- The exponent `e` with `2 ^ e ≤ n / d < 2 ^ (e + 1)`, for positive `n` and `d`. -/
def binaryOrder (n d : Nat) : Int :=
  let e : Int := (n.log2 : Int) - (d.log2 : Int)
  let p := power 2 e
  if d * p.1 ≤ n * p.2 then e else e - 1

/-- The double nearest to `n / d`, ties to the even neighbour; beyond the largest double it is
infinite. -/
def ofRatio (negative : Bool) (n d : Nat) : Double :=
  if n = 0 then zero negative
  else
    let q := max (binaryOrder n d - 52) (-1074)
    let p := power 2 q
    let m := divNearest (n * p.2) (d * p.1)
    let rest := (q + 1074).toNat * Nat.pow 2 52 + m
    if infinityBits ≤ rest then infinity negative else ofParts negative rest

/-- The double nearest to an integer. -/
def ofInt (i : Int) : Double := ofRatio (decide (i < 0)) i.natAbs 1

/-- The double nearest to `10 ^ e`. -/
def powerOfTen (e : Nat) : Double := ofRatio false (Nat.pow 10 e) 1

/-- The double nearest to the product of two finite doubles. -/
def mul (a b : Double) : Double :=
  let x := a.magnitude
  let y := b.magnitude
  let p := power 2 (x.2 + y.2)
  ofRatio (a.isNegative != b.isNegative) (x.1 * y.1 * p.1) p.2

/-- The double nearest to the quotient of two finite doubles, the second not zero. -/
def div (a b : Double) : Double :=
  let x := a.magnitude
  let y := b.magnitude
  let p := power 2 (x.2 - y.2)
  ofRatio (a.isNegative != b.isNegative) (x.1 * p.1) (y.1 * p.2)

/-- The double nearest to `digits · 10 ^ e`. Exponents that leave the range of doubles whatever the
digits are cut off first, so that no huge power is computed. -/
def ofDecimal (negative : Bool) (digits : Nat) (e : Int) : Double :=
  if digits = 0 then zero negative
  else
    let order : Int := (digits.log2 : Int) + 1
    if 400 < e then infinity negative
    else if e + order < -400 then zero negative
    else
      let p := power 10 e
      ofRatio negative (digits * p.1) p.2

end Double

end Swagger
