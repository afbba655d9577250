import Swagger.Decimal.Double

/-! # Doubles near integers
Rounding an integer of sixty-four bits to a double leaves it finite: scaled so that its highest bit is
the fifty-third, it is less than `2 ^ 53` units, and the exponent is far from the greatest one.

* `Double.isFinite_ofParts` — the bits of a finite double.
* `Double.isFinite_ofInt` — the double near an integer. -/

namespace Swagger

namespace Double

/-- The bits of a finite double besides its sign. -/
theorem rest_ofParts (negative : Bool) {r : Nat} (h : r < infinityBits) :
    (ofParts negative r).rest = r := by
  unfold infinityBits at h
  cases negative
  · simp only [rest, ofParts, Bool.false_eq_true, if_false, UInt64.toNat_ofNat']
    omega
  · simp only [rest, ofParts, if_true, UInt64.toNat_ofNat']
    omega

/-- A double is finite whose bits are below those of infinity. -/
theorem isFinite_ofParts (negative : Bool) {r : Nat} (h : r < infinityBits) :
    (ofParts negative r).isFinite = true := by
  rw [isFinite, rest_ofParts negative h]
  exact decide_eq_true h

/-- The nearest integer is at most one more than the quotient rounded down. -/
theorem divNearest_le (n d : Nat) : divNearest n d ≤ n / d + 1 := by
  unfold divNearest
  have hmod : n / d % 2 < 2 := Nat.mod_lt _ (by omega)
  simp only
  split
  · omega
  · split <;> omega

/-- A power with a natural exponent is a natural number. -/
theorem power_natCast (base e : Nat) : power base (e : Int) = (Nat.pow base e, 1) := by
  rw [power, if_neg (by omega), Int.natAbs_natCast]

/-- A power with a negative exponent is one over a natural number. -/
theorem power_neg_natCast (base : Nat) {e : Nat} (h : 0 < e) :
    power base (-(e : Int)) = (1, Nat.pow base e) := by
  rw [power, if_pos (by omega), Int.natAbs_neg, Int.natAbs_natCast]

/-- The order of a natural number is that of its highest bit. -/
theorem binaryOrder_one {n : Nat} (h : n ≠ 0) : binaryOrder n 1 = n.log2 := by
  have hone : Nat.log2 1 = 0 := by decide
  have hle : Nat.pow 2 n.log2 ≤ n := Nat.log2_self_le h
  simp only [binaryOrder, hone]
  rw [Int.ofNat_zero, Int.sub_zero, power_natCast, if_pos (by omega)]

/-- Powers of two are multiplied by adding their exponents. -/
theorem pow_mul_pow {a b c : Nat} (h : a + b = c) :
    Nat.pow 2 a * Nat.pow 2 b = Nat.pow 2 c := by
  rw [← h]
  exact (Nat.pow_add 2 a b).symm

/-- Scaled so that its highest bit is the fifty-third, a natural number is less than `2 ^ 53` units. -/
theorem scaled_lt (n : Nat) : n * (power 2 ((n.log2 : Int) - 52)).2
    < (power 2 ((n.log2 : Int) - 52)).1 * Nat.pow 2 53 := by
  have hlt : n < Nat.pow 2 (n.log2 + 1) := Nat.lt_log2_self
  rcases Nat.lt_or_ge n.log2 52 with hsmall | hlarge
  · have hq : (n.log2 : Int) - 52 = -((52 - n.log2 : Nat) : Int) := by omega
    rw [hq, power_neg_natCast 2 (by omega), Nat.one_mul,
      ← pow_mul_pow (by omega : n.log2 + 1 + (52 - n.log2) = 53)]
    exact Nat.mul_lt_mul_of_pos_right hlt (Nat.pow_pos (by omega))
  · have hq : (n.log2 : Int) - 52 = ((n.log2 - 52 : Nat) : Int) := by omega
    rw [hq, power_natCast, Nat.mul_one, pow_mul_pow (by omega : n.log2 - 52 + 53 = n.log2 + 1)]
    exact hlt

/-- An integer of sixty-four bits, with or without a sign, is near a finite double. -/
theorem isFinite_ofInt {i : Int} (h : i.natAbs < Nat.pow 2 64) : (ofInt i).isFinite = true := by
  unfold ofInt ofRatio
  by_cases hn : i.natAbs = 0
  · rw [if_pos hn]
    exact isFinite_ofParts _ (by decide)
  · have hlog : i.natAbs.log2 < 64 := (Nat.log2_lt hn).2 h
    have hmax : max (binaryOrder i.natAbs 1 - 52) (-1074) = (i.natAbs.log2 : Int) - 52 := by
      rw [binaryOrder_one hn]
      omega
    -- the rounded number of units has at most one more, and the exponent is far from the greatest one
    have hquotient := Nat.div_lt_of_lt_mul (scaled_lt i.natAbs)
    have hnear := divNearest_le (i.natAbs * (power 2 ((i.natAbs.log2 : Int) - 52)).2)
      (power 2 ((i.natAbs.log2 : Int) - 52)).1
    have hpow : Nat.pow 2 52 = 0x10000000000000 ∧ Nat.pow 2 53 = 0x20000000000000 := by decide
    simp only [if_neg hn, hmax, Nat.one_mul]
    generalize divNearest _ _ = units at hnear ⊢
    have hrest : ((i.natAbs.log2 : Int) - 52 + 1074).toNat * Nat.pow 2 52 + units < infinityBits := by
      rw [infinityBits, hpow.1]
      omega
    rw [if_neg (by omega)]
    exact isFinite_ofParts _ hrest

end Double
end Swagger
