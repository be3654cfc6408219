/-!
# The double nearest to a fraction

`nearestFloat num den` is the double nearest to `num / den`, a tie going to the
even mantissa, and infinity past the largest double. It is computed in exact
natural-number arithmetic and assembled from its bits.
-/

namespace NotebookGuard

/-- The position of the highest set bit, plus one; `0` for `0`. -/
def bitLength (n : Nat) : Nat := if n = 0 then 0 else n.log2 + 1

/-- `⌊num / (den · 2^e)⌋` and whether the division left a remainder, with the
remainder compared to one half: `(quotient, comparison of 2·remainder with the
divisor)`. -/
def divPow2 (num den : Nat) (e : Int) : Nat × Ordering :=
  let (n, d) := if e ≥ 0 then (num, den * Nat.pow 2 e.toNat) else (num * Nat.pow 2 (-e).toNat, den)
  (n / d, compare (2 * (n % d)) d)

/-- The double nearest to `num / den` (`den > 0`), as bits. -/
def nearestBits (num den : Nat) : Nat :=
  if num = 0 then 0
  else
    -- the exponent that leaves 53 bits before the point, not below the subnormal one
    let e0 : Int := (bitLength num : Int) - bitLength den - 53
    let e1 := if (divPow2 num den e0).1 ≥ Nat.pow 2 53 then e0 + 1 else e0
    let e := max e1 (-1074)
    let (q, half) := divPow2 num den e
    let m := match half with
      | .gt => q + 1
      | .eq => if q % 2 = 1 then q + 1 else q
      | .lt => q
    let (m, e) := if m ≥ Nat.pow 2 53 then (m / 2, e + 1) else (m, e)
    if e + 52 > 1023 then 0x7FF0000000000000
    else if m < Nat.pow 2 52 then m
    else (e + 1075).toNat * Nat.pow 2 52 + (m - Nat.pow 2 52)

/-- The double nearest to `num / den`. -/
def nearestFloat (num den : Nat) : Float := Float.ofBits (nearestBits num den).toUInt64

/-- The double nearest to `digits · 10^exp`. -/
def decimalToFloat (digits : Nat) (exp : Int) : Float :=
  if exp ≥ 0 then nearestFloat (digits * Nat.pow 10 exp.toNat) 1
  else nearestFloat digits (Nat.pow 10 (-exp).toNat)

end NotebookGuard
