/-!
# Shortest decimal text of a double

A finite double is exactly `mant · 2^exp`. Reading a decimal back rounds it to
the nearest double, so every decimal inside the rounding interval of
`mant · 2^exp` reads back as that double. `Binary.shortest` takes, among the
decimals with the fewest significant digits in that interval, the one nearest to
the exact value.

Two layouts write the chosen digits: `Decimal.jsonText` is positional for decimal
exponents from -5 to 15 and scientific beyond; `Decimal.plainText` is always
positional. `Binary.oneDecimal` rounds the exact value to one decimal place, a
half going to the even neighbour.
-/

namespace NotebookGuard

/-- The exact value of a finite double: `(-1)^neg · mant · 2^exp`. -/
structure Binary where
  neg : Bool
  mant : Nat
  exp : Int
  /-- The mantissa is the least one of its binade, so the gap to the double below
  is half the gap to the double above. -/
  narrowBelow : Bool
  deriving Repr

/-- A decimal `(-1)^neg · digits · 10^exp`. -/
structure Decimal where
  neg : Bool
  digits : Nat
  exp : Int
  deriving Repr, BEq

namespace Binary

/-- Splits the bits of a finite double into sign, mantissa and exponent. -/
def ofFloat (f : Float) : Binary :=
  let b := f.toBits.toNat
  let neg := b / Nat.pow 2 63 % 2 == 1
  let be : Nat := b / Nat.pow 2 52 % Nat.pow 2 11
  let frac : Nat := b % Nat.pow 2 52
  if be == 0 then { neg, mant := frac, exp := -1074, narrowBelow := false }
  else { neg, mant := frac + Nat.pow 2 52, exp := (be : Int) - 1075, narrowBelow := frac == 0 && be > 1 }

/-- The value, and the two ends of its rounding interval, as numerators over one
common denominator: `(value, low, high, denominator)`. -/
def interval (b : Binary) : Nat × Nat × Nat × Nat :=
  let v := 4 * b.mant
  let lo := if b.narrowBelow then v - 1 else v - 2
  let hi := v + 2
  if b.exp ≥ 2 then
    let s := Nat.pow 2 (b.exp - 2).toNat
    (v * s, lo * s, hi * s, 1)
  else (v, lo, hi, Nat.pow 2 (2 - b.exp).toNat)

end Binary

/-- Compares `d · 10^k` with `x / den`. -/
def compareScaled (d : Nat) (k : Int) (x den : Nat) : Ordering :=
  if k ≥ 0 then compare (d * Nat.pow 10 k.toNat * den) x
  else compare (d * den) (x * Nat.pow 10 (-k).toNat)

/-- `⌊(x / den) / 10^k⌋`. -/
def floorScaled (x den : Nat) (k : Int) : Nat :=
  if k ≥ 0 then x / (den * Nat.pow 10 k.toNat) else x * Nat.pow 10 (-k).toNat / den

/-- The number of decimal digits of a positive number. -/
def digitCount (n : Nat) : Nat := (Nat.toDigits 10 n).length

/-- `⌊log₁₀ (x / den)⌋` for a positive fraction not below `10^-330`. -/
def decimalExponent (x den : Nat) : Int :=
  (digitCount (x * Nat.pow 10 330 / den) : Int) - 1 - 330

/-- Drops trailing zero digits into the exponent. -/
def stripZeros (d : Nat) (k : Int) : Nat × Int :=
  if h : d ≠ 0 ∧ d % 10 = 0 then stripZeros (d / 10) (k + 1) else (d, k)
termination_by d
decreasing_by exact Nat.div_lt_self (Nat.pos_of_ne_zero h.1) (by decide)

namespace Binary

/-- Whether `d · 10^k` reads back as this double. -/
def readsBack (b : Binary) (d : Nat) (k : Int) : Bool :=
  let (_, lo, hi, den) := b.interval
  let even := b.mant % 2 == 0
  let aboveLow := match compareScaled d k lo den with
    | .gt => true
    | .eq => even
    | .lt => false
  let belowHigh := match compareScaled d k hi den with
    | .lt => true
    | .eq => even
    | .gt => false
  aboveLow && belowHigh

/-- The decimal with `n` significant digits nearest to the value that reads back,
if there is one. -/
def withDigits (b : Binary) (n : Nat) : Option (Nat × Int) :=
  let (v, _, _, den) := b.interval
  let k := decimalExponent v den - n + 1
  let d := floorScaled v den k
  let downOk := b.readsBack d k
  let upOk := b.readsBack (d + 1) k
  if downOk && upOk then
    match compareScaled (2 * d + 1) k (2 * v) den with
    | .gt => some (d, k)
    | .lt => some (d + 1, k)
    | .eq => some (if d % 2 == 0 then d else d + 1, k)
  else if downOk then some (d, k)
  else if upOk then some (d + 1, k)
  else none

/-- The shortest decimal that reads back as this double, nearest of those. -/
def shortest (b : Binary) : Decimal :=
  if b.mant = 0 then { neg := b.neg, digits := 0, exp := 0 }
  else
    let (v, _, _, den) := b.interval
    let fallback := (floorScaled v den (decimalExponent v den - 16), decimalExponent v den - 16)
    let (d, k) := ((List.range 17).findSome? fun i => b.withDigits (i + 1)).getD fallback
    let (d, k) := stripZeros d k
    { neg := b.neg, digits := d, exp := k }

/-- The exact value rounded to one decimal place, a half going to the even
neighbour, as tenths. -/
def tenths (b : Binary) : Nat :=
  if b.exp ≥ 0 then b.mant * 10 * Nat.pow 2 b.exp.toNat
  else
    let den := Nat.pow 2 (-b.exp).toNat
    let q := b.mant * 10 / den
    let r := b.mant * 10 % den
    match compare (2 * r) den with
    | .gt => q + 1
    | .eq => if q % 2 == 1 then q + 1 else q
    | .lt => q

end Binary

/-- `n` zero characters. -/
def zeros (n : Nat) : String := String.ofList (List.replicate n '0')

namespace Decimal

/-- The sign mark written before the digits. -/
def signText (d : Decimal) : String := if d.neg then "-" else ""

/-- The layout of numbers in JSON text: positional with at least one fractional
digit while the decimal exponent is between -5 and 15, else one digit, a point
if more digits follow, `e` and the exponent. -/
def jsonText (d : Decimal) : String :=
  if d.digits = 0 then d.signText ++ "0.0"
  else
    let s := toString d.digits
    let len : Int := s.length
    let kk := len + d.exp
    let body :=
      if 0 ≤ d.exp ∧ kk ≤ 16 then s ++ zeros d.exp.toNat ++ ".0"
      else if 0 < kk ∧ kk ≤ 16 then
        String.ofList (s.toList.take kk.toNat) ++ "." ++ String.ofList (s.toList.drop kk.toNat)
      else if -5 < kk ∧ kk ≤ 0 then "0." ++ zeros (-kk).toNat ++ s
      else
        let e := toString (kk - 1)
        if len = 1 then s ++ "e" ++ e
        else String.ofList (s.toList.take 1) ++ "." ++ String.ofList (s.toList.drop 1) ++ "e" ++ e
    d.signText ++ body

/-- The layout of plain text: always positional, with no fractional part when
the value is whole. -/
def plainText (d : Decimal) : String :=
  if d.digits = 0 then d.signText ++ "0"
  else
    let s := toString d.digits
    let len : Int := s.length
    let kk := len + d.exp
    let body :=
      if kk ≤ 0 then "0." ++ zeros (-kk).toNat ++ s
      else if kk < len then
        String.ofList (s.toList.take kk.toNat) ++ "." ++ String.ofList (s.toList.drop kk.toNat)
      else s ++ zeros (kk - len).toNat
    d.signText ++ body

end Decimal

/-! ## Texts of a double -/

namespace FloatText

/-- JSON text of a double: the shortest digits that read back, and `null` for
NaN and the infinities, which JSON cannot write. -/
def json (f : Float) : String :=
  if f.isFinite then (Binary.ofFloat f).shortest.jsonText else "null"

/-- Plain text of a double: the shortest digits that read back, positional;
`NaN`, `inf` and `-inf` otherwise. -/
def plain (f : Float) : String :=
  if f.isFinite then (Binary.ofFloat f).shortest.plainText
  else if f.isNaN then "NaN"
  else if f < 0 then "-inf" else "inf"

/-- Plain text that always shows a decimal point when the value is finite. -/
def point (f : Float) : String :=
  let s := plain f
  if f.isFinite && !s.contains '.' then s ++ ".0" else s

/-- A finite double rounded to one decimal place, a half to even. -/
def oneDecimal (f : Float) : String :=
  let b := Binary.ofFloat f
  let t := b.tenths
  (if b.neg then "-" else "") ++ toString (t / 10) ++ "." ++ toString (t % 10)

end FloatText

end NotebookGuard
