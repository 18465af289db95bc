/-!
# Double-precision numbers

A double by its 64 bits: a sign bit, eleven exponent bits and 52 fraction bits. Nothing here uses
the machine's floating-point unit: a finite double is a significand times a power of two, and every
operation computes its exact result and rounds it once.

* `Binary64.significand`, `Binary64.power`: the exact value of a finite double.
* `Binary64.equals`, `Binary64.order`: numeric equality, and the total order that sorts doubles.
* `Binary64.ofRatio`: the nearest double to a ratio, a tie going to the even significand; integers
  (`ofInt`), decimals (`ofDecimal`), products (`mul`) and quotients (`div`) are rounded by it.
-/

namespace RecordQuery

/-- A double-precision number, given by its bits. -/
structure Binary64 where
  /-- Sign, exponent and fraction, from the highest bit down. -/
  bits : UInt64
deriving DecidableEq

namespace Binary64

/-! ### Parts of a double -/

/-- The weight of the sign bit, `2 ^ 63`. -/
def signWeight : Nat := 0x8000000000000000

/-- The weight of the bit before the fraction, `2 ^ 52`, which normal doubles leave out. -/
def leadingWeight : Nat := 0x10000000000000

/-- The sign bit. -/
def negative (x : Binary64) : Bool := decide (signWeight ≤ x.bits.toNat)

/-- All bits but the sign; they grow with the absolute value. -/
def magnitude (x : Binary64) : Nat := x.bits.toNat % signWeight

/-- The magnitude of the infinities: finite doubles lie below it, NaNs above it. -/
def infiniteMagnitude : Nat := 0x7FF0000000000000

/-- The magnitude of a NaN without a payload. -/
def quietMagnitude : Nat := 0x7FF8000000000000

/-- The double with the given sign and magnitude. -/
def ofMagnitude (negative : Bool) (magnitude : Nat) : Binary64 :=
  ⟨UInt64.ofNat (if negative then signWeight + magnitude else magnitude)⟩

/-- Not a number. -/
def isNaN (x : Binary64) : Bool := decide (infiniteMagnitude < x.magnitude)

/-- Neither infinite nor a NaN. -/
def isFinite (x : Binary64) : Bool := decide (x.magnitude < infiniteMagnitude)

/-- One of the two zeros. -/
def isZero (x : Binary64) : Bool := x.magnitude == 0

/-- The significand of a finite double: its fraction, with the leading bit if it is normal. -/
def significand (x : Binary64) : Nat :=
  if x.magnitude < leadingWeight then x.magnitude
  else leadingWeight + x.magnitude % leadingWeight

/-- The power of two that scales the significand of a finite double. -/
def power (x : Binary64) : Int :=
  if x.magnitude < leadingWeight then -1074 else (x.magnitude / leadingWeight : Nat) - 1075

/-- The double with the opposite sign. -/
def neg (x : Binary64) : Binary64 := ofMagnitude (!x.negative) x.magnitude

/-! ### Comparison -/

/-- The place of a double on the number line, where the zeros share one: negative numbers from the
    largest down, the zeros, positive numbers. NaNs lie beyond the infinities. -/
def orderKey (x : Binary64) : Int := if x.negative then -(x.magnitude : Int) else x.magnitude

/-- The place of a double in the order of all bits, where the negative zero comes before the other
    one. -/
def totalKey (x : Binary64) : Int := if x.negative then -(x.magnitude : Int) - 1 else x.magnitude

/-- Numeric equality: the two zeros are equal and a NaN differs from every double. -/
def equals (x y : Binary64) : Bool := !x.isNaN && !y.isNaN && x.orderKey == y.orderKey

/-- The total order on doubles. Numerically equal ones are equal, and all others, NaNs among them,
    are ordered by their bits. -/
def order (x y : Binary64) : Ordering :=
  if x.equals y then .eq else compare x.totalKey y.totalKey

/-! ### Rounding -/

/-- The natural number nearest to `num / den`, a tie going to the even one. -/
def roundHalfEven (num den : Nat) : Nat :=
  let q := num / den
  let r := num % den
  if 2 * r < den then q
  else if den < 2 * r then q + 1
  else if q % 2 = 0 then q else q + 1

/-- The ratio `num / den` times `base ^ e`, as numerator and denominator. -/
def scaleRatio (num den base : Nat) (e : Int) : Nat × Nat :=
  if 0 ≤ e then (num * Nat.pow base e.toNat, den) else (num, den * Nat.pow base (-e).toNat)

/-- The largest `e` with `2 ^ e ≤ num / den`, for a positive ratio. -/
def floorLog2 (num den : Nat) : Int :=
  let e : Int := (num.log2 : Int) - den.log2
  let (n, d) := scaleRatio num den 2 (-e)
  if n < d then e - 1 else e

/-- The double nearest to `num / den`, a tie going to the even significand. Ratios too large for
    a finite double give an infinity. -/
def ofRatio (negative : Bool) (num den : Nat) : Binary64 :=
  if num = 0 then ofMagnitude negative 0
  else
    let power := max (floorLog2 num den - 52) (-1074)
    let (n, d) := scaleRatio num den 2 (-power)
    ofMagnitude negative
      (min ((power + 1074).toNat * leadingWeight + roundHalfEven n d) infiniteMagnitude)

/-- The double nearest to an integer. -/
def ofInt (n : Int) : Binary64 := ofRatio (decide (n < 0)) n.natAbs 1

/-- The number of decimal digits of `n`; zero has none. -/
def digitCount (n : Nat) : Nat := if n = 0 then 0 else (Nat.toDigits 10 n).length

/-- The double nearest to `digits * 10 ^ exponent`. Exponents far outside the range of doubles
    are settled without computing the power. -/
def ofDecimal (negative : Bool) (digits : Nat) (exponent : Int) : Binary64 :=
  if digits = 0 then ofMagnitude negative 0
  else if exponent + digitCount digits > 310 then ofMagnitude negative infiniteMagnitude
  else if exponent + digitCount digits < -330 then ofMagnitude negative 0
  else
    let (num, den) := scaleRatio digits 1 10 exponent
    ofRatio negative num den

/-- The product of two finite doubles, rounded once. -/
def mul (x y : Binary64) : Binary64 :=
  let (num, den) := scaleRatio (x.significand * y.significand) 1 2 (x.power + y.power)
  ofRatio (x.negative != y.negative) num den

/-- The quotient of two finite doubles, rounded once; the divisor is not zero. -/
def div (x y : Binary64) : Binary64 :=
  let (num, den) := scaleRatio x.significand y.significand 2 (x.power - y.power)
  ofRatio (x.negative != y.negative) num den

end Binary64

end RecordQuery
