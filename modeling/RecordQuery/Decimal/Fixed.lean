import RecordQuery.Binary64

/-!
# Fixed-point decimals

Decimals with a coefficient below `2 ^ 96` and at most 28 places after the point, the numbers in
which an integer and a double are compared. An integer is one exactly. A double becomes one by
`FixedDecimal.ofBinary64`, which trades its power of two for a power of ten as long as the
coefficient has room, and then keeps about as many digits as the double carries; a double out of
range has none.
-/

namespace RecordQuery

/-- The number `coefficient / 10 ^ places`. -/
structure FixedDecimal where
  /-- The digits, with their sign. -/
  coefficient : Int
  /-- How many of the digits stand after the point. -/
  places : Nat
deriving DecidableEq

namespace FixedDecimal

/-- An integer, without places. -/
def ofInt (n : Int) : FixedDecimal := ⟨n, 0⟩

/-- Decimals are compared by their exact values. -/
def order (a b : FixedDecimal) : Ordering :=
  compare (a.coefficient * Nat.pow 10 b.places) (b.coefficient * Nat.pow 10 a.places)

/-- Coefficients lie below this bound, `2 ^ 96`. -/
def bound : Nat := 0x1000000000000000000000000

/-- The coefficient without its last digit, rounded half up. -/
def dropDigit (m : Nat) : Nat := if 5 ≤ m % 10 then m / 10 + 1 else m / 10

/-- Trades the factor `2 ^ -n` of `m * 10 ^ t` for powers of ten: an even coefficient is halved, an
    odd one multiplied by five, or halved all the same when five times it has no room. -/
def clearHalves : Nat → Nat → Int → Nat × Int
  | 0, m, t => (m, t)
  | n + 1, m, t =>
    if m % 2 = 0 then clearHalves n (m / 2) (t + 1)
    else if 5 * m < bound then clearHalves n (5 * m) t
    else clearHalves n (m / 2) (t + 1)

/-- Trades the factor `5 ^ n` missing from `m * 10 ^ t` for powers of ten: the coefficient is
    doubled while it has room and divided by five after that. -/
def clearFives : Nat → Nat → Int → Option (Nat × Int)
  | 0, m, t => some (m, t)
  | n + 1, m, t =>
    if 2 * m < bound then clearFives n (2 * m) (t - 1)
    else if (n + 1 : Int) < 2 * t then none
    else clearFives n (m / 5) t

/-- Multiplies the coefficient by `10 ^ n`, if it has room. -/
def raise : Nat → Nat → Option Nat
  | 0, m => some m
  | n + 1, m => if 10 * m < bound then raise n (10 * m) else none

/-- Drops `n` places beyond the 28th; a coefficient that vanishes leaves zero, without places. -/
def dropExcess : Nat → Nat → Nat × Nat
  | 0, m => (m, 28)
  | n + 1, m => if m / 10 = 0 then (0, 0) else dropExcess n (dropDigit m)

/-- Drops places, last first, until the coefficient has no more bits than a fraction. -/
def trim : Nat → Nat → Nat × Nat
  | 0, m => (m, 0)
  | places + 1, m =>
    if m < Binary64.leadingWeight then (m, places + 1) else trim places (dropDigit m)

/-- The coefficient and power of ten of the double `m * 2 ^ e`, before its places are cut. -/
def clearPower (m : Nat) (e : Int) : Option (Nat × Int) :=
  if e ≤ 0 then some (clearHalves (-e).toNat m e) else clearFives e.toNat m e

/-- The coefficient and places of `m * 10 ^ t`. -/
def cutPlaces (m : Nat) (t : Int) : Option (Nat × Nat) :=
  if 0 < t then (raise t.toNat m).map fun m => (m, 0)
  else
    let (m, places) := if t < -28 then dropExcess (-28 - t).toNat m else (m, (-t).toNat)
    some (trim places m)

/-- The decimal that stands for a double, if it has one. -/
def ofBinary64 (x : Binary64) : Option FixedDecimal :=
  if !x.isFinite then none
  else if x.isZero then some (ofInt 0)
  else do
    let (m, t) ← clearPower x.significand x.power
    let (m, places) ← cutPlaces m t
    return ⟨if x.negative then -(m : Int) else m, places⟩

end FixedDecimal

end RecordQuery
