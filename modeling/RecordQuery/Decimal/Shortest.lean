import RecordQuery.Binary64

/-!
# Shortest decimals

The decimal that a double is written as: of all decimals that read back as the double, those with
the fewest digits, and of these the one nearest to it. The decimals that read back form an interval
around the double (half a step to each side, the ends included when the significand is even), and
on each decimal grid only the two neighbours of the double need to be tried.

* `Decimal.interval`: the ends of that interval.
* `Decimal.nearestOn`: the point of one grid to choose, if the interval holds one.
* `Decimal.shortest`: the choice on the coarsest grid that has one.
-/

namespace RecordQuery

/-- The decimal `digits * 10 ^ exponent`. -/
structure Decimal where
  /-- The digits, as a natural number. -/
  digits : Nat
  /-- The power of ten that scales them. -/
  exponent : Int
deriving DecidableEq

/-- Which of two equally near decimals is taken. -/
inductive Tie where
  /-- The larger one. -/
  | up
  /-- The one with an even last digit. -/
  | even
deriving DecidableEq

namespace Decimal

/-- The decimals that read back as a double: those from `low` to `high`, in units of
    `2 ^ power`, the ends included if `closed`. The double itself is `middle`. -/
structure Interval where
  /-- The lower end. -/
  low : Nat
  /-- The double. -/
  middle : Nat
  /-- The upper end. -/
  high : Nat
  /-- The unit is `2 ^ power`. -/
  power : Int
  /-- The ends read back as well. -/
  closed : Bool

/-- The interval of a finite double. Below a power of two the step is half as wide. -/
def interval (x : Binary64) : Interval :=
  let m := x.significand
  { low := if m = Binary64.leadingWeight ∧ x.power ≠ -1074 then 4 * m - 1 else 4 * m - 2
    middle := 4 * m
    high := 4 * m + 2
    power := x.power - 2
    closed := m % 2 = 0 }

/-- The multiple of `10 ^ k` to write, as a multiplier: the nearer of the two neighbours of the
    double that lie in the interval. -/
def nearestOn (tie : Tie) (i : Interval) (k : Int) : Option Nat :=
  let (a, b) := Binary64.scaleRatio 1 1 2 i.power
  let (u, v) := Binary64.scaleRatio 1 1 10 k
  let unit := a * v
  let step := u * b
  let inside (n : Nat) : Bool :=
    if i.closed then i.low * unit ≤ n * step ∧ n * step ≤ i.high * unit
    else i.low * unit < n * step ∧ n * step < i.high * unit
  let below := i.middle * unit / step
  match inside below, inside (below + 1) with
  | false, false => none
  | true, false => some below
  | false, true => some (below + 1)
  | true, true =>
    match compare (2 * (i.middle * unit)) ((2 * below + 1) * step), tie with
    | .lt, _ => some below
    | .gt, _ => some (below + 1)
    | .eq, .up => some (below + 1)
    | .eq, .even => some (if below % 2 = 0 then below else below + 1)

/-- The largest `e` with `10 ^ e ≤ num / den`, for a positive ratio. -/
def floorLog10 (num den : Nat) : Int :=
  let e := Binary64.floorLog2 num den * 30103 / 100000
  let reaches (e : Int) : Bool :=
    let (n, d) := Binary64.scaleRatio num den 10 (-e)
    d ≤ n
  if reaches (e + 1) then e + 1 else if reaches e then e else e - 1

/-- Moves the zeros at the end of the digits into the exponent, at most `fuel` of them. -/
def dropZeros : Nat → Decimal → Decimal
  | 0, d => d
  | fuel + 1, d =>
    if d.digits % 10 = 0 then dropZeros fuel ⟨d.digits / 10, d.exponent + 1⟩ else d

/-- The decimal with the fewest digits that reads back as a finite, non-zero double, the nearest
    if there are several. Seventeen digits always suffice. -/
def shortest (tie : Tie) (x : Binary64) : Decimal :=
  let (num, den) := Binary64.scaleRatio x.significand 1 2 x.power
  let leading := floorLog10 num den
  let found := (List.range 17).findSome? fun (n : Nat) =>
    (nearestOn tie (interval x) (leading - n)).map fun c => (⟨c, leading - n⟩ : Decimal)
  dropZeros 17 (found.getD ⟨0, 0⟩)

end Decimal

end RecordQuery
