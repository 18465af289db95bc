import Mathlib.Algebra.Order.Field.Basic
import Mathlib.Data.Rat.Cast.Order
import Mathlib.Order.Compare
import Mathlib.Tactic.FieldSimp
import Mathlib.Tactic.Linarith
import Mathlib.Tactic.NormNum
import Mathlib.Tactic.Positivity
import Mathlib.Tactic.Ring
import RecordQuery.Decimal.Fixed

/-!
# Cutting places

A decimal that has more places than the format allows, or more digits than a double carries, loses
its last places one at a time, and each time what is left is rounded half up. Digit by digit this is
not the nearest decimal, but it keeps the order of values, whatever the number of places that two
values are given with (`ratio_cut_le`).

* `FixedDecimal.value`: the number a decimal stands for, which is what decimals are compared by
  (`order_eq`).
* `FixedDecimal.cut`: both ways of losing places, one after the other.
* `FixedDecimal.ratio_trim_le`: keeping the digits of a double keeps the order of coefficients with
  the same number of places. The one that stops earlier is below `2 ^ 52`, and the other one does
  not fall below that by being rounded once more (`le_ratio_trim`).
-/

namespace RecordQuery.FixedDecimal

/-- The number that a decimal stands for. -/
def value (d : FixedDecimal) : ℚ := d.coefficient / 10 ^ d.places

/-- The number with a coefficient and a number of places. -/
def ratio (c : ℕ × ℕ) : ℚ := c.1 / 10 ^ c.2

theorem ratio_nonneg (c : ℕ × ℕ) : 0 ≤ ratio c := by
  rw [ratio]
  positivity

/-- Numbers with different places are compared over a common power of ten. -/
theorem ratio_le_ratio_iff {m n p q : ℕ} : ratio (m, p) ≤ ratio (n, q) ↔ m * 10 ^ q ≤ n * 10 ^ p := by
  rw [ratio, ratio, div_le_div_iff₀ (by positivity) (by positivity)]
  exact_mod_cast Iff.rfl

theorem ratio_le_ratio {m n : ℕ} (h : m ≤ n) (p : ℕ) : ratio (m, p) ≤ ratio (n, p) :=
  ratio_le_ratio_iff.2 (Nat.mul_le_mul_right _ h)

/-- Comparisons agree when the orders do. -/
theorem compare_congr {α β : Type*} [LinearOrder α] [LinearOrder β] {a b : α} {c d : β}
    (hlt : a < b ↔ c < d) (hgt : b < a ↔ d < c) : compare a b = compare c d := by
  rcases lt_trichotomy a b with h | h | h
  · rw [compare_lt_iff_lt.2 h, compare_lt_iff_lt.2 (hlt.1 h)]
  · subst h
    have hcd : c = d := le_antisymm (not_lt.1 fun h => lt_irrefl _ (hgt.2 h))
      (not_lt.1 fun h => lt_irrefl _ (hlt.2 h))
    rw [compare_eq_iff_eq.2 rfl, compare_eq_iff_eq.2 hcd]
  · rw [compare_gt_iff_gt.2 h, compare_gt_iff_gt.2 (hgt.1 h)]

/-- Decimals are ordered by their values, whatever their places. -/
theorem order_eq (a b : FixedDecimal) : a.order b = compare a.value b.value := by
  have hlt (a b : FixedDecimal) : a.coefficient * (Nat.pow 10 b.places : ℕ) <
      b.coefficient * (Nat.pow 10 a.places : ℕ) ↔ a.value < b.value := by
    rw [value, value, div_lt_div_iff₀ (by positivity) (by positivity)]
    exact_mod_cast Iff.rfl
  exact compare_congr (hlt a b) (hlt b a)

/-! ### One digit -/

/-- Rounding half up keeps the order of coefficients. -/
theorem dropDigit_le {m n : ℕ} (h : m ≤ n) : dropDigit m ≤ dropDigit n := by
  rw [dropDigit, dropDigit]
  split <;> split <;> omega

theorem dropDigit_ten_mul (m : ℕ) : dropDigit (10 * m) = m := by
  rw [dropDigit]
  split <;> omega

/-! ### Digits of a double -/

/-- The smallest coefficient that dropping a digit from one of 53 bits leaves. -/
def trimmedWeight : ℕ := dropDigit Binary64.leadingWeight

/-- A coefficient that has just lost a digit stays at least as large as the smallest one that has. -/
theorem le_ratio_trim {m : ℕ} (h : trimmedWeight ≤ m) (p : ℕ) :
    ratio (trimmedWeight, p) ≤ ratio (trim p m) := by
  induction p generalizing m with
  | zero => exact ratio_le_ratio h 0
  | succ p ih =>
    rw [trim]
    split
    · exact ratio_le_ratio h _
    · rename_i hm
      have hstep : ratio (trimmedWeight, p + 1) ≤ ratio (trimmedWeight, p) :=
        ratio_le_ratio_iff.2 (Nat.mul_le_mul_left _ (Nat.pow_le_pow_right (by decide) (by omega)))
      exact hstep.trans (ih (dropDigit_le (not_lt.1 hm)))

/-- Trimming keeps the order of coefficients with the same number of places, even if they lose
    different numbers of digits. -/
theorem ratio_trim_le {m n : ℕ} (h : m ≤ n) (p : ℕ) : ratio (trim p m) ≤ ratio (trim p n) := by
  induction p generalizing m n with
  | zero => exact ratio_le_ratio h 0
  | succ p ih =>
    rw [trim, trim]
    split
    · rename_i hm
      split
      · exact ratio_le_ratio h _
      · -- The larger one goes on losing digits, but stays above the weight the other is below.
        rename_i hn
        have hstep : ratio (m, p + 1) ≤ ratio (trimmedWeight, p) := by
          rw [ratio_le_ratio_iff, pow_succ]
          have : m ≤ 10 * trimmedWeight := (Nat.le_of_lt hm).trans (by decide)
          calc m * 10 ^ p ≤ 10 * trimmedWeight * 10 ^ p := Nat.mul_le_mul_right _ this
            _ = trimmedWeight * (10 ^ p * 10) := by ring
        exact hstep.trans (le_ratio_trim (dropDigit_le (not_lt.1 hn)) p)
    · rename_i hm
      rw [if_neg (by omega)]
      exact ih (dropDigit_le h)

/-- A zero at the end changes nothing. -/
theorem ratio_trim_ten_mul (p m : ℕ) : ratio (trim (p + 1) (10 * m)) = ratio (trim p m) := by
  rw [trim, dropDigit_ten_mul]
  split
  · rename_i hm
    have htrim : trim p m = (m, p) := by
      cases p with
      | zero => rfl
      | succ p => rw [trim, if_pos (by omega)]
    rw [htrim, ratio, ratio]
    push_cast
    rw [pow_succ]
    field_simp
  · rfl

theorem ratio_trim_zero (p : ℕ) : ratio (trim p 0) = 0 := by
  cases p <;> simp [trim, ratio, Binary64.leadingWeight]

/-! ### All places -/

/-- A coefficient with a number of places, first cut to 28 places and then to the digits of a
    double. -/
def cut (m p : ℕ) : ℕ × ℕ :=
  let (m, p) := if 28 < p then dropExcess (p - 28) m else (m, p)
  trim p m

/-- For an exponent that is not positive, `cut` is what the format does, and it never fails. -/
theorem cutPlaces_eq (m p : ℕ) : cutPlaces m (-p) = some (cut m p) := by
  have hp : ¬0 < (-p : ℤ) := by omega
  have hexcess : (-28 - (-p : ℤ)).toNat = p - 28 := by omega
  rw [cutPlaces, cut, if_neg hp, hexcess]
  by_cases h : 28 < p
  · rw [if_pos h, if_pos (by omega)]
  · rw [if_neg h, if_neg (by omega)]
    simp

/-- Up to 28 places only the digits of a double are kept. -/
theorem cut_eq_trim {p : ℕ} (h : p ≤ 28) (m : ℕ) : cut m p = trim p m := by
  rw [cut, if_neg (by omega)]

/-- From 28 places on the excess is dropped first. -/
theorem cut_eq_dropExcess {p : ℕ} (h : 28 ≤ p) (m : ℕ) :
    cut m p = trim (dropExcess (p - 28) m).2 (dropExcess (p - 28) m).1 := by
  rcases h.eq_or_lt with rfl | h
  · rw [cut, if_neg (by omega)]
    rfl
  · rw [cut, if_pos h]

theorem ratio_cut_zero (p : ℕ) : ratio (cut 0 p) = 0 := by
  by_cases h : p ≤ 28
  · rw [cut_eq_trim h, ratio_trim_zero]
  · rw [cut_eq_dropExcess (by omega), show p - 28 = (p - 29) + 1 by omega, dropExcess, if_pos rfl]
    exact ratio_trim_zero 0

/-- A zero at the end is one place more, which is the first to be lost. -/
theorem ratio_cut_ten_mul (m p : ℕ) : ratio (cut (10 * m) (p + 1)) = ratio (cut m p) := by
  rcases Nat.eq_zero_or_pos m with rfl | hm
  · rw [Nat.mul_zero, ratio_cut_zero, ratio_cut_zero]
  -- Within 28 places trimming drops the zero, and beyond them it is the first of the excess.
  by_cases h : p + 1 ≤ 28
  · rw [cut_eq_trim h, cut_eq_trim (by omega), ratio_trim_ten_mul]
  · rw [cut_eq_dropExcess (by omega), cut_eq_dropExcess (by omega),
      show p + 1 - 28 = (p - 28) + 1 by omega, dropExcess, if_neg (by omega), dropDigit_ten_mul]

/-- Any number of zeros at the end changes nothing. -/
theorem ratio_cut_mul_pow (m p k : ℕ) : ratio (cut (m * 10 ^ k) (p + k)) = ratio (cut m p) := by
  induction k with
  | zero => simp
  | succ k ih =>
    rw [← ih, ← ratio_cut_ten_mul (m * 10 ^ k), pow_succ, ← Nat.add_assoc]
    congr 2
    ring

/-- Dropping the same number of places and trimming keeps the order of coefficients. -/
theorem ratio_dropExcess_le {m n : ℕ} (h : m ≤ n) (k : ℕ) :
    ratio (trim (dropExcess k m).2 (dropExcess k m).1) ≤
      ratio (trim (dropExcess k n).2 (dropExcess k n).1) := by
  induction k generalizing m n with
  | zero => exact ratio_trim_le h 28
  | succ k ih =>
    rw [dropExcess]
    split
    -- If the smaller one vanishes, there is nothing to compare.
    · rw [ratio_trim_zero]
      exact ratio_nonneg _
    · rename_i hm
      rw [dropExcess, if_neg (by omega)]
      exact ih (dropDigit_le h)

/-- So does cutting, with the same number of places. -/
theorem ratio_cut_le_of_le {m n : ℕ} (h : m ≤ n) (p : ℕ) : ratio (cut m p) ≤ ratio (cut n p) := by
  by_cases hp : p ≤ 28
  · rw [cut_eq_trim hp, cut_eq_trim hp]
    exact ratio_trim_le h p
  · rw [cut_eq_dropExcess (by omega), cut_eq_dropExcess (by omega)]
    exact ratio_dropExcess_le h _

/-- Cutting places keeps the order of values. -/
theorem ratio_cut_le {m n p q : ℕ} (h : ratio (m, p) ≤ ratio (n, q)) :
    ratio (cut m p) ≤ ratio (cut n q) := by
  -- With as many places as both have together, the values differ by their coefficients alone.
  calc ratio (cut m p) = ratio (cut (m * 10 ^ q) (p + q)) := (ratio_cut_mul_pow m p q).symm
    _ ≤ ratio (cut (n * 10 ^ p) (p + q)) := ratio_cut_le_of_le (ratio_le_ratio_iff.1 h) _
    _ = ratio (cut n q) := by rw [Nat.add_comm, ratio_cut_mul_pow]

end RecordQuery.FixedDecimal
