import Mathlib.Algebra.Order.Field.Power
import RecordQuery.Proofs.Decimal.Clear
import RecordQuery.Value

/-!
# Doubles as decimals

An integer is compared with a double by way of a decimal, or of doubles if the double has none. In
effect the double is replaced by a rational number, its comparand: the decimal's value, or a number
beyond all integers. Comparands keep the order of doubles (`comparand_mono`), though not strictly:
doubles that differ in their last bits can share one.

* `Binary64.order_eq_compare`: doubles are ordered by their places on the number line, which zeros
  share and NaNs have too.
* `Binary64.absValue`: the exact absolute value of a finite double. From one double to the next it
  grows by at least one part in `2 ^ 53` (`absValue_le_of_magnitude_lt`), more than the way to the
  decimal can lose (`exists_cut`).
* `Binary64.decimal?_eq_none`: the doubles from `2 ^ 96` on, infinities and NaNs have no decimal.
* `Binary64.comparand`: what an integer is compared with, for every double.
-/

namespace RecordQuery

open FixedDecimal

namespace Binary64

variable {x y : Binary64}

/-! ### The order of doubles -/

theorem orderKey_of_negative (h : x.negative = true) : x.orderKey = -(x.magnitude : ℤ) := by
  rw [orderKey, if_pos h]

theorem orderKey_of_not_negative (h : x.negative = false) : x.orderKey = x.magnitude := by
  rw [orderKey, if_neg (by simp [h])]

/-- Different places on the number line are in the order of all bits. -/
theorem totalKey_lt_iff (h : x.orderKey ≠ y.orderKey) :
    x.totalKey < y.totalKey ↔ x.orderKey < y.orderKey := by
  rw [totalKey, totalKey]
  rw [orderKey, orderKey] at *
  cases hx : x.negative <;> cases hy : y.negative <;> simp [hx, hy] at h ⊢ <;> omega

/-- Doubles at one place on the number line have the same bits if they are not numerically equal,
    since only NaNs are not. -/
theorem totalKey_eq_of_equals_eq_false (h : x.orderKey = y.orderKey) (hne : x.equals y = false) :
    x.totalKey = y.totalKey := by
  have hnan : infiniteMagnitude < x.magnitude ∨ infiniteMagnitude < y.magnitude := by
    by_contra hnot
    rw [not_or] at hnot
    rw [equals, isNaN, isNaN, h, decide_eq_false hnot.1, decide_eq_false hnot.2, beq_self_eq_true]
      at hne
    cases hne
  rw [infiniteMagnitude] at hnan
  rw [orderKey, orderKey] at h
  rw [totalKey, totalKey]
  cases hx : x.negative <;> cases hy : y.negative <;> simp [hx, hy] at h ⊢ <;> omega

/-- Doubles are ordered by their places on the number line. -/
theorem order_eq_compare (x y : Binary64) : x.order y = compare x.orderKey y.orderKey := by
  rw [order]
  cases hequals : x.equals y with
  | true =>
    have hkey : x.orderKey = y.orderKey := by
      rw [equals, Bool.and_eq_true, beq_iff_eq] at hequals
      exact hequals.2
    rw [if_pos rfl, compare_eq_iff_eq.2 hkey]
  | false =>
    rw [if_neg Bool.false_ne_true]
    -- Doubles at one place that are not equal are NaNs with the same bits.
    by_cases h : x.orderKey = y.orderKey
    · rw [compare_eq_iff_eq.2 h, compare_eq_iff_eq.2 (totalKey_eq_of_equals_eq_false h hequals)]
    · exact compare_congr (totalKey_lt_iff h) (totalKey_lt_iff (Ne.symm h))

theorem order_swap (x y : Binary64) : y.order x = (x.order y).swap := by
  rw [order_eq_compare, order_eq_compare]
  exact Std.OrientedOrd.eq_swap

/-! ### Absolute values -/

/-- The absolute value of a finite double. -/
def absValue (x : Binary64) : ℚ := x.significand * 2 ^ x.power

theorem absValue_nonneg (x : Binary64) : 0 ≤ x.absValue := by
  rw [absValue]
  positivity

/-- A significand has 53 bits. -/
theorem significand_lt (x : Binary64) : x.significand < 2 ^ 53 := by
  rw [significand, leadingWeight]
  split <;> omega

/-- A double with a larger power than the smallest has the leading bit. -/
theorem le_significand (h : -1074 < x.power) : 2 ^ 52 ≤ x.significand := by
  rw [power] at h
  rw [significand]
  split at h
  · omega
  · rename_i hm
    rw [if_neg hm]
    exact Nat.le_add_right _ _

/-- In units of the last bit of the smaller one, the larger of two doubles is larger by one. -/
theorem exists_power_eq (h : x.magnitude < y.magnitude) :
    ∃ q : ℕ, y.power = x.power + q ∧ x.significand + 1 ≤ y.significand * 2 ^ q := by
  have hpower : x.power ≤ y.power ∧ (x.power = y.power → x.significand + 1 ≤ y.significand) := by
    rw [power, power, significand, significand, leadingWeight]
    split <;> split <;> omega
  refine ⟨(y.power - x.power).toNat, by omega, ?_⟩
  -- With a larger power the larger one has its leading bit, and twice that exceeds every
  -- significand.
  rcases hpower.1.eq_or_lt with he | hlt
  · rw [he, Int.sub_self]
    simpa using hpower.2 he
  · have hlow : -1074 ≤ x.power := by
      rw [power, leadingWeight]
      split <;> omega
    have hy : 2 ^ 52 ≤ y.significand := le_significand (by omega)
    have hx := x.significand_lt
    calc x.significand + 1 ≤ 2 ^ 52 * 2 ^ 1 := by omega
      _ ≤ y.significand * 2 ^ (y.power - x.power).toNat :=
          Nat.mul_le_mul hy (Nat.pow_le_pow_right (by decide) (by omega))

/-- From one double to the next the absolute value grows by at least one part in `2 ^ 53`. -/
theorem absValue_le_of_magnitude_lt (h : x.magnitude < y.magnitude) :
    x.absValue ≤ y.absValue * (1 - 1 / 2 ^ 53) := by
  obtain ⟨q, hq, hle⟩ := exists_power_eq h
  have hx : (x.significand : ℚ) + 1 ≤ 2 ^ 53 := by exact_mod_cast x.significand_lt
  have hle' : (x.significand : ℚ) + 1 ≤ y.significand * 2 ^ q := by exact_mod_cast hle
  have hy : y.absValue = y.significand * 2 ^ q * 2 ^ x.power := by
    rw [absValue, hq, zpow_add₀ (by norm_num), zpow_natCast]
    ring
  have hstep : (x.significand : ℚ) ≤ y.significand * 2 ^ q * (1 - 1 / 2 ^ 53) := by
    norm_num at hx ⊢
    linarith
  calc x.absValue = x.significand * 2 ^ x.power := rfl
    _ ≤ y.significand * 2 ^ q * (1 - 1 / 2 ^ 53) * 2 ^ x.power :=
        mul_le_mul_of_nonneg_right hstep (by positivity)
    _ = y.absValue * (1 - 1 / 2 ^ 53) := by rw [hy]; ring

/-- The magnitude of `2 ^ 96`, from which on doubles have no decimal. -/
def decimalLimit : ℕ := 1119 * leadingWeight

/-- A double below the limit is below `2 ^ 96`. -/
theorem absValue_lt_of_magnitude_lt (h : x.magnitude < decimalLimit) : x.absValue < 2 ^ 96 := by
  have hpower : x.power ≤ 43 := by
    rw [power]
    rw [decimalLimit, leadingWeight] at *
    split <;> omega
  have hx : (x.significand : ℚ) < 2 ^ 53 := by exact_mod_cast x.significand_lt
  calc x.absValue = x.significand * 2 ^ x.power := rfl
    _ < 2 ^ 53 * 2 ^ x.power := mul_lt_mul_of_pos_right hx (by positivity)
    _ ≤ 2 ^ 53 * 2 ^ (43 : ℤ) :=
        mul_le_mul_of_nonneg_left (zpow_le_zpow_right₀ (by norm_num) hpower) (by positivity)
    _ = 2 ^ 96 := by norm_num

/-! ### Decimals without their sign -/

/-- The coefficient and places of the decimal that stands for the absolute value of a double. -/
def decimal? (x : Binary64) : Option (ℕ × ℕ) :=
  if !x.isFinite then none
  else if x.isZero then some (0, 0)
  else (clearPower x.significand x.power).bind fun (m, t) => cutPlaces m t

/-- The decimal of a double is that of its absolute value, with the sign. -/
theorem ofBinary64_eq (x : Binary64) :
    ofBinary64 x = x.decimal?.map fun c => ⟨if x.negative then -(c.1 : ℤ) else c.1, c.2⟩ := by
  rw [ofBinary64, decimal?]
  split
  · rfl
  · split
    · cases x.negative <;> rfl
    · cases clearPower x.significand x.power with
      | none => rfl
      | some c =>
        show (cutPlaces c.1 c.2).bind _ = (cutPlaces c.1 c.2).map _
        cases cutPlaces c.1 c.2 <;> rfl

/-- What clearing the halves of a double loses is less than the distance of two doubles. -/
theorem le_of_spec {n s c : ℕ} (hn : n ≤ 1074) (h : s * (bound - 5 * n) ≤ c * bound) :
    (s : ℚ) * (1 - 1 / 2 ^ 53) ≤ c := by
  have hb : 5 * n ≤ bound := (Nat.mul_le_mul_left 5 hn).trans (by decide)
  have hbound : (bound : ℚ) = 2 ^ 96 := by norm_num [bound]
  have hn' : (n : ℚ) ≤ 1074 := by exact_mod_cast hn
  have h' : (s : ℚ) * (2 ^ 96 - 5 * n) ≤ c * 2 ^ 96 := by
    rw [← hbound]
    exact_mod_cast h
  have hfew : (1 - 1 / 2 ^ 53) * 2 ^ 96 ≤ (2 ^ 96 - 5 * n : ℚ) := by
    norm_num
    linarith
  refine le_of_mul_le_mul_right ?_ (show (0 : ℚ) < 2 ^ 96 by positivity)
  calc (s : ℚ) * (1 - 1 / 2 ^ 53) * 2 ^ 96 = s * ((1 - 1 / 2 ^ 53) * 2 ^ 96) := by ring
    _ ≤ (s : ℚ) * (2 ^ 96 - 5 * n) := mul_le_mul_of_nonneg_left hfew (by positivity)
    _ ≤ (c : ℚ) * 2 ^ 96 := h'

/-- With a negative power the coefficient may lose digits, but less than lies between two
    doubles. -/
theorem exists_cut_of_nonpos (hp : x.power ≤ 0) :
    ∃ c p, ((clearPower x.significand x.power).bind fun (m, t) => cutPlaces m t) =
      some (cut c p) ∧ ratio (c, p) ≤ x.absValue ∧
      x.absValue * (1 - 1 / 2 ^ 53) ≤ ratio (c, p) := by
  obtain ⟨n, hn⟩ := Int.exists_eq_neg_ofNat hp
  have hn' : n ≤ 1074 := by
    rw [power, leadingWeight] at hn
    split at hn <;> omega
  rw [clearPower, if_pos hp, hn]
  obtain ⟨c, k, hc, hk, hle, hge⟩ := clearHalves_spec n x.significand (-n)
  -- Over the common denominator `10 ^ n` both sides of the specification are numerators.
  have hratio : ratio (c, n - k) = (c * 10 ^ k : ℕ) / 10 ^ n := by
    rw [ratio, ← Nat.sub_add_cancel hk, Nat.add_sub_cancel, pow_add]
    push_cast
    field_simp
  have habs : x.absValue = (x.significand * 5 ^ n : ℕ) / 10 ^ n := by
    rw [absValue, hn, zpow_neg, zpow_natCast, show (10 : ℚ) = 5 * 2 by norm_num, mul_pow]
    push_cast
    field_simp
  refine ⟨c, n - k, ?_, ?_, ?_⟩
  · rw [show (- -(n : ℤ)).toNat = n by omega, hc, Option.bind_some]
    show cutPlaces c (-(n : ℤ) + k) = _
    rw [show -(n : ℤ) + k = -((n - k : ℕ) : ℤ) by omega, cutPlaces_eq]
  · rw [hratio, habs]
    gcongr
  · rw [hratio, habs, div_mul_eq_mul_div]
    gcongr
    exact le_of_spec hn' hge

/-- With a positive power the coefficient is the double itself. -/
theorem exists_cut_of_pos (hp : 0 < x.power) (h : x.magnitude < decimalLimit) :
    ∃ c, ((clearPower x.significand x.power).bind fun (m, t) => cutPlaces m t) =
      some (cut c 0) ∧ ratio (c, 0) = x.absValue := by
  obtain ⟨n, hn⟩ := Int.eq_ofNat_of_zero_le hp.le
  have habs : x.absValue = (x.significand * 2 ^ n : ℕ) := by
    rw [absValue, hn, zpow_natCast]
    push_cast
    rfl
  have hroom : x.significand * 2 ^ n < bound := by
    have hlt := absValue_lt_of_magnitude_lt h
    rw [habs] at hlt
    exact_mod_cast hlt
  rw [clearPower, if_neg (not_le.2 hp), hn, Int.toNat_natCast]
  refine ⟨x.significand * 2 ^ n, ?_, ?_⟩
  · rw [clearFives_eq hroom, Option.bind_some]
    show cutPlaces _ ((n : ℤ) - n) = _
    rw [sub_self]
    exact cutPlaces_eq _ 0
  · rw [habs, ratio]
    simp

/-- A finite double that is no zero has its halves cleared and its places cut. -/
theorem decimal?_eq_bind (hzero : x.magnitude ≠ 0) (h : x.magnitude < decimalLimit) :
    x.decimal? = (clearPower x.significand x.power).bind fun (m, t) => cutPlaces m t := by
  have hfinite : x.isFinite = true := by
    refine decide_eq_true ?_
    rw [decimalLimit, leadingWeight] at h
    rw [infiniteMagnitude]
    omega
  rw [decimal?, hfinite, isZero, beq_false_of_ne hzero]
  rfl

/-- A double below `2 ^ 96` has a decimal. Before its places are cut, this is no larger than the
    double, and smaller by less than the distance of two doubles. -/
theorem exists_cut (hzero : x.magnitude ≠ 0) (h : x.magnitude < decimalLimit) :
    ∃ c p, x.decimal? = some (cut c p) ∧ ratio (c, p) ≤ x.absValue ∧
      x.absValue * (1 - 1 / 2 ^ 53) ≤ ratio (c, p) := by
  rw [decimal?_eq_bind hzero h]
  rcases le_or_gt x.power 0 with hp | hp
  · exact exists_cut_of_nonpos hp
  · obtain ⟨c, hc, hratio⟩ := exists_cut_of_pos hp h
    refine ⟨c, 0, hc, hratio.le, ?_⟩
    rw [hratio]
    exact mul_le_of_le_one_right x.absValue_nonneg (by norm_num)

/-- A double from `2 ^ 96` on, an infinity or a NaN has no decimal. -/
theorem decimal?_eq_none (h : decimalLimit ≤ x.magnitude) : x.decimal? = none := by
  have hzero : x.isZero = false := by
    refine beq_false_of_ne fun hz => ?_
    rw [hz] at h
    exact absurd h (by decide)
  cases hfinite : x.isFinite with
  | false => rw [decimal?, hfinite]; rfl
  | true =>
    have hpower : 44 ≤ x.power := by
      rw [power]
      rw [decimalLimit, leadingWeight] at *
      split <;> omega
    obtain ⟨n, hn⟩ := Int.eq_ofNat_of_zero_le (show 0 ≤ x.power by omega)
    -- With its leading bit the significand leaves no room for so large a power.
    have hbound : bound ≤ x.significand * 2 ^ n :=
      calc bound = 2 ^ 52 * 2 ^ 44 := by decide
        _ ≤ x.significand * 2 ^ n :=
          Nat.mul_le_mul (le_significand (by omega)) (Nat.pow_le_pow_right (by decide) (by omega))
    have hsig : x.significand < bound := x.significand_lt.trans (by decide)
    have hclear : clearPower x.significand x.power = none := by
      rw [clearPower, if_neg (by omega), hn, Int.toNat_natCast, clearFives_eq_none hsig hbound]
    simp [decimal?, hzero, hclear]

/-! ### Comparands -/

/-- The absolute value of the number with which integers are compared: that of the decimal, or one
    beyond the decimals. -/
def absComparand (x : Binary64) : ℚ := (x.decimal?.map ratio).getD (2 ^ 97)

/-- The number with which integers are compared in place of a double. -/
def comparand (x : Binary64) : ℚ := if x.negative then -x.absComparand else x.absComparand

theorem absComparand_nonneg (x : Binary64) : 0 ≤ x.absComparand := by
  rw [absComparand]
  cases x.decimal? with
  | none => norm_num
  | some c => exact ratio_nonneg c

theorem absComparand_eq_zero (h : x.magnitude = 0) : x.absComparand = 0 := by
  have hfinite : x.isFinite = true := decide_eq_true (by rw [h]; decide)
  have hzero : x.isZero = true := by rw [isZero, h]; rfl
  rw [absComparand, decimal?, hfinite, hzero]
  simp [ratio]

/-- Larger absolute values have larger comparands. -/
theorem absComparand_mono (h : x.magnitude ≤ y.magnitude) : x.absComparand ≤ y.absComparand := by
  -- Doubles that differ stay in order because what the larger one loses before its places are cut
  -- does not reach down to the smaller one, and cutting places keeps the order.
  rcases h.eq_or_lt with h | hlt
  · have : x.decimal? = y.decimal? := by
      rw [decimal?, decimal?, isFinite, isFinite, isZero, isZero, significand, significand, power,
        power, h]
    rw [absComparand, this, absComparand]
  rcases Nat.eq_zero_or_pos x.magnitude with hx | hx
  · rw [absComparand_eq_zero hx]
    exact y.absComparand_nonneg
  rcases Nat.lt_or_ge x.magnitude decimalLimit with hxl | hxl
  · obtain ⟨c, p, hc, hcx, -⟩ := exists_cut hx.ne' hxl
    rcases Nat.lt_or_ge y.magnitude decimalLimit with hyl | hyl
    · obtain ⟨d, q, hd, -, hdy⟩ := exists_cut (by omega) hyl
      rw [absComparand, absComparand, hc, hd]
      exact ratio_cut_le ((hcx.trans (absValue_le_of_magnitude_lt hlt)).trans hdy)
    · have hfar : ratio (c, p) ≤ ratio (2 ^ 97, 0) := by
        have := (absValue_lt_of_magnitude_lt hxl).le
        have hpow : ratio (2 ^ 97, 0) = 2 ^ 97 := by norm_num [ratio]
        rw [hpow]
        exact (hcx.trans this).trans (by norm_num)
      have hcut : ratio (cut (2 ^ 97) 0) = 2 ^ 97 := by norm_num [cut, trim, ratio]
      rw [absComparand, absComparand, hc, decimal?_eq_none hyl]
      exact (ratio_cut_le hfar).trans hcut.le
  · rw [absComparand, absComparand, decimal?_eq_none hxl, decimal?_eq_none (hxl.trans h)]

/-- Comparands keep the order of doubles. -/
theorem comparand_mono (h : x.orderKey ≤ y.orderKey) : x.comparand ≤ y.comparand := by
  have hx := x.absComparand_nonneg
  have hy := y.absComparand_nonneg
  rw [comparand, comparand]
  cases hxn : x.negative <;> cases hyn : y.negative
  · rw [orderKey_of_not_negative hxn, orderKey_of_not_negative hyn] at h
    simpa using absComparand_mono (by omega)
  · -- A number without a sign is in order before one with a sign only if both are zeros.
    rw [orderKey_of_not_negative hxn, orderKey_of_negative hyn] at h
    rw [absComparand_eq_zero (x := x) (by omega), absComparand_eq_zero (x := y) (by omega)]
    simp
  · simpa using (neg_nonpos.2 hx).trans hy
  · rw [orderKey_of_negative hxn, orderKey_of_negative hyn] at h
    simpa using absComparand_mono (by omega)

end Binary64

end RecordQuery
