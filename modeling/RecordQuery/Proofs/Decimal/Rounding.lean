import Mathlib.Algebra.Order.Group.Abs
import RecordQuery.Proofs.Decimal.Mixed

/-!
# How far a decimal is from its double

The decimal of a double has lost places, one at a time and each time rounded half up, until no more
digits were left than the format holds and than a double carries. The halves add up like a geometric
series, to less than five ninths of the last place that is left.

* `FixedDecimal.abs_ratio_cut_sub_lt`: cutting places, against the coefficient that is left.
* `Binary64.abs_absComparand_sub_lt`: a comparand is the absolute value of its double up to about 15
  digits and 28 places.
* `Binary64.absComparand_between`: for all that, it stays on the same side of every whole number, and
  so it is the absolute value itself if this is a whole number.
* `Binary64.absComparand_eq_zero_iff`: which doubles vanish.
-/

namespace RecordQuery

namespace FixedDecimal

/-! ### Dropping digits -/

/-- Dropping a digit is off by half of the last place that is left at most. -/
theorem abs_ratio_dropDigit_sub_le (m p : ℕ) :
    |ratio (dropDigit m, p) - ratio (m, p + 1)| ≤ 5 / 10 ^ (p + 1) := by
  have hdigit : |(10 * dropDigit m - m : ℤ)| ≤ 5 := by
    rw [abs_le, dropDigit]
    split <;> push_cast <;> omega
  have hratio : ratio (dropDigit m, p) - ratio (m, p + 1) =
      ((10 * dropDigit m - m : ℤ) : ℚ) / 10 ^ (p + 1) := by
    rw [ratio, ratio, pow_succ]
    push_cast
    field_simp
  rw [hratio, abs_div, abs_of_pos (a := (10 : ℚ) ^ (p + 1)) (by positivity)]
  gcongr
  exact_mod_cast hdigit

/-- The most that dropping digits down to a number of places can add up to. -/
def slack (places : ℕ) : ℚ := 5 / 9 / 10 ^ places

theorem slack_nonneg (places : ℕ) : 0 ≤ slack places := by
  rw [slack]
  positivity

/-- A digit takes up the slack between its place and the one before. -/
theorem slack_eq_add (places : ℕ) : slack places = slack (places + 1) + 5 / 10 ^ (places + 1) := by
  rw [slack, slack, pow_succ]
  field_simp
  norm_num

/-- If a coefficient is off by some slack, so it is after another digit has been dropped. -/
theorem abs_ratio_sub_add_slack_le {c : ℕ × ℕ} {m p : ℕ} {s : ℚ}
    (h : |ratio c - ratio (dropDigit m, p)| + slack p ≤ s) :
    |ratio c - ratio (m, p + 1)| + slack (p + 1) ≤ s := by
  have htriangle := abs_sub_le (ratio c) (ratio (dropDigit m, p)) (ratio (m, p + 1))
  have hdigit := abs_ratio_dropDigit_sub_le m p
  have hslack := slack_eq_add p
  linarith

/-- Trimming is off by the slack of the places that are left, less that of the places there were. -/
theorem abs_ratio_trim_sub_add_slack_le (p m : ℕ) :
    |ratio (trim p m) - ratio (m, p)| + slack p ≤ slack (trim p m).2 := by
  induction p generalizing m with
  | zero => simp [trim]
  | succ p ih =>
    rw [trim]
    split
    · simp
    · exact abs_ratio_sub_add_slack_le (ih _)

/-- Trimming leaves a coefficient alone, or else one of at least 15 digits. -/
theorem trim_eq_or_le (p m : ℕ) : trim p m = (m, p) ∨ trimmedWeight ≤ (trim p m).1 := by
  induction p generalizing m with
  | zero => exact .inl rfl
  | succ p ih =>
    rw [trim]
    split
    · exact .inl rfl
    · rename_i hm
      rcases ih (dropDigit m) with h | h
      · right
        rw [h]
        exact dropDigit_le (not_lt.1 hm)
      · exact .inr h

/-- Trimming is off by 13 units in the 16th digit at most. -/
theorem abs_ratio_trim_sub_le (p m : ℕ) :
    |ratio (trim p m) - ratio (m, p)| ≤ ratio (trim p m) * (13 / 10 ^ 16) := by
  rcases trim_eq_or_le p m with h | h
  · rw [h, sub_self, abs_zero]
    exact mul_nonneg (ratio_nonneg _) (by norm_num)
  · have hslack := abs_ratio_trim_sub_add_slack_le p m
    have hp := slack_nonneg p
    have hweight : (trimmedWeight : ℚ) ≤ (trim p m).1 := by exact_mod_cast h
    have hdigits : (5 / 9 : ℚ) ≤ trimmedWeight * (13 / 10 ^ 16) := by
      norm_num [trimmedWeight, dropDigit, Binary64.leadingWeight]
    calc |ratio (trim p m) - ratio (m, p)| ≤ slack (trim p m).2 := by linarith
      _ ≤ trimmedWeight * (13 / 10 ^ 16) / 10 ^ (trim p m).2 := by
          rw [slack]
          gcongr
      _ ≤ (trim p m).1 * (13 / 10 ^ 16) / 10 ^ (trim p m).2 := by gcongr
      _ = ratio (trim p m) * (13 / 10 ^ 16) := by
          rw [ratio]
          ring

/-- Places beyond the 28th are dropped with less than the slack, or the coefficient vanishes for
    being too small. -/
theorem dropExcess_spec (k m : ℕ) : (dropExcess k m = (0, 0) ∧ m < 10 ^ k) ∨
    ∃ c, dropExcess k m = (c, 28) ∧
      |ratio (c, 28) - ratio (m, 28 + k)| + slack (28 + k) ≤ slack 28 := by
  induction k generalizing m with
  | zero => exact .inr ⟨m, rfl, by simp⟩
  | succ k ih =>
    rw [dropExcess]
    split
    · have hk : 0 < 10 ^ k := by positivity
      exact .inl ⟨rfl, by rw [pow_succ]; omega⟩
    · rcases ih (dropDigit m) with ⟨hzero, hm⟩ | ⟨c, hc, hle⟩
      · refine .inl ⟨hzero, ?_⟩
        rw [dropDigit] at hm
        rw [pow_succ]
        split at hm <;> omega
      · exact .inr ⟨c, hc, abs_ratio_sub_add_slack_le hle⟩

/-- Cutting places is off by 13 units in the 16th digit and one in the 28th place at most. -/
theorem abs_ratio_cut_sub_lt (m p : ℕ) :
    |ratio (cut m p) - ratio (m, p)| < ratio (cut m p) * (13 / 10 ^ 16) + 1 / 10 ^ 28 := by
  rcases Nat.le_total p 28 with hp | hp
  · rw [cut_eq_trim hp]
    exact (abs_ratio_trim_sub_le p m).trans_lt (lt_add_of_pos_right _ (by norm_num))
  · obtain ⟨k, rfl⟩ := Nat.exists_eq_add_of_le hp
    rw [cut_eq_dropExcess hp, Nat.add_sub_cancel_left]
    rcases dropExcess_spec k m with ⟨hzero, hm⟩ | ⟨c, hc, hle⟩
    · have hvanish : ratio (m, 28 + k) < 1 / 10 ^ 28 := by
        rw [ratio, pow_add, ← div_div, div_right_comm]
        gcongr
        rw [div_lt_one (by positivity)]
        exact_mod_cast hm
      rw [hzero]
      dsimp only
      rw [ratio_trim_zero, zero_sub, abs_neg, abs_of_nonneg (ratio_nonneg _), zero_mul, zero_add]
      exact hvanish
    · rw [hc]
      -- What dropping the excess loses and what trimming loses add up.
      have htriangle := abs_sub_le (ratio (trim 28 c)) (ratio (c, 28)) (ratio (m, 28 + k))
      have htrim := abs_ratio_trim_sub_le 28 c
      have hslack := slack_nonneg (28 + k)
      have hplaces : slack 28 < 1 / 10 ^ 28 := by norm_num [slack]
      linarith

theorem ratio_natCast (k : ℕ) : ratio (k, 0) = k := by
  rw [ratio, pow_zero, div_one]

/-- A whole number has no places to cut. -/
theorem ratio_cut_natCast (k : ℕ) : ratio (cut k 0) = k := by
  rw [cut_eq_trim (Nat.zero_le _), trim, ratio_natCast]

end FixedDecimal

open FixedDecimal

namespace Binary64

variable {x : Binary64}

/-! ### Comparands and absolute values -/

theorem absValue_eq_zero (h : x.magnitude = 0) : x.absValue = 0 := by
  rw [absValue, significand, h, if_pos (by decide), Nat.cast_zero, zero_mul]

/-- The comparand of a double with a decimal is what cutting places leaves. -/
theorem absComparand_eq_ratio {c p : ℕ} (h : x.decimal? = some (cut c p)) :
    x.absComparand = ratio (cut c p) := by
  rw [absComparand, h]
  rfl

/-- A comparand is the absolute value up to 15 units in the 16th digit and two in the 28th place. -/
theorem abs_absComparand_sub_lt (h : x.magnitude < decimalLimit) :
    |x.absComparand - x.absValue| < x.absComparand * (15 / 10 ^ 16) + 2 / 10 ^ 28 := by
  rcases eq_or_ne x.magnitude 0 with hzero | hzero
  · rw [absComparand_eq_zero hzero, absValue_eq_zero hzero]
    norm_num
  · -- On top of what cutting places loses, clearing halves loses less than lies between two doubles.
    obtain ⟨c, p, hc, hle, hge⟩ := exists_cut hzero h
    have hcut := abs_lt.1 (abs_ratio_cut_sub_lt c p)
    rw [absComparand_eq_ratio hc, abs_lt]
    have hnonneg := ratio_nonneg (cut c p)
    norm_num at hge hcut ⊢
    constructor <;> linarith

/-! ### Whole numbers -/

/-- The decimal of a double does not fall below a whole number before its places are cut: either the
    double is that number, and its halves are cleared without a loss, or it is larger by at least
    one of its last bits, and that is more than it can lose. -/
theorem exists_cut_of_natCast_le {k : ℕ} (hzero : x.magnitude ≠ 0) (h : x.magnitude < decimalLimit)
    (hk : (k : ℚ) ≤ x.absValue) :
    ∃ c p, x.decimal? = some (cut c p) ∧ ratio (k, 0) ≤ ratio (c, p) := by
  rw [ratio_natCast]
  rcases lt_or_ge 0 x.power with hp | hp
  · obtain ⟨c, hc, hratio⟩ := exists_cut_of_pos hp h
    exact ⟨c, 0, (decimal?_eq_bind hzero h).trans hc, hratio.symm ▸ hk⟩
  obtain ⟨n, hn⟩ := Int.exists_eq_neg_ofNat hp
  have habs : x.absValue = x.significand / 2 ^ n := by
    rw [absValue, hn, zpow_neg, zpow_natCast, div_eq_mul_inv]
  have hle : k * 2 ^ n ≤ x.significand := by
    rw [habs, le_div_iff₀ (by positivity)] at hk
    exact_mod_cast hk
  -- In units of its last bit, the double is the number or larger by at least one.
  rcases hle.eq_or_lt with heq | hlt
  · refine ⟨k, 0, ?_, (ratio_natCast k).ge⟩
    rw [decimal?_eq_bind hzero h, clearPower, if_pos hp, hn, ← heq, neg_neg, Int.toNat_natCast,
      clearHalves_mul_pow, Option.bind_some]
    show cutPlaces k (-(n : ℤ) + n) = _
    rw [neg_add_cancel]
    exact cutPlaces_eq k 0
  · obtain ⟨c, p, hc, -, hge⟩ := exists_cut hzero h
    refine ⟨c, p, hc, le_trans ?_ hge⟩
    have hstep : (k * 2 ^ n + 1 : ℚ) ≤ x.significand := by exact_mod_cast hlt
    have hloss : (x.significand : ℚ) * (1 / 2 ^ 53) ≤ 1 := by
      rw [mul_one_div, div_le_one (by positivity)]
      exact_mod_cast x.significand_lt.le
    rw [habs, div_mul_eq_mul_div, le_div_iff₀ (by positivity), mul_sub, mul_one]
    linarith

/-- A comparand does not fall below a whole number that its double is not below. -/
theorem natCast_le_absComparand {k : ℕ} (h : x.magnitude < decimalLimit)
    (hk : (k : ℚ) ≤ x.absValue) : (k : ℚ) ≤ x.absComparand := by
  rcases eq_or_ne x.magnitude 0 with hzero | hzero
  · rw [absValue_eq_zero hzero] at hk
    rwa [absComparand_eq_zero hzero]
  · obtain ⟨c, p, hc, hle⟩ := exists_cut_of_natCast_le hzero h hk
    rw [absComparand_eq_ratio hc, ← ratio_cut_natCast]
    exact ratio_cut_le hle

/-- Nor does it get above one that its double is not above. -/
theorem absComparand_le_natCast {k : ℕ} (h : x.magnitude < decimalLimit)
    (hk : x.absValue ≤ k) : x.absComparand ≤ k := by
  rcases eq_or_ne x.magnitude 0 with hzero | hzero
  · rw [absComparand_eq_zero hzero]
    positivity
  · obtain ⟨c, p, hc, hle, -⟩ := exists_cut hzero h
    rw [absComparand_eq_ratio hc, ← ratio_cut_natCast]
    exact ratio_cut_le ((hle.trans hk).trans (ratio_natCast k).ge)

/-- A double from the limit on is at least `2 ^ 96`. -/
theorem le_absValue_of_decimalLimit_le (h : decimalLimit ≤ x.magnitude) : 2 ^ 96 ≤ x.absValue := by
  have hpower : 44 ≤ x.power := by
    rw [power]
    rw [decimalLimit, leadingWeight] at *
    split <;> omega
  have hsig : (2 ^ 52 : ℚ) ≤ x.significand := by exact_mod_cast le_significand (by omega)
  calc (2 : ℚ) ^ 96 = 2 ^ 52 * 2 ^ (44 : ℤ) := by norm_num
    _ ≤ (x.significand : ℚ) * 2 ^ x.power := by
        gcongr
        norm_num

/-- The comparand of a double lies on the same side of a whole number as its absolute value. -/
theorem absComparand_between {k : ℕ} (hk : k < 2 ^ 96) :
    ((k : ℚ) ≤ x.absValue → (k : ℚ) ≤ x.absComparand) ∧
      (x.absValue ≤ k → x.absComparand ≤ k) := by
  rcases lt_or_ge x.magnitude decimalLimit with h | h
  · exact ⟨natCast_le_absComparand h, absComparand_le_natCast h⟩
  · -- Without a decimal both are beyond the number.
    have hfar : (k : ℚ) < 2 ^ 96 := by exact_mod_cast hk
    have habs : x.absComparand = 2 ^ 97 := by
      rw [absComparand, decimal?_eq_none h]
      rfl
    rw [habs]
    exact ⟨fun _ => hfar.le.trans (by norm_num),
      fun hle => absurd (le_absValue_of_decimalLimit_le h) (hle.trans_lt hfar).not_ge⟩

/-! ### Doubles that vanish -/

theorem absValue_mono {y : Binary64} (h : x.magnitude ≤ y.magnitude) :
    x.absValue ≤ y.absValue := by
  rcases h.eq_or_lt with heq | hlt
  · rw [absValue, absValue, significand, significand, power, power, heq]
  · exact (absValue_le_of_magnitude_lt hlt).trans
      (mul_le_of_le_one_right y.absValue_nonneg (by norm_num))

/-- The largest double that vanishes when its places are cut. -/
def lastVanishing : Binary64 := ⟨0x3a1dee3e5e685ac2⟩

/-- The next double, which leaves one unit in the 28th place. -/
def firstRemaining : Binary64 := ⟨0x3a1dee3e5e685ac3⟩

/-- A double has nothing left within 28 places exactly if it is below seventeen eighteenths of the
    last one, since digits are rounded up, one after the other, from `0.4…45` on. -/
theorem absComparand_eq_zero_iff : x.absComparand = 0 ↔ x.absValue < 17 / 18 / 10 ^ 28 := by
  have hlast : lastVanishing.magnitude = 0x3a1dee3e5e685ac2 := by decide
  have hfirst : firstRemaining.magnitude = 0x3a1dee3e5e685ac3 := by decide
  -- The bound lies between two doubles next to each other, and comparands keep their order.
  rcases le_or_gt x.magnitude lastVanishing.magnitude with h | h
  · have hzero : lastVanishing.absComparand = 0 := by
      rw [absComparand, show lastVanishing.decimal? = some (0, 0) by decide]
      norm_num [ratio]
    have hsmall : lastVanishing.absValue < 17 / 18 / 10 ^ 28 := by
      rw [absValue, significand, power, hlast, leadingWeight]
      norm_num
    exact iff_of_true (le_antisymm (hzero ▸ absComparand_mono h) x.absComparand_nonneg)
      ((absValue_mono h).trans_lt hsmall)
  · have hunit : firstRemaining.absComparand = 1 / 10 ^ 28 := by
      rw [absComparand, show firstRemaining.decimal? = some (1, 28) by decide]
      norm_num [ratio]
    have hlarge : 17 / 18 / 10 ^ 28 ≤ firstRemaining.absValue := by
      rw [absValue, significand, power, hfirst, leadingWeight]
      norm_num
    have hle : firstRemaining.magnitude ≤ x.magnitude := by omega
    refine iff_of_false (ne_of_gt ?_) (not_lt.2 (hlarge.trans (absValue_mono hle)))
    exact lt_of_lt_of_le (by rw [hunit]; norm_num) (absComparand_mono hle)

end Binary64

end RecordQuery
