import RecordQuery.Proofs.Decimal.Double

/-!
# Integers and doubles

An integer is compared with a double as with the double's comparand (`Value.orderMixed_eq`), and a
double with an integer likewise (`Value.orderFloatFirst_eq_swap`). A double without a decimal is
compared with the integer as a double, but all 64-bit integers stay far below such doubles
(`Binary64.magnitude_ofInt_lt`).
-/

namespace RecordQuery

open FixedDecimal

namespace Binary64

/-! ### The double of an integer -/

/-- Below the weight of the sign a magnitude is kept. -/
theorem magnitude_ofMagnitude (negative : Bool) {m : ℕ} (h : m < signWeight) :
    (ofMagnitude negative m).magnitude = m := by
  rw [magnitude, ofMagnitude, signWeight] at *
  rw [UInt64.toNat_ofNat']
  split <;> omega

/-- Rounding goes up by one at most. -/
theorem roundHalfEven_le (num den : ℕ) : roundHalfEven num den ≤ num / den + 1 := by
  rw [roundHalfEven]
  split
  · omega
  · split
    · omega
    · split <;> omega

/-- Scaled by the power of its last bit, a natural number has no more than 54 bits. -/
theorem div_scaleRatio_lt {num : ℕ} {p : ℤ} (h : (num.log2 : ℤ) - 53 ≤ p) :
    (scaleRatio num 1 2 (-p)).1 / (scaleRatio num 1 2 (-p)).2 < 2 ^ 54 := by
  have hnum : num < 2 ^ (num.log2 + 1) := Nat.lt_log2_self
  rw [scaleRatio]
  split
  · rename_i hp
    rw [Nat.div_one]
    calc num * 2 ^ (-p).toNat < 2 ^ (num.log2 + 1) * 2 ^ (-p).toNat :=
          Nat.mul_lt_mul_of_pos_right hnum (by positivity)
      _ = 2 ^ (num.log2 + 1 + (-p).toNat) := (pow_add _ _ _).symm
      _ ≤ 2 ^ 54 := Nat.pow_le_pow_right (by decide) (by omega)
  · rename_i hp
    have hpos : 0 < Nat.pow 2 (- -p).toNat := Nat.pow_pos (by decide)
    rw [Nat.div_lt_iff_lt_mul (by omega), one_mul]
    calc num < 2 ^ (num.log2 + 1) := hnum
      _ ≤ 2 ^ (54 + (- -p).toNat) := Nat.pow_le_pow_right (by decide) (by omega)
      _ = 2 ^ 54 * 2 ^ (- -p).toNat := pow_add _ _ _

/-- The exponent found for a natural number is that of its leading bit, or one less. -/
theorem floorLog2_bounds (num : ℕ) :
    (num.log2 : ℤ) - 1 ≤ floorLog2 num 1 ∧ floorLog2 num 1 ≤ num.log2 := by
  have h : Nat.log2 1 = 0 := by decide
  rw [floorLog2]
  rw [h]
  dsimp only
  split <;> omega

/-- The double of a 64-bit integer, with a sign or without, lies below all doubles without a
    decimal. -/
theorem magnitude_ofInt_lt {n : ℤ} (h : n.natAbs ≤ 2 ^ 64) :
    (ofInt n).magnitude < decimalLimit := by
  rw [ofInt, ofRatio]
  split
  · rw [magnitude_ofMagnitude _ (by decide)]
    decide
  · rename_i hn
    obtain ⟨hlow, hhigh⟩ := floorLog2_bounds n.natAbs
    have hlog : n.natAbs.log2 < 65 := (Nat.log2_lt hn).2 (h.trans_lt (by decide))
    dsimp only
    generalize hp : max (floorLog2 n.natAbs 1 - 52) (-1074) = p
    -- Scaled to at most 54 bits and rounded, the number stays far below the limit.
    have hdiv := @div_scaleRatio_lt n.natAbs p (by omega)
    generalize hr : scaleRatio n.natAbs 1 2 (-p) = r at hdiv ⊢
    have hround := roundHalfEven_le r.1 r.2
    have hm : min ((p + 1074).toNat * leadingWeight + roundHalfEven r.1 r.2) infiniteMagnitude <
        decimalLimit := by
      refine (min_le_left _ _).trans_lt ?_
      rw [decimalLimit, leadingWeight]
      omega
    rw [magnitude_ofMagnitude _ (hm.trans (by decide))]
    exact hm

theorem isFinite_ofInt {n : ℤ} (h : n.natAbs ≤ 2 ^ 64) : (ofInt n).isFinite = true :=
  decide_eq_true ((magnitude_ofInt_lt h).trans (by decide))

/-! ### Mixed pairs -/

/-- The decimal of a double has the comparand as its value. -/
theorem value_eq_comparand {x : Binary64} {d : FixedDecimal} (h : ofBinary64 x = some d) :
    d.value = x.comparand := by
  rw [ofBinary64_eq, Option.map_eq_some_iff] at h
  obtain ⟨c, hc, rfl⟩ := h
  rw [comparand, absComparand, value]
  rw [hc]
  cases x.negative <;> simp [ratio, neg_div]

/-- Only doubles from `2 ^ 96` on have no decimal. -/
theorem decimalLimit_le_of_ofBinary64_eq_none {x : Binary64} (h : ofBinary64 x = none) :
    decimalLimit ≤ x.magnitude := by
  rw [ofBinary64_eq, Option.map_eq_none_iff] at h
  by_contra hlt
  rw [not_le] at hlt
  rcases Nat.eq_zero_or_pos x.magnitude with hx | hx
  · have hfinite : x.isFinite = true := decide_eq_true (by rw [hx]; decide)
    have hzero : x.isZero = true := by rw [isZero, hx]; rfl
    rw [decimal?, hfinite, hzero] at h
    simp at h
  · obtain ⟨c, p, hc, -, -⟩ := exists_cut hx.ne' hlt
    rw [hc] at h
    cases h

end Binary64

open Binary64

/-- A double is compared with an integer as the integer with the double, turned round. -/
theorem Value.orderFloatFirst_eq_swap (x : Binary64) (n : Int64) :
    Value.orderFloatFirst x n = (Value.orderMixed n x).swap := by
  rw [orderFloatFirst, orderMixed]
  cases ofBinary64 x with
  | some d => exact Std.OrientedOrd.eq_swap
  | none => exact Binary64.order_swap _ x

/-- An integer is compared with a double as with its comparand. -/
theorem Value.orderMixed_eq (n : Int64) (x : Binary64) :
    Value.orderMixed n x = compare (n.toInt : ℚ) x.comparand := by
  have hlow : -(2 ^ 63 : ℤ) ≤ n.toInt := n.le_toInt
  have hhigh : n.toInt < (2 ^ 63 : ℤ) := n.toInt_lt
  rw [orderMixed]
  split
  · rename_i d hd
    rw [order_eq, value_eq_comparand hd]
    congr 1
    simp [FixedDecimal.ofInt, value]
  · -- The double is beyond all integers, on the side that its sign says, and so is its comparand.
    rename_i hnone
    have hx := decimalLimit_le_of_ofBinary64_eq_none hnone
    have hn := magnitude_ofInt_lt (n := n.toInt) (by omega)
    have hlowq : -(2 ^ 63 : ℚ) ≤ n.toInt := by exact_mod_cast hlow
    have hhighq : (n.toInt : ℚ) < 2 ^ 63 := by exact_mod_cast hhigh
    have hkey : -((Binary64.ofInt n.toInt).magnitude : ℤ) ≤ (Binary64.ofInt n.toInt).orderKey ∧
        (Binary64.ofInt n.toInt).orderKey ≤ (Binary64.ofInt n.toInt).magnitude := by
      rw [orderKey]
      split <;> omega
    have habs : x.absComparand = 2 ^ 97 := by
      rw [absComparand, decimal?_eq_none hx]
      rfl
    rw [Binary64.order_eq_compare]
    cases hneg : x.negative with
    | false =>
      rw [orderKey_of_not_negative hneg, comparand, hneg, if_neg (by decide), habs]
      rw [compare_lt_iff_lt.2 (by omega), compare_lt_iff_lt.2 (hhighq.trans (by norm_num))]
    | true =>
      rw [orderKey_of_negative hneg, comparand, hneg, if_pos rfl, habs]
      rw [compare_gt_iff_gt.2 (by omega), compare_gt_iff_gt.2 (lt_of_lt_of_le (by norm_num) hlowq)]

end RecordQuery
