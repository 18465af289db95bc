import RecordQuery.Proofs.Decimal.Rounding
import RecordQuery.Proofs.ValueOrder

/-!
# Integers compared with doubles

An integer is compared with the decimal of a double and not with the double itself. Decimals stay on
their side of every integer, so the outcome is never turned round, and it is right for every double
that is a whole number. But a double that is none can have an integer as its decimal, and then the
two are equal for the order although they differ.

* `Binary64.exactValue`: the number that a double stands for.
* `Binary64.RoundsOnto`: a double has an integer as its decimal that it does not stand for.
* `Value.order_exact_iff`: the order of an integer and a double is that of the numbers they stand for
  unless the double rounds onto the integer; then the two are equal, and how far apart they can be.
* `Value.not_order_exact`: there are such doubles.
-/

namespace RecordQuery

open FixedDecimal

namespace Binary64

variable {x : Binary64}

/-- The number that a finite double stands for. An infinity or a NaN stands for a number beyond all
    integers, on the side that its sign says. -/
def exactValue (x : Binary64) : ℚ := if x.negative then -x.absValue else x.absValue

/-- Whether the decimal of a double is an integer for which the double does not stand. -/
def RoundsOnto (x : Binary64) (n : Int64) : Prop :=
  x.exactValue ≠ n.toInt ∧ ∃ d, ofBinary64 x = some d ∧ d.value = n.toInt

theorem abs_ite_neg {q : ℚ} (hq : 0 ≤ q) (negative : Bool) :
    |if negative then -q else q| = q := by
  split
  · rw [abs_neg, abs_of_nonneg hq]
  · exact abs_of_nonneg hq

theorem abs_exactValue (x : Binary64) : |x.exactValue| = x.absValue :=
  abs_ite_neg x.absValue_nonneg x.negative

theorem abs_comparand (x : Binary64) : |x.comparand| = x.absComparand :=
  abs_ite_neg x.absComparand_nonneg x.negative

/-- A double with a sign is off by as much as the one without. -/
theorem abs_comparand_sub (x : Binary64) :
    |x.comparand - x.exactValue| = |x.absComparand - x.absValue| := by
  rw [comparand, exactValue]
  split
  · rw [neg_sub_neg, abs_sub_comm]
  · rfl

/-- The comparand of a double lies on the same side of an integer as the number it stands for. -/
theorem comparand_between {n : ℤ} (hn : n.natAbs < 2 ^ 96) :
    ((n : ℚ) ≤ x.exactValue → (n : ℚ) ≤ x.comparand) ∧
      (x.exactValue ≤ n → x.comparand ≤ n) := by
  have hvalue := x.absValue_nonneg
  have hcomparand := x.absComparand_nonneg
  obtain ⟨k, hk⟩ := n.eq_nat_or_neg
  have hk' : n.natAbs = k := by omega
  obtain ⟨hle, hge⟩ := absComparand_between (x := x) (hk' ▸ hn)
  have hnonneg : (0 : ℚ) ≤ k := k.cast_nonneg
  rw [exactValue, comparand]
  -- If the integer and the double have one sign, their absolute values decide. Otherwise there is
  -- zero between them, unless it is both.
  rcases hk with rfl | rfl
  · rw [Int.cast_natCast]
    cases x.negative with
    | false => exact ⟨hle, hge⟩
    | true =>
      simp only [if_true]
      refine ⟨fun h => ?_, fun _ => by linarith⟩
      have := hge (by linarith)
      linarith
  · rw [Int.cast_neg, Int.cast_natCast]
    cases x.negative with
    | false =>
      simp only [Bool.false_eq_true, if_false]
      refine ⟨fun _ => by linarith, fun h => ?_⟩
      have := hge (by linarith)
      linarith
    | true =>
      simp only [if_true, neg_le_neg_iff]
      exact ⟨hge, hle⟩

/-- A double that stands for an integer has it as its comparand. -/
theorem comparand_eq_of_exactValue_eq {m : ℤ} (h : x.exactValue = m) (hm : m.natAbs < 2 ^ 96) :
    x.comparand = m :=
  le_antisymm ((comparand_between hm).2 h.le) ((comparand_between hm).1 h.ge)

variable {n : Int64}

theorem natAbs_toInt_le (n : Int64) : n.toInt.natAbs ≤ 2 ^ 63 := by
  have hlow := n.le_toInt
  have hhigh := n.toInt_lt
  omega

/-- Only the comparand of a double with a decimal can be a 64-bit integer. -/
theorem exists_value_eq_iff :
    (∃ d, ofBinary64 x = some d ∧ d.value = n.toInt) ↔ x.comparand = n.toInt := by
  constructor
  · rintro ⟨d, hd, hvalue⟩
    rw [← value_eq_comparand hd, hvalue]
  · intro h
    cases hd : ofBinary64 x with
    | some d => exact ⟨d, rfl, (value_eq_comparand hd).trans h⟩
    | none =>
      -- Without a decimal the comparand is beyond all integers.
      have hfar : x.absComparand = 2 ^ 97 := by
        rw [absComparand, decimal?_eq_none (decimalLimit_le_of_ofBinary64_eq_none hd)]
        rfl
      have habs : |(n.toInt : ℚ)| = 2 ^ 97 := by
        rw [← h, abs_comparand, hfar]
      have hn : |(n.toInt : ℚ)| ≤ 2 ^ 63 := by
        rw [← Int.cast_abs, ← Nat.cast_natAbs]
        exact_mod_cast natAbs_toInt_le n
      norm_num [habs] at hn

/-- A double rounds onto an integer if that is its comparand but not what it stands for. -/
theorem roundsOnto_iff : x.RoundsOnto n ↔ x.exactValue ≠ n.toInt ∧ x.comparand = n.toInt := by
  rw [RoundsOnto, exists_value_eq_iff]

namespace RoundsOnto

/-- What rounds onto an integer has a decimal. -/
theorem magnitude_lt (h : x.RoundsOnto n) : x.magnitude < decimalLimit := by
  obtain ⟨-, d, hd, -⟩ := h
  by_contra hge
  rw [ofBinary64_eq, decimal?_eq_none (not_lt.1 hge)] at hd
  cases hd

/-- A double that rounds onto an integer stands for no other integer either. -/
theorem exactValue_ne (h : x.RoundsOnto n) (m : ℤ) : x.exactValue ≠ m := by
  intro hm
  obtain ⟨hne, hcomparand⟩ := roundsOnto_iff.1 h
  have hsmall : m.natAbs < 2 ^ 96 := by
    have habs := absValue_lt_of_magnitude_lt h.magnitude_lt
    rw [← abs_exactValue, hm, ← Int.cast_abs, ← Nat.cast_natAbs] at habs
    exact_mod_cast habs
  rw [comparand_eq_of_exactValue_eq hm hsmall, ← hm] at hcomparand
  exact hne hcomparand

/-- A double is near the integer that it rounds onto. -/
theorem abs_sub_lt (h : x.RoundsOnto n) (hn : n ≠ 0) :
    |x.exactValue - n.toInt| < |(n.toInt : ℚ)| * (2 / 10 ^ 15) := by
  have hnear := abs_absComparand_sub_lt h.magnitude_lt
  have hone : (1 : ℚ) ≤ |(n.toInt : ℚ)| := by
    have : n.toInt ≠ 0 := fun h0 => hn (Int64.toInt_inj.1 h0)
    exact_mod_cast Int.one_le_abs this
  -- The comparand is the integer, so what bounds its distance bounds that of the integer.
  rw [← abs_comparand_sub, ← abs_comparand, (roundsOnto_iff.1 h).2, abs_sub_comm] at hnear
  refine hnear.trans ?_
  norm_num
  linarith

end RoundsOnto

/-- Zero is what the doubles that vanish round onto. -/
theorem roundsOnto_zero_iff :
    x.RoundsOnto 0 ↔ x.exactValue ≠ 0 ∧ |x.exactValue| < 17 / 18 / 10 ^ 28 := by
  have hzero : ((Int64.toInt 0 : ℤ) : ℚ) = 0 := by
    rw [show Int64.toInt 0 = 0 by decide, Int.cast_zero]
  rw [roundsOnto_iff, hzero, abs_exactValue, ← absComparand_eq_zero_iff, ← abs_comparand,
    abs_eq_zero]

end Binary64

namespace Value

open Binary64

/-- An integer is in order with a double as with the number it stands for, unless it ties. -/
theorem orderMixed_eq_of_ne {n : Int64} {x : Binary64} (h : x.comparand ≠ n.toInt) :
    orderMixed n x = compare (n.toInt : ℚ) x.exactValue := by
  have hn := natAbs_toInt_le n
  obtain ⟨hle, hge⟩ := comparand_between (x := x) (n := n.toInt) (by omega)
  rw [orderMixed_eq]
  rcases lt_or_gt_of_ne h with hlt | hlt
  · have hexact : x.exactValue < n.toInt := lt_of_not_ge fun h => hlt.not_ge (hle h)
    rw [compare_gt_iff_gt.2 hlt, compare_gt_iff_gt.2 hexact]
  · have hexact : n.toInt < x.exactValue := lt_of_not_ge fun h => hlt.not_ge (hge h)
    rw [compare_lt_iff_lt.2 hlt, compare_lt_iff_lt.2 hexact]

/-- An integer is in order with a double as with the number it stands for exactly if the double does
    not round onto it. -/
theorem orderMixed_eq_iff {n : Int64} {x : Binary64} :
    orderMixed n x = compare (n.toInt : ℚ) x.exactValue ↔ ¬x.RoundsOnto n := by
  rw [roundsOnto_iff]
  by_cases hcomparand : x.comparand = n.toInt
  · -- A tie is right only for the integer itself.
    rw [orderMixed_eq, hcomparand, compare_eq_iff_eq.2 rfl, eq_comm, compare_eq_iff_eq, eq_comm]
    simp
  · exact iff_of_true (orderMixed_eq_of_ne hcomparand) fun h => hcomparand h.2

/-- The order of an integer and a double is that of the numbers they stand for exactly if the double
    does not round onto the integer. If it does, both are equal for the order. The double is then no
    whole number, and it differs from an integer by less than two parts in `10 ^ 15`, or from zero by
    less than one in the 28th place. -/
theorem order_exact_iff (n : Int64) (x : Binary64) :
    ((integer n).order (float x) = compare (n.toInt : ℚ) x.exactValue ∧
        (float x).order (integer n) = compare x.exactValue n.toInt ↔ ¬x.RoundsOnto n) ∧
      (x.RoundsOnto n →
        (integer n).order (float x) = .eq ∧ (float x).order (integer n) = .eq ∧
          (∀ m : ℤ, x.exactValue ≠ m) ∧
          (n ≠ 0 → |x.exactValue - n.toInt| < |(n.toInt : ℚ)| * (2 / 10 ^ 15)) ∧
          (n = 0 → |x.exactValue| < 17 / 18 / 10 ^ 28)) := by
  have hmixed : (integer n).order (float x) = orderMixed n x := order_eq_orderNumbers rfl rfl
  have hswap : (float x).order (integer n) = (orderMixed n x).swap := by
    rw [order_swap (integer n) (float x), hmixed]
  rw [hmixed, hswap]
  refine ⟨⟨fun h => orderMixed_eq_iff.1 h.1, fun h => ?_⟩, fun h => ?_⟩
  · have hexact := orderMixed_eq_iff.2 h
    refine ⟨hexact, ?_⟩
    rw [hexact]
    exact Std.OrientedOrd.eq_swap.symm
  · have htie : orderMixed n x = .eq := by
      rw [orderMixed_eq, (roundsOnto_iff.1 h).2, compare_eq_iff_eq]
    rw [htie]
    exact ⟨rfl, rfl, h.exactValue_ne, h.abs_sub_lt,
      fun hn => (roundsOnto_zero_iff.1 (hn ▸ h)).2⟩

/-- The order of an integer and a double is not always that of the numbers they stand for: the first
    double after one is equal to the integer one. -/
theorem not_order_exact :
    ¬∀ (n : Int64) (x : Binary64), x.isFinite = true →
      (integer n).order (float x) = compare (n.toInt : ℚ) x.exactValue ∧
        (float x).order (integer n) = compare x.exactValue n.toInt := by
  intro h
  have hexact := (h 1 ⟨0x3ff0000000000001⟩ (by decide)).1
  have hone : Int64.toInt 1 = 1 := by decide
  have hsignificand : significand ⟨0x3ff0000000000001⟩ = 2 ^ 52 + 1 := by decide
  have hpower : power ⟨0x3ff0000000000001⟩ = -52 := by decide
  rw [show (integer 1).order (float ⟨0x3ff0000000000001⟩) = .eq by decide, eq_comm,
    compare_eq_iff_eq, exactValue, if_neg (by decide), absValue, hsignificand, hpower, hone]
    at hexact
  norm_num at hexact

end Value

end RecordQuery
