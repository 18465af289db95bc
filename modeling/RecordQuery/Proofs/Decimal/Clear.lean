import RecordQuery.Proofs.Decimal.Cut

/-!
# Powers of two as powers of ten

Before its places are cut, a double is a coefficient with a power of ten. Getting there is exact as
long as the coefficient has room. When it has none, digits are lost, but at most one unit in
`2 ^ 93` each time, and so fewer in all than lie between two doubles.

* `FixedDecimal.clearHalves_spec`: a negative power of two, from below and from above.
* `FixedDecimal.clearFives_eq`: a positive power of two is exact, or has no decimal at all
  (`clearFives_eq_none`).
-/

namespace RecordQuery.FixedDecimal

/-- An odd coefficient without room for another factor of five loses less than five parts in
    `2 ^ 96` of it when it is halved. -/
theorem mul_le_of_odd {m n : ℕ} (hodd : m % 2 = 1) (hfull : bound ≤ 5 * m) :
    m * (bound - 5 * (n + 1)) ≤ 2 * (m / 2) * (bound - 5 * n) := by
  rcases Nat.le_total bound (5 * (n + 1)) with h | h
  · -- With so many halves nothing is promised any more.
    rw [Nat.sub_eq_zero_of_le h]
    exact Nat.zero_le _
  · obtain ⟨d, hd⟩ := Nat.exists_eq_add_of_le h
    obtain ⟨j, hj⟩ : ∃ j, m = 2 * j + 1 := ⟨m / 2, by omega⟩
    rw [show bound - 5 * (n + 1) = d by omega, show bound - 5 * n = d + 5 by omega,
      show m / 2 = j by omega, hj]
    have hdj : d ≤ 10 * j := by omega
    calc (2 * j + 1) * d = 2 * j * d + d := by ring
      _ ≤ 2 * j * d + 10 * j := Nat.add_le_add_left hdj _
      _ = 2 * j * (d + 5) := by ring

/-- Clearing `n` halves gives `k` of them to the power of ten. The coefficient is never too large,
    and too small by at most five parts in `2 ^ 96` for each half. -/
theorem clearHalves_spec (n m : ℕ) (t : ℤ) :
    ∃ c k, clearHalves n m t = (c, t + (k : ℕ)) ∧ k ≤ n ∧ c * 10 ^ k ≤ m * 5 ^ n ∧
      m * 5 ^ n * (bound - 5 * n) ≤ c * 10 ^ k * bound := by
  induction n generalizing m t with
  | zero => exact ⟨m, 0, by simp [clearHalves], le_rfl, by simp, by simp⟩
  | succ n ih =>
    rw [clearHalves]
    -- A half is given to the power of ten when the coefficient is even, and also when it is odd
    -- but full. Both cases go alike: `r` is what the coefficient loses.
    have hhalf (r : ℕ) (hm : m = 2 * (m / 2) + r)
        (hr : m * (bound - 5 * (n + 1)) ≤ 2 * (m / 2) * (bound - 5 * n)) :
        ∃ c k, clearHalves n (m / 2) (t + 1) = (c, t + (k : ℕ)) ∧ k ≤ n + 1 ∧
          c * 10 ^ k ≤ m * 5 ^ (n + 1) ∧
          m * 5 ^ (n + 1) * (bound - 5 * (n + 1)) ≤ c * 10 ^ k * bound := by
      obtain ⟨c, k, hc, hk, hle, hge⟩ := ih (m / 2) (t + 1)
      refine ⟨c, k + 1, ?_, by omega, ?_, ?_⟩
      · rw [hc]
        push_cast
        ring_nf
      · calc c * 10 ^ (k + 1) = 10 * (c * 10 ^ k) := by ring
          _ ≤ 10 * (m / 2 * 5 ^ n) := Nat.mul_le_mul_left _ hle
          _ = 2 * (m / 2) * 5 ^ (n + 1) := by ring
          _ ≤ m * 5 ^ (n + 1) := Nat.mul_le_mul_right _ (by omega)
      · calc m * 5 ^ (n + 1) * (bound - 5 * (n + 1))
            = m * (bound - 5 * (n + 1)) * 5 ^ (n + 1) := by ring
          _ ≤ 2 * (m / 2) * (bound - 5 * n) * 5 ^ (n + 1) := Nat.mul_le_mul_right _ hr
          _ = 10 * (m / 2 * 5 ^ n * (bound - 5 * n)) := by ring
          _ ≤ 10 * (c * 10 ^ k * bound) := Nat.mul_le_mul_left _ hge
          _ = c * 10 ^ (k + 1) * bound := by ring
    split
    · rename_i heven
      refine hhalf 0 (by omega) ?_
      rw [show 2 * (m / 2) = m by omega]
      exact Nat.mul_le_mul_left _ (by omega)
    · rename_i hodd
      split
      · obtain ⟨c, k, hc, hk, hle, hge⟩ := ih (5 * m) t
        refine ⟨c, k, hc, by omega, ?_, ?_⟩
        · calc c * 10 ^ k ≤ 5 * m * 5 ^ n := hle
            _ = m * 5 ^ (n + 1) := by ring
        · calc m * 5 ^ (n + 1) * (bound - 5 * (n + 1))
              = 5 * m * 5 ^ n * (bound - 5 * (n + 1)) := by ring
            _ ≤ 5 * m * 5 ^ n * (bound - 5 * n) := Nat.mul_le_mul_left _ (by omega)
            _ ≤ c * 10 ^ k * bound := hge
      · rename_i hfull
        exact hhalf 1 (by omega) (mul_le_of_odd (by omega) (by omega))

/-- Clearing as many halves as a coefficient has is exact. -/
theorem clearHalves_mul_pow (n m : ℕ) (t : ℤ) : clearHalves n (m * 2 ^ n) t = (m, t + n) := by
  induction n generalizing t with
  | zero => simp [clearHalves]
  | succ n ih =>
    have hhalf : m * 2 ^ (n + 1) = 2 * (m * 2 ^ n) := by ring
    rw [clearHalves, hhalf, if_pos (by omega), Nat.mul_div_cancel_left _ (by decide), ih]
    push_cast
    ring_nf

/-- Clearing `n` fives is exact if the coefficient has room for as many doublings. -/
theorem clearFives_eq {n m : ℕ} (h : m * 2 ^ n < bound) (t : ℤ) :
    clearFives n m t = some (m * 2 ^ n, t - n) := by
  induction n generalizing m t with
  | zero => simp [clearFives]
  | succ n ih =>
    have hstep : 2 * m * 2 ^ n = m * 2 ^ (n + 1) := by ring
    have hroom : 2 * m < bound := by
      have : 2 * m ≤ 2 * m * 2 ^ n := Nat.le_mul_of_pos_right _ (by positivity)
      omega
    rw [clearFives, if_pos hroom, ih (by omega), hstep]
    push_cast
    ring_nf

/-- Without room for the product there is no coefficient. -/
theorem clearFives_eq_none {n m : ℕ} (hm : m < bound) (h : bound ≤ m * 2 ^ n) :
    clearFives n m n = none := by
  induction n generalizing m with
  | zero => omega
  | succ n ih =>
    rw [clearFives]
    split
    · rename_i hroom
      have := ih hroom (by rw [pow_succ] at h; linarith)
      simpa using this
    · rw [if_pos (by push_cast; omega)]

end RecordQuery.FixedDecimal
