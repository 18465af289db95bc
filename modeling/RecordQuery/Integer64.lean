/-!
# 64-bit integers

* `Integer64.ofInt?`: the 64-bit integer of a value, if the value is in range; it has exactly that
  value (`ofInt?_eq_some_iff`).
-/

namespace RecordQuery.Integer64

/-- One more than the largest 64-bit integer, `2 ^ 63`. -/
def limit : Nat := 0x8000000000000000

/-- The 64-bit integer with a value between `-2 ^ 63` and `2 ^ 63 - 1`. -/
def ofInt? (n : Int) : Option Int64 :=
  if -(limit : Int) ≤ n ∧ n < limit then some (Int64.ofInt n) else none

/-- An integer becomes the 64 bits that stand for it, if there are any. -/
theorem ofInt?_eq_some_iff {n : Int} {i : Int64} : ofInt? n = some i ↔ i.toInt = n := by
  unfold ofInt? limit
  constructor
  · intro h
    split at h
    · rename_i hn
      cases h
      exact Int64.toInt_ofInt_of_le (by omega) (by omega)
    · cases h
  · rintro rfl
    have h₁ := i.le_toInt
    have h₂ := i.toInt_lt
    rw [if_pos (by omega), Int64.ofInt_toInt]

end RecordQuery.Integer64
