import Mathlib.Data.Int.Notation
import Mathlib.Data.List.TakeWhile
import Mathlib.Data.Nat.Notation
import RecordQuery.Decimal.Numeral

/-!
# Numerals

The digits of a natural number are read as this number (`Numeral.value_toDigits`), and as a 64-bit
integer if they fit (`Numeral.integer?_toDigits`). Digits alone, and digits on both sides of a point,
are always read as a double (`Numeral.IsDigits.double?_eq`, `Numeral.IsDigits.double?_point`).
-/

namespace RecordQuery.Numeral

variable {cs : List Char} {n : ℕ}

theorem isDigit_of_mem_toDigits {c : Char} (h : c ∈ Nat.toDigits 10 n) : isDigit c = true := by
  have hc := Nat.isDigit_of_mem_toDigits (by decide) (by decide) h
  rw [Char.isDigit, Bool.and_eq_true, decide_eq_true_iff, decide_eq_true_iff] at hc
  rw [isDigit, Bool.and_eq_true, decide_eq_true_iff, decide_eq_true_iff]
  exact hc

/-- The numeral of a natural number has this value. -/
theorem value_toDigits (n : ℕ) : value (Nat.toDigits 10 n) = n := Nat.ofDigitChars_ten_toDigits

/-- Digits have no sign. -/
theorem sign_of_isDigit (h : ∀ c ∈ cs, isDigit c = true) : sign cs = (false, cs) := by
  rw [sign.eq_def]
  split
  · exact absurd (h '-' List.mem_cons_self) (by decide)
  · exact absurd (h '+' List.mem_cons_self) (by decide)
  · rfl

/-- Digits are read as a 64-bit integer if their value is one. -/
theorem integer?_of_isDigit (hne : cs ≠ []) (h : ∀ c ∈ cs, isDigit c = true) :
    integer? cs = Integer64.ofInt? (value cs) := by
  have hall : cs.all isDigit = true := List.all_eq_true.2 h
  rw [integer?, sign_of_isDigit h]
  dsimp only
  rw [hall, List.isEmpty_eq_false_iff.2 hne, if_neg (by decide), if_neg (by decide)]

/-- Decimal notation is read as its number, if this has 64 bits. -/
theorem integer?_toDigits (h : n < Integer64.limit) :
    integer? (Nat.toDigits 10 n) = some (Int64.ofInt n) := by
  rw [integer?_of_isDigit Nat.toDigits_ne_nil fun c => isDigit_of_mem_toDigits, value_toDigits,
    Integer64.ofInt?, if_pos]
  omega

/-! ### Fractions -/

/-- Digits and nothing else, at least one. -/
def IsDigits (cs : List Char) : Prop := cs ≠ [] ∧ ∀ c ∈ cs, isDigit c = true

instance (cs : List Char) : Decidable (IsDigits cs) :=
  decidable_of_iff (cs ≠ [] ∧ cs.all isDigit = true) (and_congr_right fun _ => List.all_eq_true)

namespace IsDigits

variable {d e rest places : List Char} (hd : IsDigits d)
include hd

theorem exists_cons : ∃ c cs, d = c :: cs ∧ isDigit c = true := by
  obtain ⟨c, cs, rfl⟩ := List.exists_cons_of_ne_nil hd.1
  exact ⟨c, cs, rfl, hd.2 c List.mem_cons_self⟩

/-- A text that begins with a digit has no sign. -/
theorem sign_append (rest : List Char) : sign (d ++ rest) = (false, d ++ rest) := by
  obtain ⟨c, cs, rfl, hc⟩ := hd.exists_cons
  rw [List.cons_append, sign.eq_def]
  split
  · rename_i h
    cases h
    exact absurd hc (by decide)
  · rename_i h
    cases h
    exact absurd hc (by decide)
  · rfl

/-- A text that begins with a digit spells neither an infinity nor a NaN. -/
theorem special?_append (rest : List Char) : special? (d ++ rest) = none := by
  obtain ⟨c, cs, rfl, hc⟩ := hd.exists_cons
  have hlower : c.toLower = c := by
    rw [isDigit, Bool.and_eq_true, decide_eq_true_iff, decide_eq_true_iff] at hc
    refine dif_neg fun h => ?_
    exact absurd (UInt32.le_trans h.1 hc.2) (by decide)
  have hword {word : String} {l : Char} {ls : List Char} (hlist : word.toList = l :: ls)
      (hl : isDigit l = false) :
      String.ofList ((c :: (cs ++ rest)).map Char.toLower) ≠ word := by
    intro h
    have hlist' := congrArg String.toList h
    rw [String.toList_ofList, List.map_cons, hlower, hlist] at hlist'
    cases hlist'
    rw [hc] at hl
    cases hl
  rw [special?, List.cons_append, if_neg (not_or.2 ⟨hword rfl (by decide), hword rfl (by decide)⟩),
    if_neg (hword rfl (by decide))]

theorem takeWhile_append (hrest : ∀ c ∈ rest.head?, isDigit c = false) :
    (d ++ rest).takeWhile isDigit = d := by
  rw [List.takeWhile_append_of_pos hd.2]
  cases rest with
  | nil => exact List.append_nil d
  | cons c rest => rw [List.takeWhile_cons_of_neg (by simp [hrest c rfl]), List.append_nil]

theorem dropWhile_append (hrest : ∀ c ∈ rest.head?, isDigit c = false) :
    (d ++ rest).dropWhile isDigit = rest := by
  rw [List.dropWhile_append_of_pos hd.2]
  cases rest with
  | nil => rfl
  | cons c rest => rw [List.dropWhile_cons_of_neg (by simp [hrest c rfl])]

/-- Digits that perhaps have places after them, and nothing else, are read as a double. -/
theorem double?_append (hrest : ∀ c ∈ rest.head?, isDigit c = false)
    (hplaces : fraction rest = (places, [])) :
    double? (d ++ rest) =
      some (.ofDecimal false (value (d ++ places)) (-(places.length : ℤ))) := by
  rw [double?, hd.sign_append]
  simp only [hd.special?_append, hd.takeWhile_append hrest, hd.dropWhile_append hrest, hplaces,
    List.isEmpty_eq_false_iff.2 hd.1, Bool.false_and, exponent?, Option.map_some, Int.zero_sub,
    Bool.false_eq_true, if_false]

/-- Digits alone are read as a double. -/
theorem double?_eq : double? d = some (.ofDecimal false (value d) 0) := by
  have h : double? (d ++ []) = some (.ofDecimal false (value (d ++ [])) 0) :=
    hd.double?_append (by simp) rfl
  rwa [List.append_nil] at h

/-- Digits on both sides of a point are read as a double. -/
theorem double?_point (he : IsDigits e) :
    double? (d ++ '.' :: e) = some (.ofDecimal false (value (d ++ e)) (-(e.length : ℤ))) := by
  refine hd.double?_append (by simpa using by decide) ?_
  rw [fraction, List.takeWhile_eq_self_iff.2 he.2, List.dropWhile_eq_nil_iff.2 he.2]

/-- A text with a point is no integer. -/
theorem integer?_point (e : List Char) : integer? (d ++ '.' :: e) = none := by
  have hall : (d ++ '.' :: e).all isDigit = false := by
    rw [List.all_eq_false]
    exact ⟨'.', by simp, by decide⟩
  rw [integer?, hd.sign_append]
  simp only [hall, Bool.not_false, Bool.or_true, if_true]

end IsDigits

end RecordQuery.Numeral
