import Mathlib.Algebra.Group.Nat.Defs
import RecordQuery.Proofs.Decimal.Numeral
import RecordQuery.Proofs.Lexing.Standard

/-!
# Numbers in conditions

A text that begins with a digit and goes on with digits and points is one token of the standard
grammar, whatever it is. Digits alone, or on both sides of one point, are a number; all other such
texts are unknown, and keep their text.

* `Grammar.isNumeral_iff`: the two shapes of a number.
* `Grammar.tokenize_digitRun`: such a text is scanned as a whole.
* `Grammar.tokenize_number`: its token. An integer that has 64 bits is exactly the number that its
  digits stand for, with any number of leading zeros, and a larger one becomes a double.
-/

namespace RecordQuery

open Numeral (IsDigits isDigit)

/-- A number is read as a 64-bit integer if its digits stand for one. -/
theorem Literal.ofNumeral?_integer {d : List Char} (hd : IsDigits d)
    (h : Numeral.value d < Integer64.limit) :
    ∃ n : Int64, n.toInt = Numeral.value d ∧ ofNumeral? d = some (.integer n) := by
  have hread := Numeral.integer?_of_isDigit hd.1 hd.2
  obtain ⟨n, hn⟩ : ∃ n, Integer64.ofInt? (Numeral.value d) = some n := by
    rw [Integer64.ofInt?, if_pos (by omega)]
    exact ⟨_, rfl⟩
  refine ⟨n, Integer64.ofInt?_eq_some_iff.1 hn, ?_⟩
  rw [ofNumeral?, hread, hn]

/-- Digits that stand for a larger number are read as a double. -/
theorem Literal.ofNumeral?_large {d : List Char} (hd : IsDigits d)
    (h : Integer64.limit ≤ Numeral.value d) :
    ofNumeral? d = some (.float (.ofDecimal false (Numeral.value d) 0)) := by
  have hnone : Integer64.ofInt? (Numeral.value d) = none := by
    rw [Integer64.ofInt?, if_neg (by omega)]
  rw [ofNumeral?, Numeral.integer?_of_isDigit hd.1 hd.2, hnone, hd.double?_eq]
  rfl

/-- Digits on both sides of a point are read as a double. -/
theorem Literal.ofNumeral?_point {d e : List Char} (hd : IsDigits d) (he : IsDigits e) :
    ofNumeral? (d ++ '.' :: e) =
      some (.float (.ofDecimal false (Numeral.value (d ++ e)) (-(e.length : ℤ)))) := by
  rw [ofNumeral?, hd.integer?_point, hd.double?_point he]
  rfl

namespace Grammar

variable {text d e : List Char}

/-! ### The shape of a number -/

/-- Digits alone, or on both sides of one point. -/
theorem isNumeral_iff : isNumeral text = true ↔
    IsDigits text ∨ ∃ d e, IsDigits d ∧ IsDigits e ∧ text = d ++ '.' :: e := by
  constructor
  · intro h
    have hcut := List.takeWhile_append_dropWhile (p := isDigit) (l := text)
    have hfront : ∀ c ∈ text.takeWhile isDigit, isDigit c = true :=
      fun c => List.mem_takeWhile_imp
    rw [isNumeral, Bool.and_eq_true, Bool.not_eq_true', List.isEmpty_eq_false_iff] at h
    obtain ⟨hne, hrest⟩ := h
    -- What follows the first digits is nothing, or a point and further digits.
    split at hrest
    · rename_i hnil
      rw [hnil, List.append_nil] at hcut
      exact .inl (hcut ▸ ⟨hne, hfront⟩)
    · rename_i e hpoint
      rw [Bool.and_eq_true, Bool.not_eq_true', List.isEmpty_eq_false_iff] at hrest
      rw [hpoint] at hcut
      exact .inr ⟨_, e, ⟨hne, hfront⟩, ⟨hrest.1, List.all_eq_true.1 hrest.2⟩, hcut.symm⟩
    · cases hrest
  · rintro (h | ⟨d, e, hd, he, rfl⟩)
    · exact isNumeral_of_isDigit h.1 h.2
    · have hpoint : ∀ c ∈ ('.' :: e).head?, isDigit c = false := by simpa using by decide
      have htake : (d ++ '.' :: e).takeWhile isDigit = d := hd.takeWhile_append hpoint
      have hdrop : (d ++ '.' :: e).dropWhile isDigit = '.' :: e := hd.dropWhile_append hpoint
      rw [isNumeral, htake, hdrop, List.isEmpty_eq_false_iff.2 hd.1]
      simp only [List.isEmpty_eq_false_iff.2 he.1]
      exact List.all_eq_true.2 he.2

theorem isDigitRun_append (hd : IsDigits d) (he : ∀ c ∈ e, isDigit c = true) :
    isDigitRun (d ++ '.' :: e) = true := by
  obtain ⟨c, cs, rfl, hc⟩ := hd.exists_cons
  refine Bool.and_eq_true_iff.2 ⟨hc, List.all_eq_true.2 fun x hx => ?_⟩
  rw [Bool.or_eq_true, beq_iff_eq]
  rcases List.mem_append.1 hx with hx | hx
  · exact .inl (hd.2 x (List.mem_cons_of_mem _ hx))
  · exact (List.mem_cons.1 hx).symm.imp (he x) id

/-! ### Whole texts -/

/-- A text of another shape is unknown. -/
theorem finish_of_not_isNumeral (hrun : isDigitRun text = true) (h : isNumeral text = false)
    (counts : Counts) :
    standard.finish counts (described "number") text = (.unknown text, counts) := by
  have hformat : (described "number").acceptsFormat text = false := h
  rw [finish, resolve_of_unreserved (unreserved_of_isDigitRun hrun)]
  simp only [hformat]
  rfl

/-- A run of digits and points is one token. -/
theorem tokenize_digitRun {t : Token} (hrun : isDigitRun text = true)
    (hfinish : standard.finish [] (described "number") text = (t, [])) :
    standard.tokenize (String.ofList text) = [t] := by
  have hnext : Lexer.next? standard ⟨text ++ [], []⟩ = some (t, ⟨[], []⟩) :=
    scan_digits (by simp [SetOff]) hrun hfinish
  rw [List.append_nil] at hnext
  rw [tokenize, String.toList_ofList, Lexer.tokens_of_next? hnext,
    Lexer.tokens_of_next?_eq_none rfl]

/-- A number is one token with its literal. -/
theorem tokenize_of_isNumeral {literal : Literal} (hrun : isDigitRun text = true)
    (hnumeral : isNumeral text = true) (hliteral : Literal.ofNumeral? text = some literal) :
    standard.tokenize (String.ofList text) = [⟨described "number", literal⟩] :=
  tokenize_digitRun hrun (finish_numeral hrun hnumeral hliteral [])

/-- A text that begins with a digit and goes on with digits and points is one token. Digits alone are
    a number: the integer that they stand for if it has 64 bits, however many zeros lead, and else a
    double. Digits on both sides of a point are a number too, which is a double. All others are
    unknown and keep their text. -/
theorem tokenize_number :
    (∀ d : String, IsDigits d.toList →
      (Numeral.value d.toList ≤ 2 ^ 63 - 1 → ∃ n : Int64, n.toInt = Numeral.value d.toList ∧
        standard.tokenize d = [⟨described "number", .integer n⟩]) ∧
      (2 ^ 63 - 1 < Numeral.value d.toList → standard.tokenize d =
        [⟨described "number", .float (.ofDecimal false (Numeral.value d.toList) 0)⟩])) ∧
    (∀ d e : String, IsDigits d.toList → IsDigits e.toList →
      standard.tokenize (d ++ "." ++ e) = [⟨described "number", .float
        (.ofDecimal false (Numeral.value (d.toList ++ e.toList)) (-(e.length : ℤ)))⟩]) ∧
    ∀ s : String, isDigitRun s.toList = true → ¬ IsDigits s.toList →
      (∀ d e : String, IsDigits d.toList → IsDigits e.toList → s ≠ d ++ "." ++ e) →
      standard.tokenize s = [⟨.unknown, .text s⟩] := by
  have hlimit : Integer64.limit = 2 ^ 63 := rfl
  refine ⟨fun d hd => ?_, fun d e hd he => ?_, fun s hrun hnot hnone => ?_⟩
  · have hrun := isDigitRun_of_isDigit hd.1 hd.2
    have hnumeral := isNumeral_of_isDigit hd.1 hd.2
    have htoken {literal : Literal} (h : Literal.ofNumeral? d.toList = some literal) :
        standard.tokenize d = [⟨described "number", literal⟩] := by
      rw [← String.ofList_toList (s := d)]
      exact tokenize_of_isNumeral hrun hnumeral h
    refine ⟨fun hle => ?_, fun hlt => htoken (Literal.ofNumeral?_large hd (by omega))⟩
    obtain ⟨n, hn, hliteral⟩ := Literal.ofNumeral?_integer hd (by omega)
    exact ⟨n, hn, htoken hliteral⟩
  · have hlist : (d ++ "." ++ e).toList = d.toList ++ '.' :: e.toList := by simp
    rw [← String.ofList_toList (s := d ++ "." ++ e), hlist]
    exact tokenize_of_isNumeral (isDigitRun_append hd he.2)
      (isNumeral_iff.2 (.inr ⟨_, _, hd, he, rfl⟩)) (Literal.ofNumeral?_point hd he)
  · have hnumeral : isNumeral s.toList = false := by
      rw [← Bool.not_eq_true, isNumeral_iff]
      rintro (h | ⟨d, e, hd, he, hs⟩)
      · exact hnot h
      · refine hnone (.ofList d) (.ofList e) ?_ ?_ ?_
        · rwa [String.toList_ofList]
        · rwa [String.toList_ofList]
        · rw [← String.toList_inj, hs]
          simp
    have htoken := tokenize_digitRun hrun (finish_of_not_isNumeral hrun hnumeral [])
    rwa [Token.unknown, String.ofList_toList] at htoken

/-- Around the largest 64-bit integer, and with points in the wrong places. -/
theorem tokenize_number_limit :
    standard.tokenize "0009223372036854775807" =
        [⟨described "number", .integer 9223372036854775807⟩] ∧
      standard.tokenize "9223372036854775808" =
        [⟨described "number", .float ⟨0x43e0000000000000⟩⟩] ∧
      standard.tokenize "0.5" = [⟨described "number", .float ⟨0x3fe0000000000000⟩⟩] ∧
      standard.tokenize "1..2" = [⟨.unknown, .text "1..2"⟩] := by
  obtain ⟨hwhole, hpoint, hunknown⟩ := tokenize_number
  refine ⟨?_, ?_, ?_, ?_⟩
  · obtain ⟨n, hn, htoken⟩ := (hwhole "0009223372036854775807" (by decide)).1 (by decide)
    obtain rfl : n = 9223372036854775807 := Int64.toInt_inj.1 (hn.trans (by decide))
    exact htoken
  · have hdouble : Binary64.ofDecimal false (Numeral.value "9223372036854775808".toList) 0 =
        ⟨0x43e0000000000000⟩ := by decide +kernel
    rw [← hdouble]
    exact (hwhole "9223372036854775808" (by decide)).2 (by decide)
  · have hdouble : Binary64.ofDecimal false (Numeral.value ("0".toList ++ "5".toList)) (-1) =
        ⟨0x3fe0000000000000⟩ := by decide +kernel
    rw [← hdouble]
    exact hpoint "0" "5" (by decide) (by decide)
  · refine hunknown "1..2" (by decide) (by decide) fun d e hd he h => ?_
    have hshape : isNumeral "1..2".toList = true :=
      isNumeral_iff.2 (.inr ⟨d.toList, e.toList, hd, he, by rw [h]; simp⟩)
    exact absurd hshape (by decide)

end Grammar

end RecordQuery
