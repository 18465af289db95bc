import Mathlib.Data.List.Induction
import RecordQuery.Token

/-!
# Brackets

The parentheses of a list of tokens, by counting: reading from the left, no closing parenthesis
comes before its partner, and a number of opening ones are left open.

* `withoutParentheses`: the other tokens.
* `Nested`: some parentheses are still open.
* `Balanced`: none is.
* `Nested.append_other`, `Nested.append_opening`, `Nested.append_closing`: what one more token does.
* `Paired`: the same as a structure, a pair of parentheses at a time (`Balanced.paired`).
* `PartnerBefore`, `LeavesOpen`: which parentheses have a partner, also in a list that is not
  balanced. Both can be decided by counting (`partnerBefore_iff`, `leavesOpen_iff`).
* `AllEnclosed`: what stands in parentheses has a property.
-/

namespace RecordQuery

/-- An opening or a closing parenthesis. -/
def Token.isParenthesis (t : Token) : Bool := t.kind == .openParen || t.kind == .closeParen

/-- A list without its parentheses. -/
def withoutParentheses (ts : List Token) : List Token := ts.filter (!·.isParenthesis)

theorem withoutParentheses_append (ts us : List Token) :
    withoutParentheses (ts ++ us) = withoutParentheses ts ++ withoutParentheses us :=
  List.filter_append ts us

theorem withoutParentheses_singleton {t : Token} (h : t.isParenthesis = true) :
    withoutParentheses [t] = [] := by
  simp [withoutParentheses, h]

/-- The number of opening parentheses. -/
def openings (ts : List Token) : Nat := ts.countP (·.kind == .openParen)

/-- The number of closing parentheses. -/
def closings (ts : List Token) : Nat := ts.countP (·.kind == .closeParen)

/-- No beginning of a list closes more parentheses than it opens, and the whole list leaves a
    number of them open. -/
structure Nested (ts : List Token) (depth : Nat) : Prop where
  prefixes : ∀ us, us <+: ts → closings us ≤ openings us
  total : openings ts = closings ts + depth

/-- The parentheses of a list come in pairs. -/
def Balanced (ts : List Token) : Prop := Nested ts 0

variable {ts : List Token} {t : Token} {depth : Nat}

theorem nested_nil : Nested [] 0 where
  prefixes us h := by simp [List.prefix_nil.1 h, closings]
  total := rfl

theorem openings_append (ts us : List Token) : openings (ts ++ us) = openings ts + openings us :=
  List.countP_append

theorem closings_append (ts us : List Token) : closings (ts ++ us) = closings ts + closings us :=
  List.countP_append

/-- A token keeps the nesting if it does not close more than is open. -/
theorem Nested.append {d : Nat} (h : Nested ts depth)
    (ht : openings [t] + depth = closings [t] + d) : Nested (ts ++ [t]) d := by
  have htotal : openings (ts ++ [t]) = closings (ts ++ [t]) + d := by
    rw [openings_append, closings_append, h.total]
    omega
  refine ⟨fun us hus => ?_, htotal⟩
  rcases List.prefix_concat_iff.1 hus with rfl | hus
  · omega
  · exact h.prefixes us hus

theorem Nested.append_other (h : Nested ts depth) (ht : t.isParenthesis = false) :
    Nested (ts ++ [t]) depth := by
  rw [Token.isParenthesis, Bool.or_eq_false_iff] at ht
  exact h.append (by simp [openings, closings, ht])

theorem Nested.append_opening (h : Nested ts depth) (ht : t.kind = .openParen) :
    Nested (ts ++ [t]) (depth + 1) :=
  h.append (by simp [openings, closings, ht, Nat.add_comm])

theorem Nested.append_closing (h : Nested ts (depth + 1)) (ht : t.kind = .closeParen) :
    Nested (ts ++ [t]) depth :=
  h.append (by simp [openings, closings, ht, Nat.add_comm])

/-! ### Pairs -/

/-- The parentheses of a list come in pairs, each around a list in which they do. -/
inductive Paired : List Token → Prop
  /-- No tokens. -/
  | nil : Paired []
  /-- One more token that is no parenthesis. -/
  | token {ts : List Token} {t : Token} :
    Paired ts → t.isParenthesis = false → Paired (ts ++ [t])
  /-- One more pair of parentheses, with what it encloses. -/
  | parens {ts us : List Token} {o c : Token} :
    Paired ts → o.kind = .openParen → Paired us → c.kind = .closeParen →
      Paired (ts ++ o :: (us ++ [c]))

/-- A number of parentheses are still open, and before and between them all are in pairs. -/
inductive PairedAbove : List Token → Nat → Prop
  /-- None is open. -/
  | paired {ts : List Token} : Paired ts → PairedAbove ts 0
  /-- One more is open. -/
  | opening {ts us : List Token} {o : Token} {depth : Nat} :
    PairedAbove ts depth → o.kind = .openParen → Paired us →
      PairedAbove (ts ++ o :: us) (depth + 1)

/-- Any other token goes into the innermost pair that is still open. -/
theorem PairedAbove.append_other (h : PairedAbove ts depth) (ht : t.isParenthesis = false) :
    PairedAbove (ts ++ [t]) depth := by
  rcases h with h | ⟨h, ho, hus⟩
  · exact .paired (.token h ht)
  · rw [List.append_assoc, List.cons_append]
    exact .opening h ho (.token hus ht)

/-- An opening parenthesis starts a part of its own. -/
theorem PairedAbove.append_opening (h : PairedAbove ts depth) (ht : t.kind = .openParen) :
    PairedAbove (ts ++ [t]) (depth + 1) :=
  .opening h ht .nil

/-- A closing parenthesis makes a pair with the innermost one that is open. -/
theorem PairedAbove.append_closing (h : PairedAbove ts (depth + 1)) (ht : t.kind = .closeParen) :
    PairedAbove (ts ++ [t]) depth := by
  obtain - | ⟨h, ho, hus⟩ := h
  rw [List.append_assoc, List.cons_append]
  rcases h with h | ⟨h, ho', hus'⟩
  · exact .paired (.parens h ho hus ht)
  · rw [List.append_assoc, List.cons_append]
    exact .opening h ho' (.parens hus' ho hus ht)

/-- Without its last token a list is nested as deep as that token says. -/
theorem Nested.of_append {d : Nat} (h : Nested (ts ++ [t]) depth)
    (ht : openings [t] + d = closings [t] + depth) : Nested ts d where
  prefixes us hus := h.prefixes us (hus.trans (List.prefix_append ts [t]))
  total := by
    have := h.total
    rw [openings_append, closings_append] at this
    omega

theorem Token.parenthesis_cases (t : Token) :
    t.kind = .openParen ∨ t.kind = .closeParen ∨ t.isParenthesis = false := by
  cases h : t.kind <;> simp [Token.isParenthesis, h]

/-- What the last token of a nested list does, and how the list before it is nested. -/
theorem Nested.last_cases (h : Nested (ts ++ [t]) depth) :
    (t.kind = .openParen ∧ ∃ d, depth = d + 1 ∧ Nested ts d) ∨
      (t.kind = .closeParen ∧ Nested ts (depth + 1)) ∨
      (t.isParenthesis = false ∧ Nested ts depth) := by
  rcases t.parenthesis_cases with hopen | hclose | hother
  · -- Something is open, since the list before closes no more than it opens.
    obtain ⟨d, rfl⟩ : ∃ d, depth = d + 1 := by
      have htotal := h.total
      have hprefix := h.prefixes ts (List.prefix_append ts [t])
      rw [openings_append, closings_append] at htotal
      refine ⟨depth - 1, ?_⟩
      simp [openings, closings, hopen] at htotal hprefix
      omega
    refine .inl ⟨hopen, d, rfl, h.of_append ?_⟩
    simp [openings, closings, hopen, Nat.add_comm]
  · refine .inr (.inl ⟨hclose, h.of_append ?_⟩)
    simp [openings, closings, hclose, Nat.add_comm]
  · refine .inr (.inr ⟨hother, h.of_append ?_⟩)
    rw [Token.isParenthesis, Bool.or_eq_false_iff] at hother
    simp [openings, closings, hother]

/-- Tokens that are nested by their counts have the structure of pairs. -/
theorem Nested.pairedAbove (h : Nested ts depth) : PairedAbove ts depth := by
  induction ts using List.reverseRecOn generalizing depth with
  | nil =>
    obtain rfl : 0 = depth := by simpa [openings, closings] using h.total
    exact .paired .nil
  | append_singleton ts t ih =>
    rcases h.last_cases with ⟨ht, d, rfl, hts⟩ | ⟨ht, hts⟩ | ⟨ht, hts⟩
    · exact (ih hts).append_opening ht
    · exact (ih hts).append_closing ht
    · exact (ih hts).append_other ht

/-- Parentheses that come in pairs by counting are in pairs. -/
theorem Balanced.paired (h : Balanced ts) : Paired ts := by
  obtain ⟨h⟩ := Nested.pairedAbove h
  exact h

/-! ### Partners -/

/-- A closing parenthesis after these tokens has its partner among them: an opening one with
    balanced tokens between the two. -/
def PartnerBefore (before : List Token) : Prop :=
  ∃ front o us, before = front ++ o :: us ∧ o.kind = .openParen ∧ Balanced us

/-- An opening parenthesis before these tokens has its partner among them. -/
def PartnerAfter (after : List Token) : Prop :=
  ∃ us c back, after = us ++ c :: back ∧ c.kind = .closeParen ∧ Balanced us

/-- Some opening parenthesis has no partner. -/
def LeavesOpen (ts : List Token) : Prop :=
  ∃ front o back, ts = front ++ o :: back ∧ o.kind = .openParen ∧ ¬PartnerAfter back

/-- The number of open parentheses after a token, if there were `depth` before it. A closing
    parenthesis without a partner is passed over. -/
def Token.depthAfter (depth : Nat) (t : Token) : Nat :=
  match t.kind with
  | .openParen => depth + 1
  | .closeParen => depth - 1
  | _ => depth

/-- The number of parentheses that a list leaves open. -/
def depthAfter (ts : List Token) : Nat := ts.foldl Token.depthAfter 0

theorem Token.depthAfter_of_isParenthesis (h : t.isParenthesis = false) (depth : Nat) :
    t.depthAfter depth = depth := by
  rw [Token.depthAfter]
  cases hk : t.kind <;> simp_all [Token.isParenthesis]

theorem depthAfter_append (ts us : List Token) :
    depthAfter (ts ++ us) = us.foldl Token.depthAfter (depthAfter ts) :=
  List.foldl_append

/-- Tokens that are nested by themselves close nothing that was open before. -/
theorem Nested.foldl_depthAfter (h : Nested ts depth) (d : Nat) :
    ts.foldl Token.depthAfter d = d + depth := by
  induction ts using List.reverseRecOn generalizing depth with
  | nil =>
    obtain rfl : 0 = depth := by simpa [openings, closings] using h.total
    rfl
  | append_singleton ts t ih =>
    rw [List.foldl_append, List.foldl_cons, List.foldl_nil]
    rcases h.last_cases with ⟨ht, e, rfl, hts⟩ | ⟨ht, hts⟩ | ⟨ht, hts⟩
    · rw [ih hts, Token.depthAfter, ht, Nat.add_assoc]
    · rw [ih hts, Token.depthAfter, ht]
      rfl
    · rw [ih hts, Token.depthAfter_of_isParenthesis ht]

/-- Two nested lists after each other. -/
theorem Nested.append_nested {us : List Token} {d : Nat} (h : Nested ts depth) (hus : Nested us d) :
    Nested (ts ++ us) (depth + d) := by
  induction us using List.reverseRecOn generalizing d with
  | nil =>
    obtain rfl : 0 = d := by simpa [openings, closings] using hus.total
    simpa using h
  | append_singleton us u ih =>
    rw [← List.append_assoc]
    rcases hus.last_cases with ⟨hu, e, rfl, h'⟩ | ⟨hu, h'⟩ | ⟨hu, h'⟩
    · exact (ih h').append_opening hu
    · exact (ih h').append_closing hu
    · exact (ih h').append_other hu

/-- Pairs balance by their counts. -/
theorem Paired.balanced (h : Paired ts) : Balanced ts := by
  induction h with
  | nil => exact nested_nil
  | token _ ht ih => exact Nested.append_other ih ht
  | @parens ts us o c _ ho _ hc ih ih' =>
    have hopen : Nested (ts ++ [o] ++ us) 1 := (Nested.append_opening ih ho).append_nested ih'
    have h : Balanced (ts ++ [o] ++ us ++ [c]) := hopen.append_closing hc
    simpa using h

/-- After the last closing parenthesis without a partner a list is nested, as deep as it leaves
    parentheses open. -/
theorem exists_nested_end (ts : List Token) :
    ∃ front back, ts = front ++ back ∧ Nested back (depthAfter ts) := by
  induction ts using List.reverseRecOn with
  | nil => exact ⟨[], [], rfl, nested_nil⟩
  | append_singleton ts t ih =>
    obtain ⟨front, back, hts, hback⟩ := ih
    have hconcat : ts ++ [t] = front ++ (back ++ [t]) := by rw [hts, List.append_assoc]
    rw [depthAfter_append, List.foldl_cons, List.foldl_nil]
    rcases t.parenthesis_cases with hopen | hclose | hother
    · rw [Token.depthAfter, hopen]
      exact ⟨front, back ++ [t], hconcat, hback.append_opening hopen⟩
    · rw [Token.depthAfter, hclose]
      cases hdepth : depthAfter ts with
      -- Without a partner it belongs to what comes before the nested end.
      | zero => exact ⟨ts ++ [t], [], by simp, nested_nil⟩
      | succ d => exact ⟨front, back ++ [t], hconcat, (hdepth ▸ hback).append_closing hclose⟩
    · rw [Token.depthAfter_of_isParenthesis hother]
      exact ⟨front, back ++ [t], hconcat, hback.append_other hother⟩

/-- The innermost open parenthesis of a list that leaves some open. -/
theorem exists_opening_of_depthAfter (h : 0 < depthAfter ts) :
    ∃ front o us, ts = front ++ o :: us ∧ o.kind = .openParen ∧ Balanced us := by
  obtain ⟨d, hd⟩ := Nat.exists_eq_add_one.2 h
  obtain ⟨front, back, rfl, hback⟩ := exists_nested_end ts
  rw [hd] at hback
  obtain - | @⟨inner, us, o, -, -, ho, hus⟩ := hback.pairedAbove
  exact ⟨front ++ inner, o, us, by simp, ho, hus.balanced⟩

/-- There is a partner as long as something is open. -/
theorem partnerBefore_iff : PartnerBefore ts ↔ 0 < depthAfter ts := by
  refine ⟨?_, exists_opening_of_depthAfter⟩
  rintro ⟨front, o, us, rfl, ho, hus⟩
  rw [depthAfter_append, List.foldl_cons, Nested.foldl_depthAfter hus, Token.depthAfter, ho]
  exact Nat.succ_pos _

/-- A list that closes no more than it opens is nested, and otherwise the first parenthesis that is
    closed without having been opened is the partner of one before the list. -/
theorem nested_or_partnerAfter (ts : List Token) : (∃ d, Nested ts d) ∨ PartnerAfter ts := by
  induction ts using List.reverseRecOn with
  | nil => exact .inl ⟨0, nested_nil⟩
  | append_singleton ts t ih =>
    rcases ih with ⟨d, h⟩ | ⟨us, c, back, rfl, hc, hus⟩
    · rcases t.parenthesis_cases with hopen | hclose | hother
      · exact .inl ⟨d + 1, h.append_opening hopen⟩
      · cases d with
        -- Nothing is open, so this is the first to be closed without having been opened.
        | zero => exact .inr ⟨ts, t, [], rfl, hclose, h⟩
        | succ d => exact .inl ⟨d, h.append_closing hclose⟩
      · exact .inl ⟨d, h.append_other hother⟩
    · exact .inr ⟨us, c, back ++ [t], by simp, hc, hus⟩

/-- Nothing that is closed in a balanced list was opened before it. -/
theorem Balanced.not_partnerAfter (h : Balanced ts) : ¬PartnerAfter ts := by
  rintro ⟨us, c, back, rfl, hc, hus⟩
  -- Up to this closing parenthesis one more would be closed than was opened.
  have hprefix := h.prefixes (us ++ [c]) ⟨back, by simp⟩
  have htotal := hus.total
  rw [openings_append, closings_append] at hprefix
  simp [openings, closings, hc] at hprefix htotal
  omega

/-- Something is left open if and only if the depth says so. -/
theorem leavesOpen_iff : LeavesOpen ts ↔ 0 < depthAfter ts := by
  constructor
  · rintro ⟨front, o, back, rfl, ho, hback⟩
    obtain ⟨d, hd⟩ := (nested_or_partnerAfter back).resolve_right hback
    rw [depthAfter_append, List.foldl_cons, hd.foldl_depthAfter, Token.depthAfter, ho]
    exact Nat.add_pos_left (Nat.succ_pos _) d
  · intro h
    obtain ⟨front, o, us, rfl, ho, hus⟩ := exists_opening_of_depthAfter h
    exact ⟨front, o, us, rfl, ho, hus.not_partnerAfter⟩

instance : DecidablePred PartnerBefore := fun _ => decidable_of_iff _ partnerBefore_iff.symm

instance : DecidablePred LeavesOpen := fun _ => decidable_of_iff _ leavesOpen_iff.symm

/-! ### What parentheses enclose -/

/-- All that stands between an opening parenthesis and its partner has a property. -/
def AllEnclosed (P : List Token → Prop) (ts : List Token) : Prop :=
  ∀ front us back o c, ts = front ++ o :: (us ++ c :: back) → o.kind = .openParen →
    c.kind = .closeParen → Balanced us → P us

/-- What holds in all pairs of a list holds in those of a part. -/
theorem AllEnclosed.within {P : List Token → Prop} (front back : List Token)
    (h : AllEnclosed P (front ++ ts ++ back)) : AllEnclosed P ts := by
  rintro front' us back' o c rfl ho hc hus
  exact h (front ++ front') us (back' ++ back) o c (by simp) ho hc hus

end RecordQuery
