import RecordQuery.Proofs.ValueOrder

/-!
# Loose equality and the order of values

Loose equality compares numbers as the order does, goes through arrays item by item as the order
does, and is strict on all else. Strictly equal values are equal for the order, where a NaN is not
strictly equal to anything; but the order looks at no more of an object than how many members it
has.

* `Value.looseEq_comm`: loose equality is symmetric.
* `Value.order_eq_of_looseEq`: values that are loosely equal are equal for the order.
* `Value.looseEq_of_order_eq`: without objects, values that are equal for the order are loosely equal.
* `Value.looseEq_agrees_with_order`: these together.
-/

namespace RecordQuery

namespace Binary64

/-- Equality of doubles is symmetric, also beside a NaN. -/
theorem equals_comm (x y : Binary64) : x.equals y = y.equals x := by
  rw [equals, equals, Bool.and_comm (!x.isNaN), BEq.comm]

end Binary64

namespace Value

/-! ### Symmetry -/

mutual

/-- Strict equality is symmetric. -/
theorem strictEq_comm : ∀ a b : Value, a.strictEq b = b.strictEq a
  | null, b => by cases b <;> rfl
  | boolean p, b => by
    cases b <;> simp only [strictEq]
    exact BEq.comm
  | integer n, b => by
    cases b <;> simp only [strictEq]
    exact BEq.comm
  | float x, b => by
    cases b <;> simp only [strictEq]
    exact Binary64.equals_comm x _
  | string s, b => by
    cases b <;> simp only [strictEq]
    exact BEq.comm
  | array as, b => by
    cases b <;> simp only [strictEq]
    exact strictEqItems_comm as _
  | object ms, b => by
    cases b <;> simp only [strictEq]
    exact strictEqMembers_comm ms _

theorem strictEqItems_comm : ∀ as bs : List Value, strictEqItems as bs = strictEqItems bs as
  | [], [] | [], _ :: _ | _ :: _, [] => by simp [strictEqItems]
  | a :: as, b :: bs => by
    simp only [strictEqItems]
    rw [strictEq_comm a b, strictEqItems_comm as bs]

theorem strictEqMembers_comm :
    ∀ as bs : List (String × Value), strictEqMembers as bs = strictEqMembers bs as
  | [], [] | [], _ :: _ | _ :: _, [] => by simp [strictEqMembers]
  | (k, a) :: as, (l, b) :: bs => by
    simp only [strictEqMembers]
    rw [strictEq_comm a b, strictEqMembers_comm as bs, BEq.comm]

end

theorem orderNumbers_beq_eq_comm (a b : Value) :
    (orderNumbers a b == .eq) = (orderNumbers b a == .eq) := by
  rw [orderNumbers_swap a b]
  cases orderNumbers a b <;> rfl

mutual

/-- Loose equality is symmetric. -/
theorem looseEq_comm : ∀ a b : Value, a.looseEq b = b.looseEq a
  | array as, b => by
    cases b
    case array bs =>
      simp only [looseEq]
      exact looseEqItems_comm as bs
    all_goals rfl
  | integer _, b | float _, b => by
    cases b
    case integer | float => exact orderNumbers_beq_eq_comm _ _
    all_goals rfl
  | null, b | boolean _, b | string _, b | object _, b => by
    cases b
    case array => rfl
    all_goals exact strictEq_comm _ _

theorem looseEqItems_comm : ∀ as bs : List Value, looseEqItems as bs = looseEqItems bs as
  | [], [] | [], _ :: _ | _ :: _, [] => by simp [looseEqItems]
  | a :: as, b :: bs => by
    simp only [looseEqItems]
    rw [looseEq_comm a b, looseEqItems_comm as bs]

end

/-! ### From equality to the order -/

theorem length_eq_of_strictEqMembers :
    ∀ {as bs : List (String × Value)}, strictEqMembers as bs = true → as.length = bs.length
  | [], [], _ => rfl
  | [], _ :: _, h | _ :: _, [], h => by cases h
  | (_, _) :: as, (_, _) :: bs, h => by
    simp only [strictEqMembers, Bool.and_eq_true] at h
    rw [List.length_cons, List.length_cons, length_eq_of_strictEqMembers h.2]

mutual

/-- Values that are loosely equal are equal for the order. -/
theorem order_eq_of_looseEq : ∀ {a b : Value}, a.looseEq b = true → a.order b = .eq
  | array as, b, h => by
    cases b
    case array bs =>
      simp only [looseEq] at h
      simp only [order]
      exact orderItems_eq_of_looseEqItems h
    all_goals cases h
  | integer _, b, h | float _, b, h => by
    cases b
    case integer | float => exact beq_iff_eq.1 h
    all_goals cases h
  | null, b, h => by
    cases b
    case null => rfl
    all_goals cases h
  | boolean p, b, h => by
    cases b
    case boolean q =>
      simp only [order]
      exact Std.compare_eq_iff_eq.2 (beq_iff_eq.1 h)
    all_goals cases h
  | string s, b, h => by
    cases b
    case string t =>
      simp only [order]
      exact Std.compare_eq_iff_eq.2 (beq_iff_eq.1 h)
    all_goals cases h
  | object ms, b, h => by
    cases b
    case object ns =>
      simp only [order]
      exact Std.compare_eq_iff_eq.2 (length_eq_of_strictEqMembers h)
    all_goals cases h

/-- Items that are loosely equal one by one are equal for the order. -/
theorem orderItems_eq_of_looseEqItems :
    ∀ {as bs : List Value}, looseEqItems as bs = true → orderItems as bs = .eq
  | [], [], _ => by simp [orderItems]
  | [], _ :: _, h | _ :: _, [], h => by simp [looseEqItems] at h
  | a :: as, b :: bs, h => by
    simp only [looseEqItems, Bool.and_eq_true] at h
    simp only [orderItems]
    rw [order_eq_of_looseEq h.1, orderItems_eq_of_looseEqItems h.2]
    rfl

end

/-! ### From the order to equality -/

mutual

/-- Whether a value holds no object at any depth. -/
def isObjectFree : Value → Bool
  | object _ => false
  | array items => areObjectFree items
  | _ => true

/-- Whether no item holds an object at any depth. -/
def areObjectFree : List Value → Bool
  | [] => true
  | a :: as => isObjectFree a && areObjectFree as

end

/-- Only values of one type are equal for the order. -/
theorem rank_eq_of_order_eq {a b : Value} (h : a.order b = .eq) : a.rank = b.rank := by
  rw [order_eq_rank_then, Ordering.then_eq_eq] at h
  exact Std.compare_eq_iff_eq.1 h.1

mutual

/-- Values without objects that are equal for the order are loosely equal. -/
theorem looseEq_of_order_eq : ∀ {a b : Value}, a.isObjectFree = true → b.isObjectFree = true →
    a.order b = .eq → a.looseEq b = true
  | a, b, ha, hb, h => by
    have hrank := rank_eq_of_order_eq h
    -- Values that tie have one rank, which leaves the pairs of one type and the pairs of numbers.
    match a with
    | null =>
      cases b <;> cases hrank
      rfl
    | boolean p =>
      cases b <;> cases hrank
      simp only [order] at h
      exact beq_iff_eq.2 (Std.compare_eq_iff_eq.1 h)
    | integer _ | float _ =>
      cases b <;> cases hrank
      all_goals exact beq_iff_eq.2 h
    | string s =>
      cases b <;> cases hrank
      simp only [order] at h
      exact beq_iff_eq.2 (Std.compare_eq_iff_eq.1 h)
    | array as =>
      cases b <;> cases hrank
      simp only [isObjectFree] at ha hb
      simp only [order] at h
      simp only [looseEq]
      exact looseEqItems_of_orderItems_eq ha hb h
    | object ms => cases ha

/-- Items without objects that are equal for the order are loosely equal one by one. -/
theorem looseEqItems_of_orderItems_eq : ∀ {as bs : List Value}, areObjectFree as = true →
    areObjectFree bs = true → orderItems as bs = .eq → looseEqItems as bs = true
  | [], [], _, _, _ => by simp [looseEqItems]
  | [], _ :: _, _, _, h | _ :: _, [], _, _, h => by simp [orderItems] at h
  | a :: as, b :: bs, ha, hb, h => by
    simp only [areObjectFree, Bool.and_eq_true] at ha hb
    simp only [orderItems, Ordering.then_eq_eq] at h
    simp only [looseEqItems, Bool.and_eq_true]
    exact ⟨looseEq_of_order_eq ha.1 hb.1 h.1, looseEqItems_of_orderItems_eq ha.2 hb.2 h.2⟩

end

/-- Loose equality is symmetric, values that are loosely equal are equal for the order, and for values
    without objects the converse holds too. -/
theorem looseEq_agrees_with_order (a b : Value) :
    a.looseEq b = b.looseEq a ∧ (a.looseEq b = true → a.order b = .eq) ∧
      (a.isObjectFree = true → b.isObjectFree = true →
        (a.looseEq b = true ↔ a.order b = .eq)) :=
  ⟨looseEq_comm a b, order_eq_of_looseEq,
    fun ha hb => ⟨order_eq_of_looseEq, looseEq_of_order_eq ha hb⟩⟩

/-- Objects with one member each are equal for the order, also if the members differ. -/
example : (object [("a", null)]).order (object [("b", null)]) = .eq ∧
    (object [("a", null)]).looseEq (object [("b", null)]) = false := by decide

end Value

end RecordQuery
