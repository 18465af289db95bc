import RecordQuery.Proofs.Decimal.Mixed

/-!
# The order of values

The default order is by type and then within the type, in the end by integers, by the keys of
doubles and, for an integer and a double, by the double's comparand. These fit together but for one
thing: an integer can tie with two doubles that differ.

* `Value.order_reflexive_antisymmetric`: every value is equal to itself and the order turns round with
  its sides, so all values are comparable.
* `Value.order_trans_iff`: on the values made from some numbers the order is transitive if and only
  if none of the integers ties with two of the doubles that differ.
* `Value.not_order_trans`: on all values it is not.
-/

namespace RecordQuery

/-! ### Triples of comparisons -/

/-- Whether three comparisons, of a first thing with a second, the second with a third and the
    first with the third, go together as in a preorder. -/
structure Composes (ab bc ac : Ordering) : Prop where
  /-- Equal things compare alike with a third. -/
  left : ab = .eq → ac = bc
  /-- A thing compares alike with equal ones. -/
  right : bc = .eq → ac = ab
  /-- Two steps in one direction go in this direction. -/
  chain : ab = bc → ac = ab

namespace Composes

/-- Comparisons by a transitive order go together. -/
theorem compare {α : Type*} [Ord α] [Std.TransOrd α] (a b c : α) :
    Composes (compare a b) (compare b c) (compare a c) where
  left h := Std.TransCmp.congr_left h
  right h := (Std.TransCmp.congr_right h).symm
  chain h := by
    cases hab : Ord.compare a b with
    | lt => exact Std.TransCmp.lt_trans hab (h ▸ hab)
    | eq => exact Std.TransCmp.eq_trans hab (h ▸ hab)
    | gt => exact Std.TransCmp.gt_trans hab (h ▸ hab)

theorem eq : Composes .eq .eq .eq := ⟨fun _ => rfl, fun _ => rfl, fun _ => rfl⟩

variable {ab bc ac ab' bc' ac' : Ordering}

/-- Comparisons by two criteria go together if both do; the second matters only if all three
    things are equal by the first. -/
theorem lex (h : Composes ab bc ac) (h' : ab = .eq → bc = .eq → Composes ab' bc' ac') :
    Composes (ab.then ab') (bc.then bc') (ac.then ac') := by
  obtain ⟨left, right, chain⟩ := h
  cases ab <;> cases bc <;> simp at left right chain <;> subst_vars
  case eq.eq => exact h' rfl rfl
  all_goals constructor <;> simp [Ordering.then] <;> simp_all

/-- The first of three things is not greater than the third if neither of the steps goes down. -/
theorem ne_gt (h : Composes ab bc ac) (hab : ab ≠ .gt) (hbc : bc ≠ .gt) : ac ≠ .gt := by
  obtain ⟨left, right, chain⟩ := h
  cases ab <;> cases bc <;> simp_all

end Composes

namespace Value

/-! ### The order turned round -/

/-- The order of numbers turns round with its sides. -/
theorem orderNumbers_swap (a b : Value) : orderNumbers b a = (orderNumbers a b).swap := by
  cases a <;> cases b <;> simp only [orderNumbers]
  case integer.integer => exact Std.OrientedCmp.eq_swap
  case float.float x y => exact Binary64.order_swap x y
  case integer.float n x => exact orderFloatFirst_eq_swap x n
  case float.integer x n => rw [orderFloatFirst_eq_swap, Ordering.swap_swap]
  all_goals rfl

theorem order_eq_orderNumbers {a b : Value} (ha : a.isNumber = true) (hb : b.isNumber = true) :
    a.order b = orderNumbers a b := by
  cases a <;> cases ha <;> cases b <;> cases hb <;> rfl

mutual

/-- The order turns round with its sides. -/
theorem order_swap : ∀ a b : Value, b.order a = (a.order b).swap
  | array as, b => by
    cases b
    case array bs =>
      simp only [order]
      exact orderItems_swap as bs
    all_goals exact Std.OrientedOrd.eq_swap
  | boolean _, b | string _, b | object _, b | null, b => by
    cases b <;> exact Std.OrientedOrd.eq_swap
  | integer _, b | float _, b => by
    cases b
    case integer | float =>
      rw [order_eq_orderNumbers rfl rfl, order_eq_orderNumbers rfl rfl, orderNumbers_swap]
    all_goals exact Std.OrientedOrd.eq_swap

theorem orderItems_swap : ∀ as bs : List Value, orderItems bs as = (orderItems as bs).swap
  | [], [] | [], _ :: _ | _ :: _, [] => by simp [orderItems]
  | a :: as, b :: bs => by
    simp only [orderItems]
    rw [order_swap a b, orderItems_swap as bs, Ordering.swap_then]

end

/-- Every value, whatever NaNs it holds, is equal to itself, and all values are comparable: the order
    turns round with its sides. -/
theorem order_reflexive_antisymmetric :
    (∀ a : Value, a.order a = .eq) ∧ ∀ a b : Value, b.order a = (a.order b).swap := by
  refine ⟨fun a => ?_, order_swap⟩
  -- Only being equal is the same in both directions.
  have h := order_swap a a
  cases ho : a.order a with
  | eq => rfl
  | lt | gt =>
    rw [ho] at h
    cases h

/-! ### Numbers -/

/-- The rational number that a number is compared as with a number of the other type. -/
def comparand : Value → ℚ
  | integer n => n.toInt
  | float x => x.comparand
  | _ => 0

/-- An integer is compared with a number as a rational. -/
theorem orderNumbers_integer_left (n : Int64) {b : Value} (hb : b.isNumber = true) :
    orderNumbers (integer n) b = compare (integer n).comparand b.comparand := by
  cases b <;> cases hb
  case integer m => exact FixedDecimal.compare_congr Int.cast_lt.symm Int.cast_lt.symm
  case float x => exact orderMixed_eq n x

theorem orderNumbers_integer_right {a : Value} (ha : a.isNumber = true) (n : Int64) :
    orderNumbers a (integer n) = compare a.comparand (integer n).comparand := by
  rw [orderNumbers_swap, orderNumbers_integer_left n ha]
  exact Std.OrientedOrd.eq_swap.symm

/-- Numbers are compared as rationals first. -/
theorem orderNumbers_eq_then {a b : Value} (ha : a.isNumber = true) (hb : b.isNumber = true) :
    orderNumbers a b = (compare a.comparand b.comparand).then (orderNumbers a b) := by
  cases a <;> cases ha
  case integer n => rw [orderNumbers_integer_left n hb, Ordering.then_self]
  case float x =>
    cases b <;> cases hb
    case integer n => rw [orderNumbers_integer_right rfl n, Ordering.then_self]
    case float y =>
      show x.order y = (compare x.comparand y.comparand).then (x.order y)
      -- Comparands keep the order of doubles, so different ones decide.
      rw [Binary64.order_eq_compare]
      rcases lt_trichotomy x.comparand y.comparand with h | h | h
      · have hkey : x.orderKey < y.orderKey :=
          lt_of_not_ge fun hle => h.not_ge (Binary64.comparand_mono hle)
        rw [compare_lt_iff_lt.2 h, compare_lt_iff_lt.2 hkey]
        rfl
      · rw [compare_eq_iff_eq.2 h]
        rfl
      · have hkey : y.orderKey < x.orderKey :=
          lt_of_not_ge fun hle => h.not_ge (Binary64.comparand_mono hle)
        rw [compare_gt_iff_gt.2 h, compare_gt_iff_gt.2 hkey]
        rfl

/-- Of the numbers that satisfy `D`, no integer is equal to two doubles that differ. -/
def TiesAgree (D : Value → Prop) : Prop :=
  ∀ n x y, D (integer n) → D (float x) → D (float y) →
    (integer n).order (float x) = .eq → (integer n).order (float y) = .eq →
    (float x).order (float y) = .eq

section

variable {D : Value → Prop}

/-- Numbers that are both compared as an integer are equal. -/
theorem orderNumbers_eq_of_tie (hD : TiesAgree D) {n : Int64} {a b : Value}
    (hn : D (integer n)) (ha : a.isNumber = true) (hDa : D a) (hb : b.isNumber = true) (hDb : D b)
    (han : (integer n).comparand = a.comparand) (hab : a.comparand = b.comparand) :
    orderNumbers a b = .eq := by
  cases a <;> cases ha
  case integer m =>
    rw [orderNumbers_integer_left m hb]
    exact compare_eq_iff_eq.2 hab
  case float x =>
    cases b <;> cases hb
    case integer m =>
      rw [orderNumbers_integer_right rfl m]
      exact compare_eq_iff_eq.2 hab
    case float y =>
      refine hD n x y hn hDa hDb ?_ ?_
      · rw [order_eq_orderNumbers rfl rfl, orderNumbers_integer_left n rfl]
        exact compare_eq_iff_eq.2 han
      · rw [order_eq_orderNumbers rfl rfl, orderNumbers_integer_left n rfl]
        exact compare_eq_iff_eq.2 (han.trans hab)

/-- The order of numbers goes together if no tie with an integer hides a difference. -/
theorem orderNumbers_composes (hD : TiesAgree D) {a b c : Value}
    (ha : a.isNumber = true) (hDa : D a) (hb : b.isNumber = true) (hDb : D b)
    (hc : c.isNumber = true) (hDc : D c) :
    Composes (orderNumbers a b) (orderNumbers b c) (orderNumbers a c) := by
  rw [orderNumbers_eq_then ha hb, orderNumbers_eq_then hb hc, orderNumbers_eq_then ha hc]
  refine (Composes.compare a.comparand b.comparand c.comparand).lex fun hab hbc => ?_
  rw [compare_eq_iff_eq] at hab hbc
  -- All three have one comparand. If one of them is an integer, the others tie with it and hence
  -- with each other; else all are doubles.
  have htie : ∀ n, D (integer n) → (integer n).comparand = a.comparand →
      Composes (orderNumbers a b) (orderNumbers b c) (orderNumbers a c) := by
    intro n hn han
    rw [orderNumbers_eq_of_tie hD hn ha hDa hb hDb han hab,
      orderNumbers_eq_of_tie hD hn hb hDb hc hDc (han.trans hab) hbc,
      orderNumbers_eq_of_tie hD hn ha hDa hc hDc han (hab.trans hbc)]
    exact .eq
  cases a <;> cases ha
  case integer n => exact htie n hDa rfl
  case float x =>
    cases b <;> cases hb
    case integer n => exact htie n hDb hab.symm
    case float y =>
      cases c <;> cases hc
      case integer n => exact htie n hDc (hab.trans hbc).symm
      case float z =>
        simp only [orderNumbers, Binary64.order_eq_compare]
        exact .compare x.orderKey y.orderKey z.orderKey

end

/-! ### All values -/

/-- The order of values is that of their types first. -/
theorem order_eq_rank_then (a b : Value) : a.order b = (compare a.rank b.rank).then (a.order b) := by
  cases a <;> cases b <;> simp [order, rank, isNumber]

theorem isNumber_iff_rank {a : Value} : a.isNumber = true ↔ a.rank = 2 := by
  cases a <;> simp [isNumber, rank]

mutual

/-- The numbers that the order of a value can depend on: those of arrays at any depth, but not
    those of objects, of which only the size counts. -/
def numbers : Value → List Value
  | integer n => [integer n]
  | float x => [float x]
  | array items => numbersOfItems items
  | _ => []

/-- The numbers of the items of an array. -/
def numbersOfItems : List Value → List Value
  | [] => []
  | a :: as => numbers a ++ numbersOfItems as

end

theorem self_mem_numbers {a : Value} (ha : a.isNumber = true) : a ∈ a.numbers := by
  cases a <;> cases ha <;> simp [numbers]

section

variable {D : Value → Prop}

mutual

/-- The order of the values made from numbers in `D` goes together if the order of the numbers
    does. -/
theorem order_composes (hD : TiesAgree D) : ∀ {a b c : Value},
    (∀ v ∈ a.numbers, D v) → (∀ v ∈ b.numbers, D v) → (∀ v ∈ c.numbers, D v) →
    Composes (a.order b) (b.order c) (a.order c)
  | a, b, c, ha, hb, hc => by
    rw [order_eq_rank_then a b, order_eq_rank_then b c, order_eq_rank_then a c]
    -- The types decide, and only values of one type are compared any further.
    refine (Composes.compare a.rank b.rank c.rank).lex fun hab hbc => ?_
    rw [compare_eq_iff_eq] at hab hbc
    match a with
    | null =>
      cases b <;> cases hab
      cases c <;> cases hbc
      exact .eq
    | boolean p =>
      cases b <;> cases hab
      cases c <;> cases hbc
      simp only [order]
      exact .compare p _ _
    | integer _ | float _ =>
      have hb' : b.isNumber = true := isNumber_iff_rank.2 hab.symm
      have hc' : c.isNumber = true := isNumber_iff_rank.2 (hab.trans hbc).symm
      rw [order_eq_orderNumbers rfl hb', order_eq_orderNumbers hb' hc',
        order_eq_orderNumbers rfl hc']
      exact orderNumbers_composes hD rfl (ha _ (self_mem_numbers rfl))
        hb' (hb _ (self_mem_numbers hb')) hc' (hc _ (self_mem_numbers hc'))
    | string s =>
      cases b <;> cases hab
      cases c <;> cases hbc
      simp only [order]
      exact .compare s _ _
    | array as =>
      cases b <;> cases hab
      cases c <;> cases hbc
      simp only [order]
      exact orderItems_composes hD ha hb hc
    | object ms =>
      cases b <;> cases hab
      cases c <;> cases hbc
      simp only [order]
      exact .compare ms.length _ _

/-- So does the order of items, one after the other. -/
theorem orderItems_composes (hD : TiesAgree D) : ∀ {as bs cs : List Value},
    (∀ v ∈ numbersOfItems as, D v) → (∀ v ∈ numbersOfItems bs, D v) →
    (∀ v ∈ numbersOfItems cs, D v) →
    Composes (orderItems as bs) (orderItems bs cs) (orderItems as cs)
  | [], bs, cs, _, _, _ => by
    cases bs <;> cases cs <;> constructor <;> simp [orderItems]
  | a :: as, [], cs, _, _, _ => by
    cases cs <;> constructor <;> simp [orderItems]
  | a :: as, b :: bs, [], _, _, _ => by
    constructor <;> simp +contextual [orderItems]
  | a :: as, b :: bs, c :: cs, ha, hb, hc => by
    simp only [numbersOfItems, List.forall_mem_append] at ha hb hc
    simp only [orderItems]
    exact (order_composes hD ha.1 hb.1 hc.1).lex fun _ _ => orderItems_composes hD ha.2 hb.2 hc.2

end

end

/-- On the values made from numbers in `D` the order is transitive exactly if no integer in `D` is
    equal to two doubles in `D` that differ. -/
theorem order_trans_iff (D : Value → Prop) :
    (∀ a b c : Value, (∀ v ∈ a.numbers, D v) → (∀ v ∈ b.numbers, D v) → (∀ v ∈ c.numbers, D v) →
      a.order b ≠ .gt → b.order c ≠ .gt → a.order c ≠ .gt) ↔ TiesAgree D := by
  constructor
  · intro htrans n x y hn hx hy hnx hny
    -- The integer ties with both doubles, so neither of them is greater than the other.
    have hle : ∀ u v, D (float u) → D (float v) → (integer n).order (float u) = .eq →
        (integer n).order (float v) = .eq → (float u).order (float v) ≠ .gt := by
      intro u v hu hv hnu hnv
      refine htrans (float u) (integer n) (float v) (by simpa [numbers]) (by simpa [numbers])
        (by simpa [numbers]) ?_ ?_
      · rw [order_swap, hnu]
        decide
      · rw [hnv]
        decide
    have hxy := hle x y hx hy hnx hny
    have hyx := hle y x hy hx hny hnx
    rw [order_swap] at hyx
    cases h : (float x).order (float y) with
    | eq => rfl
    | lt => exact absurd (by rw [h]; rfl) hyx
    | gt => exact absurd h hxy
  · intro hD a b c ha hb hc hab hbc
    exact (order_composes hD ha hb hc).ne_gt hab hbc

/-- The order is not transitive: the integer one ties with the double one and with the next double,
    which is larger. -/
theorem not_order_trans :
    ¬ ∀ a b c : Value, a.order b ≠ .gt → b.order c ≠ .gt → a.order c ≠ .gt := by
  intro htrans
  exact htrans (float ⟨0x3ff0000000000001⟩) (integer 1) (float ⟨0x3ff0000000000000⟩)
    (by decide) (by decide) (by decide)

end Value

end RecordQuery
