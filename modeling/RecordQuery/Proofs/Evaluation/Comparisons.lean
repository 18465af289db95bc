import RecordQuery.Operator
import RecordQuery.Proofs.ValueEquality

/-!
# Comparison operators

The four ordering operators differ in the outcomes of one comparison that they accept
(`Operator.ordering?`). This comparison is the order by which values are sorted, as far as it goes:
values of different types are sorted too, but an ordering operator takes this for a mistake, and a
null for an unknown value that is ordered with nothing.

* `Value.isComparable`: the pairs of values that are compared.
* `Operator.ordered_eq`: what becomes of the other pairs.
* `Operator.comparisons_agree`: the ordering operators, the equality operators and the order of
  values fit together.
-/

namespace RecordQuery

namespace Value

variable {l r : Value}

/-- Whether both values are numbers, both strings or both booleans. -/
def isComparable : Value → Value → Bool
  | string _, string _ | boolean _, boolean _ => true
  | a, b => a.isNumber && b.isNumber

theorem isComparable_comm (l r : Value) : l.isComparable r = r.isComparable l := by
  cases l <;> cases r <;> rfl

theorem isNull_of_isComparable (h : l.isComparable r = true) : l.isNull = false := by
  cases l
  case null => cases r <;> cases h
  all_goals rfl

/-- Values that are compared hold no objects. -/
theorem isObjectFree_of_isComparable (h : l.isComparable r = true) : l.isObjectFree = true := by
  cases l
  case array | object => cases r <;> cases h
  all_goals rfl

/-- Values that are compared are loosely equal exactly if they are equal for the order. -/
theorem looseEq_iff_of_isComparable (h : l.isComparable r = true) :
    l.looseEq r = true ↔ l.order r = .eq := by
  have hswap : r.isComparable l = true := by rw [isComparable_comm, h]
  exact ⟨order_eq_of_looseEq,
    looseEq_of_order_eq (isObjectFree_of_isComparable h) (isObjectFree_of_isComparable hswap)⟩

end Value

namespace Operator

variable {op : Operator} {symbol : String} {accept : Ordering → Bool} {literal : Literal}
  {left right : Option Value} {ctx : Context}

/-- The symbol of an ordering operator, and the outcomes of a comparison that it accepts. -/
def ordering? : Operator → Option (String × (Ordering → Bool))
  | lessThan => some ("<", Ordering.isLT)
  | lessEqual => some ("<=", Ordering.isLE)
  | greaterThan => some (">", Ordering.isGT)
  | greaterEqual => some (">=", Ordering.isGE)
  | _ => none

/-- An ordering operator is false beside a null, compares what can be compared as the order of values
    does, and complains about all else. -/
theorem ordered_eq (symbol : String) (accept : Ordering → Bool) (l r : Value) :
    ordered symbol accept l r =
      if l.isNull || r.isNull then .ok (.boolean false)
      else if l.isComparable r then .ok (.boolean (accept (l.order r)))
      else .error (.typeError (.incomparable l.typeName symbol r.typeName)) := by
  cases l <;> cases r <;> rfl

/-- An ordering operator compares its operands, and a missing one counts as null. -/
theorem apply_of_ordering? (h : op.ordering? = some (symbol, accept)) :
    (op.apply literal left right ctx).1 =
      ordered symbol accept (left.getD .null) (right.getD .null) := by
  cases op <;> cases h <;> rfl

/-- Whether an operator is true of its operands. -/
def Holds (op : Operator) (literal : Literal) (ctx : Context) (left right : Option Value) : Prop :=
  (op.apply literal left right ctx).1 = .ok (.boolean true)

theorem holds_of_ok {b : Bool} (h : (op.apply literal left right ctx).1 = .ok (.boolean b)) :
    op.Holds literal ctx left right ↔ b = true := by
  rw [Holds, h, Except.ok.injEq, Value.boolean.injEq]

/-- Of values that are compared an ordering operator holds if it accepts the outcome. -/
theorem holds_ordering_iff (hop : op.ordering? = some (symbol, accept))
    (h : (left.getD .null).isComparable (right.getD .null) = true) :
    op.Holds literal ctx left right ↔
      accept ((left.getD .null).order (right.getD .null)) = true := by
  have hswap : (right.getD .null).isComparable (left.getD .null) = true := by
    rw [Value.isComparable_comm, h]
  refine holds_of_ok ?_
  rw [apply_of_ordering? hop, ordered_eq, Value.isNull_of_isComparable h,
    Value.isNull_of_isComparable hswap, h]
  rfl

/-- The operator that tests for an outcome of a comparison. -/
def testFor : Ordering → Operator
  | .lt => lessThan
  | .eq => equal
  | .gt => greaterThan

/-- The operator that tests for an outcome holds for this outcome only. -/
theorem holds_testFor_iff (h : (left.getD .null).isComparable (right.getD .null) = true)
    (o : Ordering) : (testFor o).Holds literal ctx left right ↔
      (left.getD .null).order (right.getD .null) = o := by
  cases o with
  | lt => exact (holds_ordering_iff rfl h).trans Ordering.isLT_iff_eq_lt
  | eq => exact (holds_of_ok rfl).trans (Value.looseEq_iff_of_isComparable h)
  | gt => exact (holds_ordering_iff rfl h).trans Ordering.isGT_iff_eq_gt

/-- The comparison operators fit together. An ordering operator is false beside a null, accepts the
    outcomes of the order of values that its symbol says where both sides are numbers, strings or
    booleans, and complains about the types of all other operands; an operand that is missing counts
    as null. Of two values that are compared, exactly one of less, equal and greater is true, the
    other ordering operators are true where one of two of these is, and less turned round is greater.
    Equality never fails and inequality is its negation. -/
theorem comparisons_agree (literal : Literal) (ctx : Context) (left right : Option Value) :
    let l := left.getD .null
    let r := right.getD .null
    (∀ (op : Operator) (symbol : String) (accept : Ordering → Bool),
        op.ordering? = some (symbol, accept) →
          (op.apply literal left right ctx).1 =
            if l.isNull || r.isNull then .ok (.boolean false)
            else if l.isComparable r then .ok (.boolean (accept (l.order r)))
            else .error (.typeError (.incomparable l.typeName symbol r.typeName))) ∧
      (l.isComparable r = true →
        (∃! o, (testFor o).Holds literal ctx left right) ∧
          (lessEqual.Holds literal ctx left right ↔
            lessThan.Holds literal ctx left right ∨ equal.Holds literal ctx left right) ∧
          (greaterEqual.Holds literal ctx left right ↔
            greaterThan.Holds literal ctx left right ∨ equal.Holds literal ctx left right) ∧
          (lessThan.Holds literal ctx left right ↔ greaterThan.Holds literal ctx right left)) ∧
      ∃ b, (equal.apply literal left right ctx).1 = .ok (.boolean b) ∧
        (notEqual.apply literal left right ctx).1 = .ok (.boolean !b) := by
  intro l r
  refine ⟨fun op symbol accept hop => ?_, fun h => ?_, l.looseEq r, rfl, rfl⟩
  · rw [apply_of_ordering? hop, ordered_eq]
  · have hswap : r.isComparable l = true := by rw [Value.isComparable_comm, h]
    have htest (o : Ordering) : (testFor o).Holds literal ctx left right ↔ l.order r = o :=
      holds_testFor_iff h o
    have hturned : greaterThan.Holds literal ctx right left ↔ r.order l = .gt :=
      holds_testFor_iff hswap .gt
    -- The operator that holds is the one that tests for the outcome.
    refine ⟨⟨l.order r, (htest _).2 rfl, fun o ho => ((htest o).1 ho).symm⟩, ?_, ?_, ?_⟩
    · rw [holds_ordering_iff rfl h, Ordering.isLE_iff_eq_lt_or_eq_eq]
      exact or_congr (htest .lt).symm (htest .eq).symm
    · rw [holds_ordering_iff rfl h, Ordering.isGE_iff_eq_gt_or_eq_eq]
      exact or_congr (htest .gt).symm (htest .eq).symm
    · rw [hturned, Value.order_swap l r, Ordering.swap_eq_gt]
      exact htest .lt

end Operator

end RecordQuery
