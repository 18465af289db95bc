import RecordQuery.Builder

/-!
# Evaluation

The value of an expression tree on a record. Both operands of every operator are evaluated, left
first and without short cuts, and the first error is the result.

* `Node.evaluate`: the value of a tree, and the patterns kept afterwards.
* `Node.holds`: whether a record matches.
-/

namespace RecordQuery.Node

/-- The value of a node from the values of its operands. -/
def combine (ctx : Context) (n : Node) (left right : Option Value)
    (patterns : Option PatternCache) : Except EvalError Value × Option PatternCache :=
  match n.descriptor.operator with
  | some op => op.apply n.literal left right { ctx with patterns := patterns }
  | none => (.error (.notEvaluable n.literal), patterns)

/-- The value of a tree, and the patterns kept afterwards. -/
def evaluate (n : Node) (ctx : Context) : Except EvalError Value × Option PatternCache :=
  n.fold (combine ctx) ctx.patterns

/-- Whether the value of a tree is truthy, and the patterns kept afterwards. -/
def holds (n : Node) (ctx : Context) : Except EvalError Bool × Option PatternCache :=
  let (value, patterns) := n.evaluate ctx
  (value.map Value.isTruthy, patterns)

end RecordQuery.Node
