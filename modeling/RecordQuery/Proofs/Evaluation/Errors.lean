import RecordQuery.Proofs.Folding

/-!
# Where errors come from

An operator of the language that fails is a parameter that is not supplied, or complains about the
types of its operands, or is given a pattern that is not well-formed (`Operator.error_of_apply`).
Nothing is skipped in a tree, so that a node that has no value whatever its operands are leaves the
tree without one (`Node.evaluate_eq_error_of_mem`).
-/

namespace RecordQuery

/-- Whether an error is about the parameters supplied. -/
def EvalError.isAboutParameters : EvalError → Bool
  | undefinedParameter _ | missingWildCard _ | parameterForm _ _ => true
  | typeError _ | invalidPattern _ | notEvaluable _ => false

namespace Operator

variable {op : Operator} {literal : Literal} {left right : Option Value} {ctx : Context}
  {e : EvalError} {l r : Value}

/-- Whether an operator belongs to the language, and is not added by a caller. -/
def isBuiltIn : Operator → Bool
  | extension _ => false
  | _ => true

/-- An ordering operator fails only on values that cannot be compared. -/
theorem error_of_ordered {symbol : String} {accept : Ordering → Bool}
    (h : ordered symbol accept l r = .error e) :
    e = .typeError (.incomparable l.typeName symbol r.typeName) := by
  unfold ordered at h
  split at h <;> try cases h
  split at h <;> cases h
  rfl

theorem error_of_onStrings {name : String} {test : String → String → Bool}
    (h : onStrings name test l r = .error e) :
    e = .typeError (.notStrings name l.typeName r.typeName) := by
  unfold onStrings at h
  split at h <;> cases h
  rfl

theorem error_of_membership (h : membership l r = .error e) :
    e = .typeError (.notArray r.typeName) := by
  unfold membership at h
  split at h <;> cases h
  rfl

theorem error_of_typeTest {record : Record} (h : typeTest record r = .error e) :
    e = .typeError (.notTypeName r.typeName) := by
  unfold typeTest at h
  split at h <;> cases h
  rfl

/-- Reading a pattern fails only on a text that is none, and names it. -/
theorem error_of_readPattern {text : String} (h : readPattern text = .error e) :
    Pattern.ofText? text.toList = none ∧ e = .invalidPattern text := by
  unfold readPattern at h
  split at h <;> cases h
  exact ⟨‹_›, rfl⟩

/-- So does looking it up first: what is kept does not fail. -/
theorem error_of_resolve {patterns : Option PatternCache} {text : String}
    (h : (PatternCache.resolve patterns text).1 = .error e) :
    Pattern.ofText? text.toList = none ∧ e = .invalidPattern text := by
  unfold PatternCache.resolve at h
  split at h
  · exact error_of_readPattern h
  · split at h
    · cases h
    · split at h
      · cases h
      · rename_i he
        cases h
        exact error_of_readPattern he

/-- Matching fails on values that are no strings, and on texts that are no patterns. -/
theorem error_of_matchPattern {patterns : Option PatternCache}
    (h : (matchPattern patterns l r).1 = .error e) :
    e = .typeError (.notStrings "MATCHES" l.typeName r.typeName) ∨
      ∃ text, Pattern.ofText? text.toList = none ∧ e = .invalidPattern text := by
  unfold matchPattern at h
  split at h
  · rename_i s text
    cases hr : PatternCache.resolve patterns text with
    | mk pattern patterns' =>
      rw [hr] at h
      cases pattern with
      | ok pattern => cases h
      | error e' =>
        cases h
        exact .inr ⟨text, error_of_resolve (congrArg Prod.fst hr)⟩
  · cases h
    exact .inl rfl

/-- An operator of the language fails as a parameter that is not supplied, or because of the types
    of its operands, or because of a pattern. -/
theorem error_of_apply (hop : op.isBuiltIn = true)
    (h : (op.apply literal left right ctx).1 = .error e) :
    (op = .namedParameter ∧ ctx.params.parameter literal.display = .error e) ∨
      (op = .wildCard ∧ ∃ n, literal = .position n ∧ ctx.params.wildCard n = .error e) ∨
      (∃ cause, e = .typeError cause) ∨ ∃ text, e = .invalidPattern text := by
  cases op with
  | extension => cases hop
  | namedParameter => exact .inl ⟨rfl, h⟩
  | wildCard =>
    cases literal with
    | position n => exact .inr (.inl ⟨rfl, n, rfl, h⟩)
    | text | integer | float =>
      cases h
      exact .inr (.inr (.inl ⟨_, rfl⟩))
  | matchesPattern =>
    refine .inr (.inr ((error_of_matchPattern h).imp (⟨_, ·⟩) ?_))
    rintro ⟨text, -, he⟩
    exact ⟨text, he⟩
  | lessThan | lessEqual | greaterThan | greaterEqual =>
    exact .inr (.inr (.inl ⟨_, error_of_ordered h⟩))
  | beginsWith | endsWith => exact .inr (.inr (.inl ⟨_, error_of_onStrings h⟩))
  | any => exact .inr (.inr (.inl ⟨_, error_of_membership h⟩))
  | typeIs => exact .inr (.inr (.inl ⟨_, error_of_typeTest h⟩))
  | property | literal | null | boolean | and | or | not | equal | notEqual => cases h

end Operator

namespace Node

variable {n m : Node} {ctx : Context} {e : EvalError}

/-- Among the operators of the language only wildcards and named parameters complain about the
    parameters supplied. -/
theorem parameter_of_combine {left right : Option Value} {patterns : Option PatternCache}
    (hop : ∀ op ∈ m.descriptor.operator, op.isBuiltIn = true) (he : e.isAboutParameters = true)
    (h : (combine ctx m left right patterns).1 = .error e) :
    (m.descriptor.operator = some .namedParameter ∧
        ctx.params.parameter m.literal.display = .error e) ∨
      (m.descriptor.operator = some .wildCard ∧
        ∃ n, m.literal = .position n ∧ ctx.params.wildCard n = .error e) := by
  rw [combine] at h
  split at h
  · rename_i op hop'
    rcases Operator.error_of_apply (hop op hop') h with
      ⟨rfl, hparameter⟩ | ⟨rfl, hwildCard⟩ | ⟨cause, rfl⟩ | ⟨text, rfl⟩
    · exact .inl ⟨hop', hparameter⟩
    · exact .inr ⟨hop', hwildCard⟩
    · cases he
    · cases he
  · cases h
    cases he

/-- All nodes are evaluated: if one of them has no value whatever its operands are, then the tree
    has none. -/
theorem evaluate_eq_error_of_mem (hm : m ∈ n.inorder)
    (h : ∀ left right patterns, ∃ e, (combine ctx m left right patterns).1 = .error e) :
    ∃ e, (n.evaluate ctx).1 = .error e := by
  cases hvalue : (n.evaluate ctx).1 with
  | error e => exact ⟨e, rfl⟩
  | ok v =>
    -- A tree with a value has one at each of its nodes.
    obtain ⟨left, right, patterns, v', hok⟩ := exists_of_fold_eq_ok hvalue (mem_postorder_iff.2 hm)
    obtain ⟨e, he⟩ := h left right patterns
    rw [he] at hok
    cases hok

/-- A condition fails as its evaluation does. -/
theorem holds_eq_error_iff : (n.holds ctx).1 = .error e ↔ (n.evaluate ctx).1 = .error e := by
  rw [holds]
  cases n.evaluate ctx with
  | mk value patterns => cases value <;> simp [Except.map]

end Node

end RecordQuery
