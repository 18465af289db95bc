import RecordQuery.Proofs.Lexing.Concatenation

/-!
# What can go wrong

Compiling checks the types of operands only as primitive or boolean. Evaluating a condition that
compiles can still fail, but only at an operator that does not take a value because of its type, at a
parameter that is not supplied, and at a pattern that is not well-formed (`evaluate_safe`). No token
is without a meaning, and all operators that take operands have booleans as values.

* `Node.Raises`: the errors that a node can cause.
* `Operator.word?`: the spelling of an operator that takes operands.
* `Descriptor.isSafe`: the tokens that cannot cause an error.
* `Node.raises_of_combine`: a node of the standard grammar causes no other errors.
-/

namespace RecordQuery

open Grammar

/-- A node can cause an error. -/
inductive Node.Raises (ctx : Context) (m : Node) : EvalError → Prop
  /-- No value is supplied for a wildcard. -/
  | wildCard {i : Nat} {e : EvalError} : m.IsLeaf → m.kind = .wildCard →
    m.literal = .position i → ctx.params.wildCard i = .error e → Raises ctx m e
  /-- No value is supplied for a named parameter. -/
  | parameter {e : EvalError} : m.IsLeaf → m.kind = .parameter →
    ctx.params.parameter m.literal.display = .error e → Raises ctx m e
  /-- Values that are not ordered with each other. -/
  | incomparable {word left right : String} : word ∈ ["<", "<=", ">", ">="] →
    m.descriptor.reservedWord = some word →
      Raises ctx m (.typeError (.incomparable left word right))
  /-- Values that are not both strings. -/
  | notStrings {word left right : String} : word ∈ ["BEGINS_WITH", "ENDS_WITH", "MATCHES"] →
    m.descriptor.reservedWord = some word →
      Raises ctx m (.typeError (.notStrings word left right))
  /-- A value that is no array. -/
  | notArray {found : String} : m.descriptor.reservedWord = some "ANY" →
    Raises ctx m (.typeError (.notArray found))
  /-- A value that is not the name of a type. -/
  | notTypeName {found : String} : m.descriptor.reservedWord = some "TYPE_IS" →
    Raises ctx m (.typeError (.notTypeName found))
  /-- A string that is no pattern. -/
  | invalidPattern {text : String} : m.descriptor.reservedWord = some "MATCHES" →
    Pattern.ofText? text.toList = none → Raises ctx m (.invalidPattern text)

/-- Properties, literals, constants and the operators `=`, `!=`, `AND`, `OR` and `NOT`. -/
def Descriptor.isSafe (d : Descriptor) : Bool :=
  [.property, .number, .string, .null, .boolVal].contains d.kind ||
    ["=", "!=", "AND", "OR", "NOT"].any (d.reservedWord == some ·)

/-! ### Operators -/

namespace Operator

variable {op : Operator} {literal : Literal} {left right : Option Value} {ctx : Context}
  {v l r : Value}

/-- How an operator that takes operands is spelled. -/
def word? : Operator → Option String
  | and => some "AND"
  | or => some "OR"
  | not => some "NOT"
  | equal => some "="
  | notEqual => some "!="
  | lessThan => some "<"
  | lessEqual => some "<="
  | greaterThan => some ">"
  | greaterEqual => some ">="
  | beginsWith => some "BEGINS_WITH"
  | endsWith => some "ENDS_WITH"
  | any => some "ANY"
  | matchesPattern => some "MATCHES"
  | typeIs => some "TYPE_IS"
  | _ => none

/-- Whether an operator has a value whatever it is applied to. -/
def isTotal : Operator → Bool
  | property | .literal | null | boolean _ | and | or | not | equal | notEqual => true
  | _ => false

theorem exists_ok_of_isTotal (h : op.isTotal = true) :
    ∃ v, (op.apply literal left right ctx).1 = .ok v := by
  cases op with
  | property | literal | null | boolean | and | or | not | equal | notEqual => exact ⟨_, rfl⟩
  | _ => cases h

theorem boolean_of_ordered {symbol : String} {accept : Ordering → Bool}
    (h : ordered symbol accept l r = .ok v) : ∃ b, v = .boolean b := by
  unfold ordered at h
  split at h
  all_goals try exact ⟨_, (Except.ok.inj h).symm⟩
  split at h
  · exact ⟨_, (Except.ok.inj h).symm⟩
  · cases h

theorem boolean_of_onStrings {name : String} {test : String → String → Bool}
    (h : onStrings name test l r = .ok v) : ∃ b, v = .boolean b := by
  unfold onStrings at h
  split at h
  · exact ⟨_, (Except.ok.inj h).symm⟩
  · cases h

theorem boolean_of_membership (h : membership l r = .ok v) : ∃ b, v = .boolean b := by
  unfold membership at h
  split at h
  · exact ⟨_, (Except.ok.inj h).symm⟩
  · cases h

theorem boolean_of_typeTest {record : Record} (h : typeTest record r = .ok v) :
    ∃ b, v = .boolean b := by
  unfold typeTest at h
  split at h
  · exact ⟨_, (Except.ok.inj h).symm⟩
  · cases h

theorem boolean_of_matchPattern {patterns : Option PatternCache}
    (h : (matchPattern patterns l r).1 = .ok v) : ∃ b, v = .boolean b := by
  unfold matchPattern at h
  split at h
  · rename_i s text
    cases hread : PatternCache.resolve patterns text with
    | mk pattern patterns' =>
      rw [hread] at h
      cases pattern with
      | ok pattern => exact ⟨_, (Except.ok.inj h).symm⟩
      | error e => cases h
  · cases h

/-- An operator that takes operands is a test. -/
theorem boolean_of_apply (hop : op.word?.isSome = true)
    (h : (op.apply literal left right ctx).1 = .ok v) : ∃ b, v = .boolean b := by
  cases op with
  | property | literal | namedParameter | wildCard | null | boolean | extension => cases hop
  | and | or | not | equal | notEqual => exact ⟨_, (Except.ok.inj h).symm⟩
  | lessThan | lessEqual | greaterThan | greaterEqual => exact boolean_of_ordered h
  | beginsWith | endsWith => exact boolean_of_onStrings h
  | any => exact boolean_of_membership h
  | matchesPattern => exact boolean_of_matchPattern h
  | typeIs => exact boolean_of_typeTest h

end Operator

/-! ### The standard grammar -/

namespace Grammar

/-- An operator that takes operands is spelled as a reserved word. -/
theorem reservedWord_of_word? : ∀ d ∈ standard.entries, ∀ op ∈ d.operator, ∀ word ∈ op.word?,
    d.reservedWord = some word := by
  decide

/-- Whatever is neither unknown nor a parenthesis has a meaning. -/
theorem operator_of_isOrdinary : ∀ d ∈ standard.entries, d.kind.isOrdinary = true →
    d.operator.isSome = true := by
  decide

/-- Whatever takes operands is spelled as one of the operators. -/
theorem word?_of_expected {side : Side} : ∀ d ∈ standard.entries,
    (d.expected side).isSome = true → d.operator.any (·.word?.isSome) = true := by
  cases side <;> decide

theorem isTotal_of_isSafe : ∀ d ∈ standard.entries, d.isSafe = true →
    d.operator.any (·.isTotal) = true := by
  decide

end Grammar

namespace Node

variable {tree m : Node} {text : String} {ctx : Context} {e : EvalError} {v : Value}
  {left right : Option Value} {patterns : Option PatternCache}

section

variable (htree : tree.IsTreeOf (standard.tokenize text))
include htree

/-- Every node has an operator of the language. -/
theorem exists_operator (hm : m ∈ tree.inorder) :
    ∃ op ∈ m.descriptor.operator, op.isBuiltIn = true := by
  have hd := descriptor_mem_standard htree hm
  have hsome := operator_of_isOrdinary _ hd (htree.ordinary m hm)
  obtain ⟨op, hop⟩ := Option.isSome_iff_exists.1 hsome
  exact ⟨op, hop, isBuiltIn_standard _ hd op hop⟩

/-- A node of a tree causes only the errors of its class or its word. -/
theorem raises_of_combine (hm : m ∈ tree.inorder)
    (h : (combine ctx m left right patterns).1 = .error e) : m.Raises ctx e := by
  have hd := descriptor_mem_standard htree hm
  obtain ⟨op, hop, hbuiltIn⟩ := exists_operator htree hm
  have hword := reservedWord_of_word? _ hd op hop
  have hkind := kind_of_parameterKind? _ hd op hop
  rw [combine, Option.mem_def.1 hop] at h
  -- The operator settles which error it is, and its descriptor the class or the word.
  cases op with
  | extension => cases hbuiltIn
  | property | literal | null | boolean | and | or | not | equal | notEqual => cases h
  | namedParameter =>
    have hk := hkind _ rfl
    exact .parameter (isLeaf_of_parameter htree hm (.inr hk)) hk h
  | wildCard =>
    have hk := hkind _ rfl
    obtain ⟨i, -, hi⟩ := exists_position htree hm hk
    rw [hi] at h
    exact .wildCard (isLeaf_of_parameter htree hm (.inl hk)) hk hi h
  | lessThan | lessEqual | greaterThan | greaterEqual =>
    obtain rfl := Operator.error_of_ordered h
    exact .incomparable (by decide) (hword _ rfl)
  | beginsWith | endsWith =>
    obtain rfl := Operator.error_of_onStrings h
    exact .notStrings (by decide) (hword _ rfl)
  | any =>
    obtain rfl := Operator.error_of_membership h
    exact .notArray (hword _ rfl)
  | typeIs =>
    obtain rfl := Operator.error_of_typeTest h
    exact .notTypeName (hword _ rfl)
  | matchesPattern =>
    rcases Operator.error_of_matchPattern h with rfl | ⟨text, htext, rfl⟩
    · exact .notStrings (by decide) (hword _ rfl)
    · exact .invalidPattern (hword _ rfl) htext

/-- A tree without a value has a node that causes the error. -/
theorem exists_raises_of_evaluate (h : (tree.evaluate ctx).1 = .error e) :
    ∃ m ∈ tree.inorder, m.Raises ctx e := by
  obtain ⟨before, m, after, hpostorder, ⟨left, right, patterns, herror⟩, -⟩ :=
    exists_of_fold_eq_error h
  have hm : m ∈ tree.inorder := mem_postorder_iff.1 (by simp [hpostorder])
  exact ⟨m, hm, raises_of_combine htree hm herror⟩

/-- The value of a tree with operands is a boolean. -/
theorem boolean_of_evaluate (h : (tree.evaluate ctx).1 = .ok v) (hleaf : ¬tree.IsLeaf) :
    ∃ b, v = .boolean b := by
  have hm := tree.self_mem_inorder
  obtain ⟨left, right, patterns, hroot⟩ := exists_root_of_fold_eq_ok h
  obtain ⟨side, hside⟩ := not_forall.1 hleaf
  -- A child is there only where the descriptor expects one, so the operator is a test.
  have hexpected : (tree.descriptor.expected side).isSome = true := by
    rw [← htree.isSome_child? hm, Option.isSome_iff_ne_none]
    exact hside
  obtain ⟨op, hop, hword⟩ := (Option.any_eq_true _ _).1
    (word?_of_expected _ (descriptor_mem_standard htree hm) hexpected)
  rw [combine, hop] at hroot
  exact Operator.boolean_of_apply hword hroot

/-- A tree of nothing but safe tokens has a value. -/
theorem exists_ok_of_isSafe (hsafe : ∀ t ∈ standard.tokenize text,
    t.isParenthesis = true ∨ t.descriptor.isSafe = true) : ∃ v, (tree.evaluate ctx).1 = .ok v := by
  cases hvalue : (tree.evaluate ctx).1 with
  | ok v => exact ⟨v, rfl⟩
  | error e =>
    obtain ⟨before, m, after, hpostorder, ⟨left, right, patterns, herror⟩, -⟩ :=
      exists_of_fold_eq_error hvalue
    have hm : m ∈ tree.inorder := mem_postorder_iff.1 (by simp [hpostorder])
    have hmem : m.token ∈ withoutParentheses (standard.tokenize text) := by
      rw [← htree.tokens]
      exact List.mem_map_of_mem hm
    obtain ⟨ht, hp⟩ := List.mem_filter.1 hmem
    have hm' : m.descriptor.isSafe = true :=
      (hsafe m.token ht).resolve_left (by simpa using hp)
    obtain ⟨op, hop, htotal⟩ := (Option.any_eq_true _ _).1
      (isTotal_of_isSafe _ (descriptor_mem_standard htree hm) hm')
    obtain ⟨v, hv⟩ := Operator.exists_ok_of_isTotal htotal
    rw [combine, hop] at herror
    exact absurd (hv.symm.trans herror) (by simp)

end

end Node

/-! ### Parameters -/

theorem Params.isAboutParameters_of_wildCard {params : Params} {i : Nat} {e : EvalError}
    (h : params.wildCard i = .error e) : e.isAboutParameters = true := by
  cases params with
  | none | named => cases h; rfl
  | positional values =>
    obtain ⟨-, rfl⟩ := wildCard_positional_eq_error_iff.1 h
    rfl

theorem Params.isAboutParameters_of_parameter {params : Params} {x : String} {e : EvalError}
    (h : params.parameter x = .error e) : e.isAboutParameters = true := by
  cases params with
  | none | positional => cases h; rfl
  | named values =>
    obtain ⟨-, rfl⟩ := parameter_named_eq_error_iff.1 h
    rfl

/-- No node causes an error for want of a meaning or of a position. -/
theorem Node.Raises.ne {ctx : Context} {m : Node} {e : EvalError} (h : m.Raises ctx e)
    (literal : Literal) : e ≠ .notEvaluable literal ∧ e ≠ .typeError (.noPosition literal) := by
  have hparameters (he : e.isAboutParameters = true) :
      e ≠ .notEvaluable literal ∧ e ≠ .typeError (.noPosition literal) := by
    constructor <;> rintro rfl <;> cases he
  cases h with
  | wildCard _ _ _ herror => exact hparameters (Params.isAboutParameters_of_wildCard herror)
  | parameter _ _ herror => exact hparameters (Params.isAboutParameters_of_parameter herror)
  | _ => exact ⟨nofun, nofun⟩

/-! ### Conditions -/

/-- Whatever the record and the parameters, evaluating a condition that compiles fails only at a
    node that can cause the error. It never meets a token without a meaning, or a wildcard without
    a position. If the root has operands the value is a boolean, and a condition of nothing but safe
    tokens has a value. -/
theorem evaluate_safe {text : String} {clause : Option String} {tree : Node}
    (h : (Compiled.ofText .standard text clause).tree = .ok tree) (ctx : Context) :
    (∀ e, (tree.evaluate ctx).1 = .error e → (∃ m ∈ tree.inorder, m.Raises ctx e) ∧
      ∀ literal, e ≠ .notEvaluable literal ∧ e ≠ .typeError (.noPosition literal)) ∧
    (∀ v, (tree.evaluate ctx).1 = .ok v → ¬tree.IsLeaf → ∃ b, v = .boolean b) ∧
    ((∀ t ∈ standard.tokenize text, t.isParenthesis = true ∨ t.descriptor.isSafe = true) →
      ∃ v, (tree.evaluate ctx).1 = .ok v) := by
  by_cases hne : standard.tokenize text = []
  · obtain rfl := eq_alwaysTrue_of_ofText h hne
    -- Without tokens the tree is the constant true.
    have hvalue : (Node.alwaysTrue.evaluate ctx).1 = .ok (.boolean true) := by
      rw [Node.evaluate, Node.fold_eq_recurse]
      rfl
    rw [hvalue]
    refine ⟨fun e he => absurd he (by simp), fun v _ hleaf => absurd ?_ hleaf, fun _ => ⟨_, rfl⟩⟩
    intro side
    cases side <;> rfl
  · have htree := isTreeOf_of_ofText h hne
    refine ⟨?_, fun v hv hleaf => Node.boolean_of_evaluate htree hv hleaf,
      Node.exists_ok_of_isSafe htree⟩
    intro e he
    obtain ⟨m, hm, hraises⟩ := Node.exists_raises_of_evaluate htree he
    exact ⟨⟨m, hm, hraises⟩, hraises.ne⟩

/-- The condition `a = 1 AND b != null` is true or false on every record. -/
theorem evaluate_safe_comparisons :
    ∃ tree, (Compiled.ofText .standard "a = 1 AND b != null" none).tree = .ok tree ∧
      ∀ ctx, ∃ b, (tree.evaluate ctx).1 = .ok (.boolean b) := by
  let token (id : String) (literal : Literal) : Token := ⟨described id, literal⟩
  let a := token "record_property" (.text "a")
  let one := token "number" (.integer 1)
  let b := token "record_property" (.text "b")
  let null := token "null" (.text "null")
  let equal := token "equals" (.text "=")
  let notEqual := token "not_equals" (.text "!=")
  let both := token "and" (.text "AND")
  let tokens := [a, equal, one, both, b, notEqual, null]
  let tree : Node := ⟨both, some ⟨equal, some (.ofToken a), some (.ofToken one)⟩,
    some ⟨notEqual, some (.ofToken b), some (.ofToken null)⟩⟩
  have htokens : standard.tokenize "a = 1 AND b != null" = tokens :=
    (Lexer.ReadsTo.cons rfl (.cons rfl (.cons rfl (.cons rfl (.cons rfl (.cons rfl
      (.cons rfl .nil))))))).tokens_of_end rfl
  have hcondition : Condition tokens tree :=
    .chain (.connection
      (.clause (.comparison (.leaf ⟨rfl, rfl, rfl, rfl⟩) ⟨rfl, rfl, rfl, rfl⟩
        (.leaf ⟨rfl, rfl, rfl, rfl⟩))) ⟨rfl, rfl, rfl, rfl⟩
      (.comparison (.leaf ⟨rfl, rfl, rfl, rfl⟩) ⟨rfl, rfl, rfl, rfl⟩
        (.leaf ⟨rfl, rfl, rfl, rfl⟩)))
  have hunmixed : ¬MixesParameters tree.tokens := by
    rintro ⟨-, t, ht, hk⟩
    have ht : t ∈ tokens := ht
    simp only [tokens, List.mem_cons, List.not_mem_nil, or_false] at ht
    rcases ht with rfl | rfl | rfl | rfl | rfl | rfl | rfl <;> cases hk
  have htree : (Compiled.ofText .standard "a = 1 AND b != null" none).tree = .ok tree := by
    rw [Compiled.ofText, htokens, buildTree_of_ne_nil hcondition.ne_nil, hcondition.foldl_accept]
    exact (Builder.finish_push_empty fun m hm => (hcondition.whole m hm).1).1 hunmixed
  have hsafe : ∀ t ∈ tokens, t.isParenthesis = true ∨ t.descriptor.isSafe = true := by decide
  have hleaf : ¬tree.IsLeaf := fun h => absurd (h .left) (by simp [tree, Node.child?])
  refine ⟨tree, htree, fun ctx => ?_⟩
  obtain ⟨-, hboolean, hvalue⟩ := evaluate_safe htree ctx
  obtain ⟨v, hv⟩ := hvalue (htokens ▸ hsafe)
  obtain ⟨b, rfl⟩ := hboolean v hv hleaf
  exact ⟨b, hv⟩

end RecordQuery
