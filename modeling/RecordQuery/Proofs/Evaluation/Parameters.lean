import RecordQuery.Proofs.Builder.Enclosed
import RecordQuery.Proofs.Evaluation.Errors
import RecordQuery.Proofs.Lexing.Numbering
import RecordQuery.Proofs.Lexing.RoundTrip
import RecordQuery.Query

/-!
# Supplying parameters

Whether the parameters supplied with a condition suffice can be read off the condition: the
wildcards of a text are numbered from left to right, the tree has them in this order, and all of
them are evaluated, in this order and on every record.

* `wildCards`, `parameterNames`: the parameters that a list of tokens mentions.
* `Node.literals_wildCards`: the wildcards of a tree in the order of evaluation.
* `Node.exists_error_of_wildCard`, `Node.exists_error_of_parameter`: a parameter that is mentioned
  and not supplied leaves a condition without a value.
* `Node.origin_of_parameter_error`: an error about parameters is that of the first wildcard that is
  not supplied, or of a named parameter.
* `test_of_parameters`: when a condition fails for lack of parameters.
-/

namespace RecordQuery

/-- The number of wildcards. -/
def wildCards (ts : List Token) : Nat := ts.countP (·.kind == .wildCard)

/-- The names of the named parameters. -/
def parameterNames (ts : List Token) : List String :=
  (ts.filter (·.kind == .parameter)).map (·.literal.display)

/-- The class of the parameters that an operator reads. -/
def Operator.parameterKind? : Operator → Option TokenKind
  | wildCard => some .wildCard
  | namedParameter => some .parameter
  | _ => none

/-! ### Looking up parameters -/

/-- A position has no value only if it lies behind the end of the list. -/
theorem Params.wildCard_positional_eq_error_iff {values : List Value} {i : Nat} {e : EvalError} :
    (positional values).wildCard i = .error e ↔ values.length ≤ i ∧ e = .missingWildCard i := by
  rw [wildCard]
  cases hi : values[i]? with
  | none => simpa [List.getElem?_eq_none_iff.1 hi] using eq_comm
  | some v => simpa using fun h => absurd (List.getElem?_eq_none h) (by simp [hi])

/-- A name has no value only if it is missing. -/
theorem Params.parameter_named_eq_error_iff {values : Properties} {x : String} {e : EvalError} :
    (named values).parameter x = .error e ↔
      Members.find? values x = .none ∧ e = .undefinedParameter x := by
  rw [parameter]
  cases Members.find? values x with
  | none => simpa using eq_comm
  | some v => simp

/-! ### Parameters in the standard grammar -/

namespace Grammar

variable {d : Descriptor} {t : Token} {text : String}

theorem isBuiltIn_standard : ∀ d ∈ standard.entries, ∀ op ∈ d.operator, op.isBuiltIn = true := by
  decide

/-- Only parameters read the parameters supplied. -/
theorem kind_of_parameterKind? : ∀ d ∈ standard.entries, ∀ op ∈ d.operator,
    ∀ k ∈ op.parameterKind?, d.kind = k := by
  decide

/-- The only descriptor of a class is the one of its id. -/
theorem eq_described {id : String} {k : TokenKind}
    (hclass : standard.entries.filter (·.kind == k) = [described id])
    (hd : d ∈ standard.entries) (hk : d.kind = k) : d = described id :=
  List.mem_singleton.1 (hclass ▸ List.mem_filter.2 ⟨hd, beq_iff_eq.2 hk⟩)

theorem isInert_standard : ∀ d ∈ standard.entries, d.kind = .openParen ∨ d.kind = .closeParen →
    d.left = none ∧ d.right = none ∧ d.result = none := by
  decide

theorem expected_of_parameter {side : Side} : ∀ d ∈ standard.entries,
    d.kind = .wildCard ∨ d.kind = .parameter → d.expected side = none := by
  cases side <;> decide

/-- Wildcards are the tokens that are counted. -/
theorem counted_standard : ∀ d ∈ standard.entries,
    (d.counted && d.id == "wild_card") = (d.kind == .wildCard) := by
  decide

/-- A token that is known has a descriptor of the grammar. -/
theorem descriptor_mem_of_mem_tokenize (ht : t ∈ standard.tokenize text) (hk : t.kind ≠ .unknown) :
    t.descriptor ∈ standard.entries := by
  obtain ⟨before, after, horigin⟩ := Lexer.origin_of_mem_tokens ht
  cases horigin with
  | unknown => exact absurd rfl hk
  | counted hd _ => exact hd
  | scanned hd _ _ => exact hd

theorem countsAs_wildCard (ht : t ∈ standard.tokenize text) :
    t.countsAs "wild_card" = (t.kind == .wildCard) := by
  obtain ⟨before, after, horigin⟩ := Lexer.origin_of_mem_tokens ht
  cases horigin with
  | unknown => rfl
  | counted hd _ => exact counted_standard _ hd
  | scanned hd _ _ => exact counted_standard _ hd

/-- The wildcards of a text are numbered from left to right. -/
theorem literals_wildCards (text : String) :
    ((standard.tokenize text).filter (·.kind == .wildCard)).map (·.literal) =
      (List.range (wildCards (standard.tokenize text))).map .position := by
  have h : ((standard.tokenize text).filter (·.countsAs "wild_card")).map (·.literal) =
      (List.range' 0 ((standard.tokenize text).countP (·.countsAs "wild_card"))).map .position :=
    Lexer.literals_counted "wild_card" ⟨text.toList, []⟩
  rw [List.filter_congr fun t ht => countsAs_wildCard ht,
    List.countP_congr fun t ht => by rw [countsAs_wildCard ht], ← List.range_eq_range'] at h
  exact h

theorem isPlain_of_mem_tokenize (ht : t ∈ standard.tokenize text) : t.IsPlain := by
  intro hp
  have hk : t.kind = .openParen ∨ t.kind = .closeParen := by simpa [Token.isParenthesis] using hp
  have hknown : t.kind ≠ .unknown := by rcases hk with hk | hk <;> rw [hk] <;> decide
  obtain ⟨hl, hr, hresult⟩ := isInert_standard _ (descriptor_mem_of_mem_tokenize ht hknown) hk
  exact ⟨hl, hr, hresult⟩

end Grammar

/-! ### Parameters of trees -/

/-- The front of a list of numbered items is numbered from `0`, and what follows comes next. -/
theorem eq_of_append_cons_eq_map_range {α : Type} {f : Nat → α} {front back : List α} {a : α}
    {n : Nat} (h : front ++ a :: back = (List.range n).map f) :
    front.length < n ∧ a = f front.length ∧ front = (List.range front.length).map f := by
  have hlength := congrArg List.length h
  have hlt : front.length < n := by
    simp only [List.length_append, List.length_cons, List.length_map, List.length_range] at hlength
    omega
  refine ⟨hlt, ?_, ?_⟩
  · have ha := congrArg (·[front.length]?) h
    simpa [hlt] using ha
  · have hfront := congrArg (List.take front.length) h
    rwa [List.take_left, ← List.map_take, List.take_range, min_eq_left hlt.le] at hfront

namespace Node

open Grammar

variable {tree m : Node} {text : String} {ctx : Context} {e : EvalError}
  {left right : Option Value} {patterns : Option PatternCache}

/-- A wildcard has the value supplied for its position. -/
theorem combine_wildCard (hd : m.descriptor ∈ standard.entries) (hk : m.kind = .wildCard) {i : Nat}
    (hi : m.literal = .position i) :
    (combine ctx m left right patterns).1 = ctx.params.wildCard i := by
  have hdescriptor : m.descriptor = described "wild_card" := eq_described rfl hd hk
  rw [combine, hdescriptor, hi]
  rfl

/-- A named parameter has the value supplied under its name. -/
theorem combine_parameter (hd : m.descriptor ∈ standard.entries) (hk : m.kind = .parameter) :
    (combine ctx m left right patterns).1 = ctx.params.parameter m.literal.display := by
  have hdescriptor : m.descriptor = described "parameter" := eq_described rfl hd hk
  rw [combine, hdescriptor]
  rfl

/-- Nothing else complains about the parameters. -/
theorem parameter_of_combine_standard (hd : m.descriptor ∈ standard.entries)
    (he : e.isAboutParameters = true) (h : (combine ctx m left right patterns).1 = .error e) :
    (m.kind = .parameter ∧ ctx.params.parameter m.literal.display = .error e) ∨
      (m.kind = .wildCard ∧ ∃ i, m.literal = .position i ∧ ctx.params.wildCard i = .error e) := by
  rcases parameter_of_combine (isBuiltIn_standard _ hd) he h with ⟨hop, herror⟩ | ⟨hop, herror⟩
  · exact .inl ⟨kind_of_parameterKind? _ hd _ hop _ rfl, herror⟩
  · exact .inr ⟨kind_of_parameterKind? _ hd _ hop _ rfl, herror⟩

section

variable (htree : tree.IsTreeOf (standard.tokenize text))
include htree

theorem token_mem_tokenize (hm : m ∈ tree.inorder) : m.token ∈ standard.tokenize text := by
  have hmem : m.token ∈ tree.tokens := List.mem_map_of_mem hm
  rw [htree.tokens] at hmem
  exact (List.mem_filter.1 hmem).1

theorem descriptor_mem_standard (hm : m ∈ tree.inorder) : m.descriptor ∈ standard.entries := by
  refine descriptor_mem_of_mem_tokenize (token_mem_tokenize htree hm) fun hk => ?_
  have hordinary := htree.ordinary m hm
  rw [show m.kind = .unknown from hk] at hordinary
  cases hordinary

/-- A tree has a node for every token that is no parenthesis. -/
theorem exists_mem_of_mem_tokenize {t : Token} (ht : t ∈ standard.tokenize text)
    (hp : t.isParenthesis = false) : ∃ m ∈ tree.inorder, m.token = t := by
  have hmem : t ∈ tree.tokens := by
    rw [htree.tokens]
    exact List.mem_filter.2 ⟨ht, by simp [hp]⟩
  exact List.mem_map.1 hmem

theorem isLeaf_of_parameter (hm : m ∈ tree.inorder)
    (hk : m.kind = .wildCard ∨ m.kind = .parameter) : m.IsLeaf := by
  intro side
  have hexpected : m.descriptor.expected side = none :=
    expected_of_parameter _ (descriptor_mem_standard htree hm) hk
  rw [← Option.not_isSome_iff_eq_none, htree.isSome_child? hm, hexpected]
  exact Bool.false_ne_true

/-- Every wildcard has a position, which is less than their number. -/
theorem exists_position (hm : m ∈ tree.inorder) (hk : m.kind = .wildCard) :
    ∃ i < wildCards (standard.tokenize text), m.literal = .position i := by
  have hmem : m.literal ∈
      ((standard.tokenize text).filter (·.kind == .wildCard)).map (·.literal) :=
    List.mem_map.2 ⟨m.token, List.mem_filter.2 ⟨token_mem_tokenize htree hm, beq_iff_eq.2 hk⟩, rfl⟩
  rw [Grammar.literals_wildCards] at hmem
  obtain ⟨i, hi, hliteral⟩ := List.mem_map.1 hmem
  exact ⟨i, List.mem_range.1 hi, hliteral.symm⟩

/-- The wildcards of a tree are numbered in the order of evaluation. -/
theorem literals_wildCards : (tree.postorder.filter (·.kind == .wildCard)).map (·.literal) =
    (List.range (wildCards (standard.tokenize text))).map .position := by
  -- A wildcard has no operands, so it stands at the same place from left to right.
  have hleaf : ∀ m ∈ tree.inorder, (m.kind == .wildCard) = true → m.right = none := by
    intro m hm hk
    exact isLeaf_of_parameter htree hm (.inl (beq_iff_eq.1 hk)) .right
  have hwildCard (t : Token) : (t.kind == .wildCard) = true → (!t.isParenthesis) = true := by
    cases h : t.kind <;> simp [Token.isParenthesis, h]
  calc (tree.postorder.filter (·.kind == .wildCard)).map (·.literal)
    _ = (tree.tokens.filter (·.kind == .wildCard)).map (·.literal) := by
      rw [filter_postorder tree hleaf, tokens, List.filter_map, List.map_map]
      rfl
    _ = ((standard.tokenize text).filter (·.kind == .wildCard)).map (·.literal) := by
      rw [htree.tokens, withoutParentheses, List.filter_filter]
      congr 1
      refine List.filter_congr fun t _ => ?_
      cases h : t.kind == .wildCard
      · rfl
      · simp [hwildCard t h]
    _ = _ := Grammar.literals_wildCards text

/-- A wildcard that is not supplied leaves the tree without a value. -/
theorem exists_error_of_wildCard {i : Nat} (hi : i < wildCards (standard.tokenize text))
    (he : ctx.params.wildCard i = .error e) : ∃ e, (tree.evaluate ctx).1 = .error e := by
  have hposition : .position i ∈
      ((standard.tokenize text).filter (·.kind == .wildCard)).map (·.literal) := by
    rw [Grammar.literals_wildCards]
    exact List.mem_map_of_mem (List.mem_range.2 hi)
  obtain ⟨t, ht, hliteral⟩ := List.mem_map.1 hposition
  obtain ⟨ht, hk⟩ := List.mem_filter.1 ht
  have hk := beq_iff_eq.1 hk
  obtain ⟨m, hm, rfl⟩ := exists_mem_of_mem_tokenize htree ht (by simp [Token.isParenthesis, hk])
  refine evaluate_eq_error_of_mem hm fun left right patterns => ⟨e, ?_⟩
  rw [combine_wildCard (descriptor_mem_standard htree hm) hk hliteral, he]

/-- A named parameter that is not supplied leaves the tree without a value. -/
theorem exists_error_of_parameter {x : String}
    (hx : x ∈ parameterNames (standard.tokenize text))
    (he : ctx.params.parameter x = .error e) : ∃ e, (tree.evaluate ctx).1 = .error e := by
  obtain ⟨t, ht, rfl⟩ := List.mem_map.1 hx
  obtain ⟨ht, hk⟩ := List.mem_filter.1 ht
  have hk := beq_iff_eq.1 hk
  obtain ⟨m, hm, rfl⟩ := exists_mem_of_mem_tokenize htree ht (by simp [Token.isParenthesis, hk])
  refine evaluate_eq_error_of_mem hm fun left right patterns => ⟨e, ?_⟩
  rw [combine_parameter (descriptor_mem_standard htree hm) hk]
  exact he

/-- An error about the parameters is that of a named parameter, or that of the first wildcard that
    is not supplied. -/
theorem origin_of_parameter_error (he : e.isAboutParameters = true)
    (h : (tree.evaluate ctx).1 = .error e) :
    (∃ x ∈ parameterNames (standard.tokenize text), ctx.params.parameter x = .error e) ∨
      ∃ i < wildCards (standard.tokenize text), ctx.params.wildCard i = .error e ∧
        ∀ j < i, ∃ v, ctx.params.wildCard j = .ok v := by
  obtain ⟨before, m, after, hpostorder, ⟨left, right, patterns, herror⟩, hbefore⟩ :=
    exists_of_fold_eq_error h
  have hmem {m' : Node} (hm' : m' ∈ before ++ m :: after) : m' ∈ tree.inorder :=
    mem_postorder_iff.1 (hpostorder ▸ hm')
  have hm : m ∈ tree.inorder := hmem (by simp)
  rcases parameter_of_combine_standard (descriptor_mem_standard htree hm) he herror with
    ⟨hk, hparameter⟩ | ⟨hk, i, hliteral, hwildCard⟩
  · refine .inl ⟨m.literal.display, ?_, hparameter⟩
    exact List.mem_map_of_mem (List.mem_filter.2 ⟨token_mem_tokenize htree hm, beq_iff_eq.2 hk⟩)
  -- The wildcards evaluated before are numbered from `0`, and this one comes next.
  · have hliterals := literals_wildCards htree
    rw [hpostorder, List.filter_append, List.filter_cons, if_pos (beq_iff_eq.2 hk), List.map_append,
      List.map_cons, hliteral] at hliterals
    obtain ⟨hlt, hposition, hfirst⟩ := eq_of_append_cons_eq_map_range hliterals
    obtain rfl : i = _ := Literal.position.inj hposition
    refine .inr ⟨_, hlt, hwildCard, fun j hj => ?_⟩
    have hj : .position j ∈ (before.filter (·.kind == .wildCard)).map (·.literal) := by
      rw [hfirst]
      exact List.mem_map_of_mem (List.mem_range.2 hj)
    obtain ⟨m', hm', hliteral'⟩ := List.mem_map.1 hj
    obtain ⟨hm', hk'⟩ := List.mem_filter.1 hm'
    obtain ⟨left, right, patterns, v, hok⟩ := hbefore m' hm'
    have hd := descriptor_mem_standard htree (hmem (List.mem_append_left _ hm'))
    exact ⟨v, (combine_wildCard hd (beq_iff_eq.1 hk') hliteral').symm.trans hok⟩

/-- Wildcards and named parameters do not occur together. -/
theorem parameterNames_eq_nil (h : 0 < wildCards (standard.tokenize text)) :
    parameterNames (standard.tokenize text) = [] := by
  have hmixed : ¬MixesParameters (standard.tokenize text) := by
    rw [← mixesParameters_withoutParentheses, ← htree.tokens, mixesParameters_tokens]
    exact htree.parameters
  obtain ⟨t, ht, hk⟩ := List.countP_pos_iff.1 h
  rw [parameterNames, List.map_eq_nil_iff, List.filter_eq_nil_iff]
  exact fun t' ht' hk' => hmixed ⟨⟨t, ht, beq_iff_eq.1 hk⟩, t', ht', beq_iff_eq.1 hk'⟩

/-- Too few values: the first wildcard without a value is the only one that is reported. -/
theorem error_of_few_values {values : List Value}
    (hfew : values.length < wildCards (standard.tokenize text))
    (hparams : ctx.params = .positional values) :
    ∃ e, (tree.evaluate ctx).1 = .error e ∧ ∀ j, e = .missingWildCard j → j = values.length := by
  have hlast : ctx.params.wildCard values.length = .error (.missingWildCard values.length) := by
    rw [hparams, Params.wildCard_positional_eq_error_iff]
    exact ⟨le_rfl, rfl⟩
  obtain ⟨e, he⟩ := exists_error_of_wildCard htree hfew hlast
  refine ⟨e, he, ?_⟩
  rintro j rfl
  rcases origin_of_parameter_error htree rfl he with ⟨x, -, hx⟩ | ⟨i, -, hi, hbefore⟩
  · rw [hparams] at hx
    cases hx
  · rw [hparams, Params.wildCard_positional_eq_error_iff] at hi
    obtain ⟨hle, heq⟩ := hi
    obtain rfl : j = i := EvalError.missingWildCard.inj heq
    -- All wildcards before this one have a value.
    refine hle.antisymm' (not_lt.1 fun hlt => ?_)
    obtain ⟨v, hv⟩ := hbefore _ hlt
    rw [hlast] at hv
    cases hv

/-- With a value for every wildcard no error is about parameters. -/
theorem isAboutParameters_of_enough_values {values : List Value}
    (hpos : 0 < wildCards (standard.tokenize text))
    (henough : wildCards (standard.tokenize text) ≤ values.length)
    (hparams : ctx.params = .positional values) (he : (tree.evaluate ctx).1 = .error e) :
    e.isAboutParameters = false := by
  refine Bool.eq_false_iff.2 fun habout => ?_
  rcases origin_of_parameter_error htree habout he with ⟨x, hx, -⟩ | ⟨i, hlt, hi, -⟩
  · rw [parameterNames_eq_nil htree hpos] at hx
    cases hx
  · rw [hparams, Params.wildCard_positional_eq_error_iff] at hi
    omega

/-- Too few names: only a name that is not supplied is reported. -/
theorem error_of_missing_name {values : Properties} {x : String}
    (hx : x ∈ parameterNames (standard.tokenize text)) (hmissing : Members.find? values x = none)
    (hparams : ctx.params = .named values) :
    ∃ e, (tree.evaluate ctx).1 = .error e ∧ ∀ y, e = .undefinedParameter y →
      y ∈ parameterNames (standard.tokenize text) ∧ Members.find? values y = none := by
  have hlookup : ctx.params.parameter x = .error (.undefinedParameter x) := by
    rw [hparams, Params.parameter_named_eq_error_iff]
    exact ⟨hmissing, rfl⟩
  obtain ⟨e, he⟩ := exists_error_of_parameter htree hx hlookup
  refine ⟨e, he, ?_⟩
  rintro y rfl
  rcases origin_of_parameter_error htree rfl he with ⟨z, hz, herror⟩ | ⟨i, -, hi, -⟩
  · rw [hparams, Params.parameter_named_eq_error_iff] at herror
    obtain ⟨hnone, heq⟩ := herror
    obtain rfl : y = z := EvalError.undefinedParameter.inj heq
    exact ⟨hz, hnone⟩
  · rw [hparams] at hi
    cases hi

/-- With a value for every name no error is about parameters. -/
theorem isAboutParameters_of_all_names {values : Properties}
    (hne : parameterNames (standard.tokenize text) ≠ [])
    (hall : ∀ x ∈ parameterNames (standard.tokenize text), Members.find? values x ≠ none)
    (hparams : ctx.params = .named values) (he : (tree.evaluate ctx).1 = .error e) :
    e.isAboutParameters = false := by
  refine Bool.eq_false_iff.2 fun habout => ?_
  rcases origin_of_parameter_error htree habout he with ⟨x, hx, herror⟩ | ⟨i, hi, -, -⟩
  · rw [hparams, Params.parameter_named_eq_error_iff] at herror
    exact hall x hx herror.1
  · exact hne (parameterNames_eq_nil htree (Nat.zero_lt_of_lt hi))

end

end Node

/-! ### Conditions -/

open Grammar

/-- The tree of a text that has a token is a tree of its tokens. -/
theorem isTreeOf_of_ofText {text : String} {clause : Option String} {tree : Node}
    (h : (Compiled.ofText .standard text clause).tree = .ok tree)
    (hne : standard.tokenize text ≠ []) :
    tree.IsTreeOf (standard.tokenize text) := by
  refine Builder.isTreeOf_of_finish (fun t ht => isPlain_of_mem_tokenize ht) ?_
  rw [← buildTree_of_ne_nil hne]
  exact h

/-- The tree of a text without tokens is true on every record. -/
theorem eq_alwaysTrue_of_ofText {text : String} {clause : Option String} {tree : Node}
    (h : (Compiled.ofText .standard text clause).tree = .ok tree)
    (hnil : standard.tokenize text = []) : tree = .alwaysTrue := by
  rw [Compiled.ofText, hnil] at h
  exact (Except.ok.inj h).symm

/-- Whether parameters suffice for a condition does not depend on the record. A condition with
    wildcards always fails unless it is given a value for each of them, by position, and then no
    error is about parameters; if values are missing, only the first missing one is reported. A
    condition with named parameters always fails unless it is given all of them, by name, and then
    no error is about parameters; only a parameter that occurs and is missing is reported. -/
theorem test_of_parameters {text : String} {clause : Option String} {tree : Node}
    (h : (Compiled.ofText .standard text clause).tree = .ok tree) (record : Record)
    (patterns : Option PatternCache) :
    let tokens := standard.tokenize text
    let outcome (params : Params) : Except EvalError Bool :=
      ((Compiled.ofText .standard text clause).test ⟨record, params, patterns⟩).1
    (0 < wildCards tokens →
      (∀ values, values.length < wildCards tokens → ∃ e, outcome (.positional values) = .error e ∧
        ∀ j, e = .missingWildCard j → j = values.length) ∧
      (∀ values, wildCards tokens ≤ values.length →
        ∀ e, outcome (.positional values) = .error e → e.isAboutParameters = false) ∧
      (∃ e, outcome .none = .error e) ∧
      ∀ values, ∃ e, outcome (.named values) = .error e) ∧
    (parameterNames tokens ≠ [] →
      (∀ values, (∃ x ∈ parameterNames tokens, Members.find? values x = none) →
        ∃ e, outcome (.named values) = .error e ∧ ∀ x, e = .undefinedParameter x →
          x ∈ parameterNames tokens ∧ Members.find? values x = none) ∧
      (∀ values, (∀ x ∈ parameterNames tokens, Members.find? values x ≠ none) →
        ∀ e, outcome (.named values) = .error e → e.isAboutParameters = false) ∧
      (∃ e, outcome .none = .error e) ∧
      ∀ values, ∃ e, outcome (.positional values) = .error e) := by
  intro tokens outcome
  have houtcome (params : Params) (e : EvalError) : outcome params = .error e ↔
      (tree.evaluate ⟨record, params, patterns⟩).1 = .error e := by
    simp only [outcome, Compiled.test, h, Node.holds_eq_error_iff]
  simp only [houtcome]
  constructor
  · intro hpos
    have htree := isTreeOf_of_ofText h fun hnil => by simp [tokens, wildCards, hnil] at hpos
    exact ⟨fun values hfew => Node.error_of_few_values htree hfew rfl,
      fun values henough e => Node.isAboutParameters_of_enough_values htree hpos henough rfl,
      Node.exists_error_of_wildCard htree hpos rfl,
      fun values => Node.exists_error_of_wildCard htree hpos rfl⟩
  · intro hne
    have htree := isTreeOf_of_ofText h fun hnil => hne (by simp [tokens, parameterNames, hnil])
    obtain ⟨x, hx⟩ := List.exists_mem_of_ne_nil _ hne
    exact ⟨fun values ⟨x, hx, hmissing⟩ => Node.error_of_missing_name htree hx hmissing rfl,
      fun values hall e => Node.isAboutParameters_of_all_names htree hne hall rfl,
      Node.exists_error_of_parameter htree hx rfl,
      fun values => Node.exists_error_of_parameter htree hx rfl⟩

/-- Given one value, `a = %@ OR b = %@` fails on every record, and the only wildcard that can be
    reported is the second. -/
theorem test_with_one_value_for_two :
    let text := "a = %@ OR b = %@"
    let token (id : String) (literal : Literal) : Token := ⟨described id, literal⟩
    let equation (name : String) (i : Nat) : Node :=
      ⟨token "equals" (.text "="), some (.ofToken (token "record_property" (.text name))),
        some (.ofToken (token "wild_card" (.position i)))⟩
    let tree : Node := ⟨token "or" (.text "OR"), some (equation "a" 0), some (equation "b" 1)⟩
    (Compiled.ofText .standard text none).tree = .ok tree ∧
      wildCards (standard.tokenize text) = 2 ∧
      ∀ record value, ∃ e, ((Compiled.ofText .standard text none).test
        ⟨record, .positional [value], none⟩).1 = .error e ∧ ∀ j, e = .missingWildCard j → j = 1 := by
  intro text token equation tree
  let tokens : List Token :=
    [token "record_property" (.text "a"), token "equals" (.text "="), token "wild_card" (.position 0),
      token "or" (.text "OR"), token "record_property" (.text "b"), token "equals" (.text "="),
      token "wild_card" (.position 1)]
  have htokens : standard.tokenize text = tokens := by
    let lexemes : List (List Char × Lexeme) :=
      [([], .property "a" (by decide) (by decide)),
        ([' '], .keyword comparators[0] (by simp [keywords])), ([' '], .wildCard),
        ([' '], .keyword booleanOperators[1] (by simp [keywords])),
        ([' '], .property "b" (by decide) (by decide)),
        ([' '], .keyword comparators[0] (by simp [keywords])), ([' '], .wildCard)]
    have htext : text.toList = written lexemes ++ [] := by
      rw [← String.toList_ofList (l := written lexemes ++ [])]
      rfl
    rw [tokenize, htext, Lexer.tokens_written (by decide) (by decide) (by decide)]
    rfl
  have hequation (name : String) (i : Nat) : Condition.Clause
      [token "record_property" (.text name), token "equals" (.text "="),
        token "wild_card" (.position i)] (equation name i) :=
    .comparison (.leaf ⟨rfl, rfl, rfl, rfl⟩) ⟨rfl, rfl, rfl, rfl⟩ (.leaf ⟨rfl, rfl, rfl, rfl⟩)
  have hcondition : Condition tokens tree :=
    .chain (.connection (.clause (hequation "a" 0)) ⟨rfl, rfl, rfl, rfl⟩ (hequation "b" 1))
  have hunmixed : ¬MixesParameters tree.tokens := by
    rintro ⟨-, t, ht, hk⟩
    have ht : t ∈ tokens := ht
    simp only [tokens, List.mem_cons, List.not_mem_nil, or_false] at ht
    rcases ht with rfl | rfl | rfl | rfl | rfl | rfl | rfl <;> cases hk
  have htree : (Compiled.ofText .standard text none).tree = .ok tree := by
    rw [Compiled.ofText, htokens, buildTree_of_ne_nil hcondition.ne_nil, hcondition.foldl_accept]
    exact (Builder.finish_push_empty fun m hm => (hcondition.whole m hm).1).1 hunmixed
  have htwo : wildCards (standard.tokenize text) = 2 := by
    rw [htokens]
    rfl
  refine ⟨htree, htwo, fun record value => ?_⟩
  exact ((test_of_parameters htree record none).1 (by omega)).1 [value] (by simp [htwo])
end RecordQuery
