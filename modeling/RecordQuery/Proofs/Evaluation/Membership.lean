import RecordQuery.Proofs.Evaluation.Connectives

/-!
# Membership

A property is one of several values exactly if it equals one of them. So `p ANY` with a list as a
named parameter gives what the alternatives `p = %@ OR p = %@ OR …` give with the values of the list
by position (`any_eq_alternatives`). There is one equation for each value, and the lexer numbers
their wildcards by the place of the equation in the text. The tree has the last equation on the
right of its root and all others on the left; so it can be read, built and evaluated by induction on
the number of equations, from the left.

* `comparisonTokens`, `comparisonTree`: a property compared with a parameter.
* `alternatives`: the text of the alternatives; `alternativesTokens`, `alternativesTree`: its tokens
  and its tree.
* `Node.holds_alternativesTree`: the value of the tree.
-/

namespace RecordQuery

open Grammar

/-! ### One comparison -/

namespace Token

/-- The token of a property. -/
def property (name : String) : Token := ⟨described "record_property", .text name⟩

/-- The token of the wildcard with a number. -/
def wildCard (k : ℕ) : Token := ⟨described "wild_card", .position k⟩

/-- The token of a named parameter. -/
def parameter (name : String) : Token := ⟨described "parameter", .text name⟩

/-- The token of `=`. -/
def equality : Token := ⟨described "equals", .text "="⟩

/-- The token of `ANY`. -/
def membership : Token := ⟨described "any", .text "ANY"⟩

end Token

/-- The tokens of a property compared with an operand. -/
def comparisonTokens (p : String) (op operand : Token) : List Token := [.property p, op, operand]

/-- The tree of a property compared with an operand. -/
def comparisonTree (p : String) (op operand : Token) : Node :=
  ⟨op, some (.ofToken (.property p)), some (.ofToken operand)⟩

theorem clause_comparison (p : String) {op operand : Token}
    (hop : op.HasSignature (some .primitive) (some .primitive) .boolean)
    (hoperand : operand.HasSignature none none .primitive) :
    Condition.Clause (comparisonTokens p op operand) (comparisonTree p op operand) :=
  .comparison (.leaf ⟨rfl, rfl, rfl, rfl⟩) hop (.leaf hoperand)

/-- A comparison gives what its operator makes of the property and the operand. -/
theorem Node.holds_comparison {p : String} {op operand : Token} {operator : Operator}
    {ctx : Context} {v : Value} {b : Bool} (hop : op.descriptor.operator = some operator)
    (hoperand : ∀ patterns, combine ctx (.ofToken operand) none none patterns = (.ok v, patterns))
    (happly : ∀ patterns, operator.apply op.literal (some (ctx.record.get p)) (some v)
      { ctx with patterns := patterns } = (.ok (.boolean b), patterns)) :
    (comparisonTree p op operand).holds ctx = (.ok b, ctx.patterns) := by
  have hleft (patterns : Option PatternCache) :
      recurse? (combine ctx) (some (.ofToken (.property p))) patterns =
        (.ok (some (ctx.record.get p)), patterns) := by
    rw [recurse?_some, recurse_eq]
    rfl
  have hright (patterns : Option PatternCache) :
      recurse? (combine ctx) (some (.ofToken operand)) patterns = (.ok (some v), patterns) := by
    rw [recurse?_some, recurse_eq]
    simp only [ofToken, recurse?_none, andThen_ok] at hoperand ⊢
    rw [hoperand, andThen_ok]
  have hroot (patterns : Option PatternCache) : combine ctx (comparisonTree p op operand)
      (some (ctx.record.get p)) (some v) patterns = (.ok (.boolean b), patterns) := by
    rw [combine, comparisonTree, descriptor, hop]
    exact happly patterns
  have hvalue : (comparisonTree p op operand).evaluate ctx = (.ok (.boolean b), ctx.patterns) := by
    rw [evaluate, fold_eq_recurse, recurse_eq]
    simp only [comparisonTree] at hroot ⊢
    rw [hleft, andThen_ok, hright, andThen_ok, hroot]
  rw [holds, hvalue]
  rfl

/-! ### Alternatives -/

/-- The tokens of `p = %@`, with the number of the wildcard. -/
def equationTokens (p : String) (k : ℕ) : List Token := comparisonTokens p .equality (.wildCard k)

/-- The tree of `p = %@`, with the number of the wildcard. -/
def equationTree (p : String) (k : ℕ) : Node := comparisonTree p .equality (.wildCard k)

/-- The text `p = %@ OR p = %@ OR …` of `n` alternatives. -/
def alternatives (p : String) (n : ℕ) : String :=
  String.intercalate " OR " (List.replicate n (p ++ " = %@"))

/-- The tokens of one alternative and `n` more. -/
def alternativesTokens (p : String) : ℕ → List Token
  | 0 => equationTokens p 0
  | n + 1 => alternativesTokens p n ++ .disjunction :: equationTokens p (n + 1)

/-- The tree of one alternative and `n` more. -/
def alternativesTree (p : String) : ℕ → Node
  | 0 => equationTree p 0
  | n + 1 => ⟨.disjunction, some (alternativesTree p n), some (equationTree p (n + 1))⟩

theorem alternatives_one (p : String) : alternatives p 1 = p ++ " = %@" := by
  simp [alternatives]

theorem alternatives_succ (p : String) (n : ℕ) :
    alternatives p (n + 1 + 1) = alternatives p (n + 1) ++ (" OR " ++ (p ++ " = %@")) := by
  rw [alternatives, List.replicate_succ', String.intercalate_append_of_ne_nil (by simp) (by simp),
    String.intercalate_singleton, String.append_assoc]
  rfl

/-- There is one wildcard in each alternative. -/
theorem wildCards_alternativesTokens (p : String) (n : ℕ) :
    wildCards (alternativesTokens p n) = n + 1 := by
  induction n with
  | zero => rfl
  | succ n ih =>
    rw [wildCards] at ih
    rw [alternativesTokens, wildCards, List.countP_append, ih]
    rfl

/-! ### Reading -/

section

variable {p : String} (hname : isName p.toList = true)
include hname

/-- A name has neither quotes nor braces. -/
theorem any_enclosing_of_isName : p.toList.any (fun c => isQuote c || c == '\x7b') = false := by
  refine List.any_eq_false.2 fun c hc h => ?_
  have hchar := isNameChar_of_isName hname c hc
  rw [isNameChar_iff, isNameStart_iff, isDigit_iff] at hchar
  rw [Bool.or_eq_true, isQuote_iff, beq_iff, show Char.toNat '\x7b' = 123 from rfl] at h
  omega

/-- The text of alternatives leaves nothing unclosed, since it encloses nothing. -/
theorem not_unterminated_alternatives (n : ℕ) :
    ¬standard.Unterminated (alternatives p (n + 1)) := by
  have hp := any_enclosing_of_isName hname
  refine not_unterminated ?_
  induction n with
  | zero =>
    rw [alternatives_one, String.toList_append, List.any_append, hp]
    rfl
  | succ n ih =>
    rw [alternatives_succ, String.toList_append, String.toList_append, String.toList_append,
      List.any_append, List.any_append, List.any_append, ih, hp]
    rfl

variable (hp : Unreserved p)
include hp

/-- A name, a keyword and one more lexeme. -/
theorem tokenize_comparison {text : String} {d : Descriptor} (hd : d ∈ keywords) (l : Lexeme)
    (htext : text.toList =
      p.toList ++ ([' '] ++ (Lexeme.keyword d hd).spelling ++ ([' '] ++ l.spelling))) :
    standard.tokenize text = comparisonTokens p ((Lexeme.keyword d hd).token 0) (l.token 0) := by
  let items : List (List Char × Lexeme) :=
    [([], .property p hname hp), ([' '], .keyword d hd), ([' '], l)]
  have hgap : ∀ item ∈ items, IsBlank item.1 := by
    simp only [items, List.forall_mem_cons]
    exact ⟨by decide, by decide, by decide, List.forall_mem_nil _⟩
  have hwritten : text.toList = written items ++ [] := by
    rw [htext]
    simp [items, written, Lexeme.spelling]
  have hnumbered : numbered 0 (items.map Prod.snd) =
      [(0, .property p hname hp), (0, .keyword d hd), (0, l)] := by
    cases l <;> rfl
  rw [tokenize, hwritten, Lexer.tokens_written hgap (by simp [items]) (by decide)]
  show (numbered 0 (items.map Prod.snd)).map _ = _
  rw [hnumbered]
  rfl

/-- The text of an equation is read as a property, `=` and the first wildcard. -/
theorem tokenize_equation : standard.tokenize (p ++ " = %@") = equationTokens p 0 :=
  tokenize_comparison hname hp (d := comparators[0]) (by simp [keywords]) .wildCard
    (String.toList_append.trans rfl)

/-- The text of a membership is read as a property, `ANY` and a named parameter. -/
theorem tokenize_membership : standard.tokenize (p ++ " ANY \x7blist\x7d") =
    comparisonTokens p .membership (.parameter "list") :=
  tokenize_comparison hname hp (d := comparators[8]) (by simp [keywords])
    (.parameter "list" (by decide)) (String.toList_append.trans rfl)

/-- The text of alternatives is read as equations whose wildcards are numbered from left to right.
    -/
theorem tokenize_alternatives (n : ℕ) :
    standard.tokenize (alternatives p (n + 1)) = alternativesTokens p n := by
  induction n with
  | zero => rw [alternatives_one, tokenize_equation hname hp, alternativesTokens]
  | succ n ih =>
    -- The last equation is read by itself, and its wildcard counted on from the others.
    have hcounted : (equationTokens p 0).map (Token.advance (n + 1)) = equationTokens p (n + 1) := by
      show comparisonTokens p .equality (.wildCard (0 + (n + 1))) = _
      rw [Nat.zero_add, equationTokens]
    rw [alternatives_succ, tokenize_append_fixed (not_unterminated_alternatives hname n)
      Token.isFixed_disjunction (fun _ => endsRuns_space _), ih, tokenize_equation hname hp,
      wildCards_alternativesTokens, alternativesTokens, hcounted]
    rfl

end

/-! ### Building -/

/-- A membership is built into the tree of its comparison. -/
theorem buildTree_membership (p name : String) :
    buildTree (comparisonTokens p .membership (.parameter name)) =
      .ok (comparisonTree p .membership (.parameter name)) := by
  have hclause : Condition.Clause (comparisonTokens p .membership (.parameter name)) _ :=
    clause_comparison p ⟨rfl, rfl, rfl, rfl⟩ ⟨rfl, rfl, rfl, rfl⟩
  refine (Condition.chain (.clause hclause)).buildTree_eq ?_
  rintro ⟨⟨t, ht, hk⟩, -⟩
  have ht : t ∈ comparisonTokens p .membership (.parameter name) := ht
  simp only [comparisonTokens, List.mem_cons, List.not_mem_nil, or_false] at ht
  rcases ht with rfl | rfl | rfl <;> cases hk

/-- Alternatives are a chain, which is grouped to the left. -/
theorem chain_alternatives (p : String) (n : ℕ) :
    Condition.Chain (alternativesTokens p n) (alternativesTree p n) := by
  have hequation (k : ℕ) : Condition.Clause (equationTokens p k) (equationTree p k) :=
    clause_comparison p ⟨rfl, rfl, rfl, rfl⟩ ⟨rfl, rfl, rfl, rfl⟩
  induction n with
  | zero => exact .clause (hequation 0)
  | succ n ih => exact .connection ih ⟨rfl, rfl, rfl, rfl⟩ (hequation (n + 1))

/-- There are no named parameters among the alternatives. -/
theorem kind_ne_parameter (p : String) (n : ℕ) : ∀ t ∈ alternativesTokens p n,
    t.kind ≠ .parameter := by
  have hequation (k : ℕ) : ∀ t ∈ equationTokens p k, t.kind ≠ .parameter := by
    simp only [equationTokens, comparisonTokens, List.forall_mem_cons]
    exact ⟨nofun, nofun, nofun, List.forall_mem_nil _⟩
  induction n with
  | zero => exact hequation 0
  | succ n ih =>
    exact List.forall_mem_append.2 ⟨ih, List.forall_mem_cons.2 ⟨nofun, hequation (n + 1)⟩⟩

/-- Alternatives are built into their tree. -/
theorem buildTree_alternatives (p : String) (n : ℕ) :
    buildTree (alternativesTokens p n) = .ok (alternativesTree p n) := by
  have hcondition := Condition.chain (chain_alternatives p n)
  refine hcondition.buildTree_eq ?_
  rintro ⟨-, t, ht, hk⟩
  obtain ⟨m, hm, rfl⟩ := List.mem_map.1 ht
  exact kind_ne_parameter p n _ (hcondition.whole m hm).2 hk

/-! ### Values -/

namespace Node

variable {p : String} {values : List Value} {ctx : Context}

/-- An equation holds if the property is loosely equal to the value at its number. -/
theorem holds_equationTree {k : ℕ} {v : Value} (hparams : ctx.params = .positional values)
    (hv : values[k]? = some v) :
    (equationTree p k).holds ctx = (.ok ((ctx.record.get p).looseEq v), ctx.patterns) := by
  refine holds_comparison rfl (fun patterns => ?_) fun _ => rfl
  have hvalue : ctx.params.wildCard k = .ok v := by
    rw [hparams, Params.wildCard, hv]
  show (ctx.params.wildCard k, patterns) = _
  rw [hvalue]

/-- Alternatives hold if the property is loosely equal to one of the first values, as many as there
    are alternatives. -/
theorem holds_alternativesTree {n : ℕ} (hparams : ctx.params = .positional values)
    (hn : n < values.length) : (alternativesTree p n).holds ctx =
      (.ok ((values.take (n + 1)).any (ctx.record.get p).looseEq), ctx.patterns) := by
  have htake (k : ℕ) (hk : k < values.length) :
      (values.take (k + 1)).any (ctx.record.get p).looseEq =
        ((values.take k).any (ctx.record.get p).looseEq || (ctx.record.get p).looseEq values[k]) := by
    rw [List.take_succ_eq_append_getElem hk, List.any_append, List.any_cons, List.any_nil,
      Bool.or_false]
  -- The last equation is on the right of the root, and its value comes after those of the others.
  induction n with
  | zero =>
    rw [alternativesTree, holds_equationTree hparams (List.getElem?_eq_getElem hn), htake 0 hn,
      List.take_zero, List.any_nil, Bool.false_or]
  | succ n ih =>
    rw [alternativesTree, holds_connection Token.connects_disjunction, ih (Nat.lt_of_succ_lt hn),
      andThen_ok, holds_equationTree hparams (List.getElem?_eq_getElem hn), andThen_ok,
      htake (n + 1) hn]

/-- A membership holds if the property is loosely equal to one of the values of the list. -/
theorem holds_membershipTree {name : String} {entries : Properties}
    (hparams : ctx.params = .named entries)
    (hfind : Members.find? entries name = some (.array values)) :
    (comparisonTree p .membership (.parameter name)).holds ctx =
      (.ok (values.any (ctx.record.get p).looseEq), ctx.patterns) := by
  refine holds_comparison (v := .array values) rfl (fun patterns => ?_) fun _ => rfl
  have hvalue : ctx.params.parameter name = .ok (.array values) := by
    rw [hparams, Params.parameter, hfind]
  show (ctx.params.parameter name, patterns) = _
  rw [hvalue]

end Node

/-- For every property whose name is no reserved word, and values one or more in number, `p ANY` with
    the list of the values as a named parameter and as many alternatives `p = %@`, with the values by
    position, compile and give the same result on every record: whether the property equals one of
    the values. -/
theorem any_eq_alternatives {p : String} (hname : isName p.toList = true) (hp : Unreserved p)
    {values : List Value} (hne : values ≠ []) (clause : Option String) (record : Record)
    (patterns : Option PatternCache) :
    let membership := Compiled.ofText .standard (p ++ " ANY \x7blist\x7d") clause
    let chain := Compiled.ofText .standard
      (String.intercalate " OR " (List.replicate values.length (p ++ " = %@"))) clause
    let found := values.any (record.get p).looseEq
    (∃ n, membership.tree = .ok n) ∧ (∃ n, chain.tree = .ok n) ∧
      membership.test ⟨record, .named [("list", .array values)], patterns⟩ =
        (.ok found, patterns) ∧
      chain.test ⟨record, .positional values, patterns⟩ = (.ok found, patterns) := by
  intro membership chain found
  obtain ⟨n, hn⟩ := Nat.exists_eq_succ_of_ne_zero (mt List.length_eq_zero_iff.1 hne)
  have hmembership : membership.tree = .ok (comparisonTree p .membership (.parameter "list")) :=
    (congrArg buildTree (tokenize_membership hname hp)).trans (buildTree_membership p "list")
  have hchain : chain.tree = .ok (alternativesTree p n) := by
    have htokens := tokenize_alternatives hname hp n
    rw [← Nat.succ_eq_add_one, ← hn] at htokens
    exact (congrArg buildTree htokens).trans (buildTree_alternatives p n)
  refine ⟨⟨_, hmembership⟩, ⟨_, hchain⟩, ?_, ?_⟩
  · simp only [Compiled.test, hmembership]
    exact Node.holds_membershipTree rfl rfl
  · simp only [Compiled.test, hchain]
    rw [Node.holds_alternativesTree rfl (by omega), ← Nat.succ_eq_add_one, ← hn, List.take_length]

/-- The second of two values. -/
theorem any_eq_alternatives_second_value :
    let record : Record := ⟨fun _ => .integer 2, .integer 0, none⟩
    let values : List Value := [.integer 1, .integer 2]
    isName "a".toList = true ∧ Unreserved "a" ∧
      (Compiled.ofText .standard "a ANY \x7blist\x7d" none).test
        ⟨record, .named [("list", .array values)], none⟩ = (.ok true, none) ∧
      (Compiled.ofText .standard "a = %@ OR a = %@" none).test
        ⟨record, .positional values, none⟩ = (.ok true, none) := by
  intro record values
  have hname : isName "a".toList = true := by decide
  have hp : Unreserved "a" := by decide
  have hne : values ≠ [] := List.cons_ne_nil _ _
  have hfound : values.any (record.get "a").looseEq = true := by decide
  obtain ⟨-, -, hmembership, hchain⟩ := any_eq_alternatives hname hp hne none record none
  rw [hfound] at hmembership hchain
  exact ⟨hname, hp, hmembership, hchain⟩

end RecordQuery
