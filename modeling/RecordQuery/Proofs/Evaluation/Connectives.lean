import Mathlib.Algebra.Group.Nat.Even
import RecordQuery.Proofs.Builder.Literals
import RecordQuery.Proofs.Folding
import RecordQuery.Proofs.Lexing.Composition

/-!
# Connectives

The laws of De Morgan and of double negation, for conditions as texts (`test_deMorgan`). Both operands
of a connective are evaluated whatever the first one is, so the two sides of a law evaluate the same
trees in the same order and fail at the same place. That the trees are the same takes the whole way
from the texts: in parentheses each condition is read as it is alone, but for the numbers of its
wildcards, and these are the same on both sides.

* `Operator.connective?`: the connectives of booleans.
* `Node.holds_negation`, `Node.holds_connection`: the value of a negation and of a connective.
* `Node.negations`: a tree negated several times.
-/

namespace RecordQuery

/-! ### Values -/

/-- The connective of booleans that an operator stands for. -/
def Operator.connective? : Operator → Option (Bool → Bool → Bool)
  | and => some (· && ·)
  | or => some (· || ·)
  | _ => none

/-- A negation. -/
structure Token.IsNegation (t : Token) : Prop extends t.IsBooleanOperator none where
  operator : t.descriptor.operator = some .not

/-- An operator between two booleans that connects them by a function. -/
structure Token.Connects (t : Token) (f : Bool → Bool → Bool) : Prop extends
    t.IsBooleanOperator (some .boolean) where
  operator : t.descriptor.operator.bind Operator.connective? = some f

namespace Node

variable {t u v : Token} {f g : Bool → Bool → Bool}

/-- A negation is true of what counts as false. -/
theorem combine_negation (ht : t.IsNegation) (n : Node) (ctx : Context) (left : Option Value)
    (value : Value) (patterns : Option PatternCache) :
    combine ctx ⟨t, none, some n⟩ left (some value) patterns =
      (.ok (.boolean !value.isTruthy), patterns) := by
  rw [combine, descriptor, ht.operator]
  rfl

/-- A connective applies its function to what its operands count as. -/
theorem combine_connection (hu : u.Connects f) (l r : Node) (ctx : Context) (left right : Value)
    (patterns : Option PatternCache) :
    combine ctx ⟨u, some l, some r⟩ (some left) (some right) patterns =
      (.ok (.boolean (f left.isTruthy right.isTruthy)), patterns) := by
  obtain ⟨op, hop, hf⟩ := Option.bind_eq_some_iff.1 hu.operator
  rw [combine, descriptor, hop]
  cases op with
  | and | or =>
    cases hf
    rfl
  | _ => cases hf

/-- A negation holds where its operand does not, and fails where it fails. -/
theorem holds_negation (ht : t.IsNegation) (n : Node) (ctx : Context) :
    holds ⟨t, none, some n⟩ ctx = ((n.holds ctx).1.map (!·), (n.holds ctx).2) := by
  simp only [holds, evaluate, fold_eq_recurse, recurse_eq _ ⟨t, none, some n⟩, recurse?_none,
    recurse?_some, andThen_ok]
  obtain ⟨_ | value, patterns⟩ := n.recurse (combine ctx) ctx.patterns
  · rfl
  · simp only [andThen_ok, combine_negation ht]
    rfl

/-- Both operands of a connective are evaluated, the left one first. -/
theorem holds_connection (hu : u.Connects f) (l r : Node) (ctx : Context) :
    holds ⟨u, some l, some r⟩ ctx =
      andThen (l.holds ctx) fun a patterns =>
        andThen (r.holds { ctx with patterns := patterns }) fun b patterns =>
          (.ok (f a b), patterns) := by
  simp only [holds, evaluate, fold_eq_recurse, recurse_eq _ ⟨u, some l, some r⟩, recurse?_some]
  obtain ⟨_ | left, patterns⟩ := l.recurse (combine ctx) ctx.patterns
  · rfl
  · have hkept : combine { ctx with patterns := patterns } = combine ctx := rfl
    simp only [andThen_ok, Except.map, hkept]
    obtain ⟨_ | right, patterns⟩ := r.recurse (combine ctx) patterns
    · rfl
    · simp only [andThen_ok, combine_connection hu]
      rfl

/-- Negating a connective is connecting the negations by the dual one. -/
theorem holds_negation_connection (ht : t.IsNegation) (hu : u.Connects f) (hv : v.Connects g)
    (hdual : ∀ a b, (!f a b) = g (!a) (!b)) (l r : Node) (ctx : Context) :
    holds ⟨t, none, some ⟨u, some l, some r⟩⟩ ctx =
      holds ⟨v, some ⟨t, none, some l⟩, some ⟨t, none, some r⟩⟩ ctx := by
  simp only [holds_negation ht, holds_connection hu, holds_connection hv]
  obtain ⟨_ | a, patterns⟩ := l.holds ctx
  · rfl
  · simp only [andThen_ok, Except.map]
    obtain ⟨_ | b, patterns⟩ := r.holds { ctx with patterns := patterns }
    · rfl
    · simp only [andThen_ok, hdual]

/-- A tree negated several times. -/
def negations (t : Token) (n : Node) : ℕ → Node
  | 0 => n
  | k + 1 => ⟨t, none, some (negations t n k)⟩

/-- Two negations cancel each other, and a failure is passed on. -/
theorem holds_negations (ht : t.IsNegation) (n : Node) (ctx : Context) (k : ℕ) :
    (negations t n k).holds ctx =
      ((n.holds ctx).1.map fun b => if Even k then b else !b, (n.holds ctx).2) := by
  induction k with
  | zero =>
    rw [negations]
    generalize n.holds ctx = outcome
    obtain ⟨_ | _, _⟩ := outcome <;> simp [Except.map]
  | succ k ih =>
    rw [negations, holds_negation ht, ih]
    obtain ⟨_ | b, patterns⟩ := n.holds ctx
    · rfl
    · by_cases hk : Even k <;> simp [Except.map, Nat.even_add_one, hk]

end Node

/-! ### Tokens -/

open Grammar

namespace Token

/-- The token of `(`. -/
def opening : Token := ⟨described "open_parenthesis", .text "("⟩

/-- The token of `)`. -/
def closing : Token := ⟨described "close_parenthesis", .text ")"⟩

/-- The token of `NOT`. -/
def negation : Token := ⟨described "not", .text "NOT"⟩

/-- The token of `AND`. -/
def conjunction : Token := ⟨described "and", .text "AND"⟩

/-- The token of `OR`. -/
def disjunction : Token := ⟨described "or", .text "OR"⟩

theorem isOpening_opening : opening.IsOpening := ⟨rfl, rfl, rfl, rfl⟩

theorem isClosing_closing : closing.IsClosing := ⟨rfl, rfl, rfl, rfl⟩

theorem isNegation_negation : negation.IsNegation :=
  ⟨⟨⟨rfl, rfl, rfl, rfl⟩, by decide, by decide⟩, rfl⟩

theorem connects_conjunction : conjunction.Connects (· && ·) :=
  ⟨⟨⟨rfl, rfl, rfl, rfl⟩, by decide, by decide⟩, rfl⟩

theorem connects_disjunction : disjunction.Connects (· || ·) :=
  ⟨⟨⟨rfl, rfl, rfl, rfl⟩, by decide, by decide⟩, rfl⟩

theorem isFixed_opening : IsFixed "(" [opening] :=
  .of_readsTo (fun _ => .cons rfl .nil) fun _ => rfl

theorem isFixed_closing : IsFixed ")" [closing] :=
  .of_readsTo (fun _ => .cons rfl .nil) fun _ => rfl

theorem isFixed_negation : IsFixed "NOT " [negation] :=
  .of_readsTo_skipped (fun _ => .cons rfl .nil) skips_space fun _ => rfl

theorem isFixed_conjunction : IsFixed " AND " [conjunction] :=
  .of_readsTo_skipped (fun _ => .cons rfl .nil) skips_space fun _ => rfl

theorem isFixed_disjunction : IsFixed " OR " [disjunction] :=
  .of_readsTo_skipped (fun _ => .cons rfl .nil) skips_space fun _ => rfl

/-- Counting wildcards on changes nothing but literals. -/
theorem changesLiterals_advance (k : ℕ) : ChangesLiterals (advance k) where
  descriptor t := by
    rw [advance]
    split <;> rfl
  unknown t ht := by
    rw [advance, ht]

end Token

/-! ### Lists of tokens -/

/-- A list of tokens in parentheses, after several negations. -/
def negated (k : ℕ) (ts : List Token) : List Token :=
  List.replicate k .negation ++ .opening :: (ts ++ [.closing])

/-- Negating a list adds no parameters. -/
theorem mem_negated_iff {ts : List Token} {t : Token} {k : ℕ}
    (ht : t.kind = .wildCard ∨ t.kind = .parameter) : t ∈ negated k ts ↔ t ∈ ts := by
  have hmarks : ∀ mark ∈ [Token.negation, .opening, .closing], t ≠ mark := by
    have hkinds : ∀ mark ∈ [Token.negation, .opening, .closing],
        ¬(mark.kind = .wildCard ∨ mark.kind = .parameter) := by
      decide
    rintro mark hmark rfl
    exact hkinds t hmark ht
  simp only [List.forall_mem_cons] at hmarks
  obtain ⟨hnegation, hopening, hclosing, -⟩ := hmarks
  simp [negated, hnegation, hopening, hclosing]

theorem mixesParameters_negated (k : ℕ) (s : List Token) :
    MixesParameters (negated k s) ↔ MixesParameters s :=
  mixesParameters_congr fun _ => mem_negated_iff

theorem mixesParameters_negated_append (j k : ℕ) (s t : List Token) :
    MixesParameters (negated j s ++ negated k t) ↔ MixesParameters (s ++ t) :=
  mixesParameters_congr fun w hw => by
    rw [List.mem_append, List.mem_append, mem_negated_iff hw, mem_negated_iff hw]

namespace IsAccepted

variable {s t : List Token} {S T : Node} {u : Token} {f : Bool → Bool → Bool} {j k : ℕ}

/-- A boolean list can be negated any number of times. -/
theorem readsAsOne_negated (h : IsAccepted s S) (hS : S.result = some .boolean) (k : ℕ) :
    ReadsAsOne (negated k s) (.negations .negation S k) := by
  induction k with
  | zero => exact h.readsAsOne hS Token.isOpening_opening Token.isClosing_closing
  | succ k ih => exact ih.negation Token.isNegation_negation.toIsBooleanOperator

/-- A boolean list that is accepted is accepted with negations before it. -/
theorem negated (h : IsAccepted s S) (hS : S.result = some .boolean) (k : ℕ) :
    IsAccepted (negated k s) (.negations .negation S k) :=
  (h.readsAsOne_negated hS k).isAccepted
    (mt (mixesParameters_negated k s).1 h.not_mixesParameters)

/-- Two boolean lists, each negated any number of times, can be connected. -/
theorem connected (hs : IsAccepted s S) (ht : IsAccepted t T) (hS : S.result = some .boolean)
    (hT : T.result = some .boolean) (hu : u.Connects f) (hunmixed : ¬MixesParameters (s ++ t)) :
    IsAccepted (RecordQuery.negated j s ++ u :: RecordQuery.negated k t)
      ⟨u, some (.negations .negation S j), some (.negations .negation T k)⟩ :=
  (hs.readsAsOne_negated hS j).connection (ht.readsAsOne_negated hT k) hu.toIsBooleanOperator
    (mt (mixesParameters_negated_append j k s t).1 hunmixed)

end IsAccepted

/-! ### Texts -/

section

variable {x y : String} {n : Node} {clause : Option String} {ctx : Context}

/-- The tokens of a text that compiles to a boolean tree are accepted with this tree. Without tokens
    the tree would be the constant true, which is no operator. -/
theorem isAccepted_of_ofText (h : (Compiled.ofText .standard x clause).tree = .ok n)
    (hresult : n.result = some .boolean) : IsAccepted (standard.tokenize x) n := by
  have hne : standard.tokenize x ≠ [] := by
    intro hnil
    obtain rfl := eq_alwaysTrue_of_ofText h hnil
    cases hresult
  exact isAccepted_of_buildTree hne (fun t ht => isPlain_of_mem_tokenize ht) h

/-- A text whose tokens are accepted matches what their tree matches. -/
theorem test_of_isAccepted (h : IsAccepted (standard.tokenize x) n) :
    (Compiled.ofText .standard x clause).test ctx = n.holds ctx := by
  rw [Compiled.test, Compiled.ofText]
  simp only [h.buildTree_eq]

/-- A condition that mixes both forms of parameters matches nothing. -/
theorem test_of_mixesParameters (h : MixesParameters (standard.tokenize x)) :
    (Compiled.ofText .standard x clause).test ctx = (.ok false, ctx.patterns) := by
  rw [Compiled.test]
  cases htree : (Compiled.ofText .standard x clause).tree with
  | error e => rfl
  | ok n =>
    have hne : standard.tokenize x ≠ [] := by
      intro hnil
      rw [hnil] at h
      obtain ⟨⟨t, ht, -⟩, -⟩ := h
      cases ht
    have haccepted := isAccepted_of_buildTree hne (fun t ht => isPlain_of_mem_tokenize ht) htree
    exact absurd h haccepted.not_mixesParameters

variable {s t : List Token} {S T : Node} {u v : Token} {f g : Bool → Bool → Bool}

/-- Lists of tokens that are the two sides of a law of De Morgan give the same result. If the operands
    have parameters of different forms, both match nothing. -/
theorem test_eq_of_dual (hs : IsAccepted s S) (ht : IsAccepted t T) (hS : S.result = some .boolean)
    (hT : T.result = some .boolean) (hu : u.Connects f) (hv : v.Connects g)
    (hdual : ∀ a b, (!f a b) = g (!a) (!b))
    (hx : standard.tokenize x = negated 1 (negated 0 s ++ u :: negated 0 t))
    (hy : standard.tokenize y = negated 0 (negated 1 s) ++ v :: negated 0 (negated 1 t)) :
    (Compiled.ofText .standard x clause).test ctx =
      (Compiled.ofText .standard y clause).test ctx := by
  -- Where the parameters are mixed, neither side has a tree; else both do, and the law is that of
  -- the trees.
  by_cases hmixed : MixesParameters (s ++ t)
  · have hx' : MixesParameters (standard.tokenize x) := by
      rwa [hx, mixesParameters_negated, hu.mixesParameters_iff, mixesParameters_negated_append]
    have hy' : MixesParameters (standard.tokenize y) := by
      rwa [hy, hv.mixesParameters_iff, mixesParameters_negated_append,
        mixesParameters_negated_append]
    rw [test_of_mixesParameters hx', test_of_mixesParameters hy']
  · have hmixed' : ¬MixesParameters (negated 1 s ++ negated 1 t) :=
      mt (mixesParameters_negated_append 1 1 s t).1 hmixed
    have hx' := (hs.connected (j := 0) (k := 0) ht hS hT hu hmixed).negated hu.result 1
    have hy' := (hs.negated hS 1).connected (j := 0) (k := 0) (ht.negated hT 1) rfl rfl hv hmixed'
    rw [test_of_isAccepted (hx ▸ hx'), test_of_isAccepted (hy ▸ hy')]
    exact Node.holds_negation_connection Token.isNegation_negation hu hv hdual S T ctx

variable {a b word word' middle middle' : String}

/-- The two sides of a law of De Morgan as texts, with the words for the connectives. -/
theorem test_eq_of_dual_texts (hS : (Compiled.ofText .standard a clause).tree = .ok S)
    (hT : (Compiled.ofText .standard b clause).tree = .ok T) (hS' : S.result = some .boolean)
    (hT' : T.result = some .boolean) (ha : ¬standard.Unterminated a)
    (hb : ¬standard.Unterminated b) (hu : u.Connects f) (hv : v.Connects g)
    (hdual : ∀ a b, (!f a b) = g (!a) (!b)) (hword : IsFixed word [u])
    (hword' : IsFixed word' [v]) (hmiddle : ")" ++ (word ++ "(") = middle)
    (hmiddle' : "))" ++ (word' ++ "(NOT (") = middle') :
    (Compiled.ofText .standard ("NOT ((" ++ a ++ middle ++ b ++ "))") clause).test ctx =
      (Compiled.ofText .standard ("(NOT (" ++ a ++ middle' ++ b ++ "))") clause).test ctx := by
  subst hmiddle hmiddle'
  have hback : IsFixed "))" [.closing, .closing] :=
    Token.isFixed_closing.append Token.isFixed_closing
  have hends (rest : List Char) : standard.EndsRuns ("))".toList ++ rest) := endsRuns_closing _
  have hopened : IsFixed "(NOT (" [.opening, .negation, .opening] :=
    Token.isFixed_opening.append (Token.isFixed_negation.append Token.isFixed_opening)
  have hx := tokenize_framed_two (Token.isFixed_negation.append
      (Token.isFixed_opening.append Token.isFixed_opening)) ha
    (Token.isFixed_closing.append (hword.append Token.isFixed_opening)) hb hback
    (fun rest => by rw [String.toList_append]; exact endsRuns_closing _) hends
  have hy := tokenize_framed_two hopened ha (hback.append (hword'.append hopened)) hb hback
    (fun rest => by rw [String.toList_append]; exact endsRuns_closing _) hends
  -- The wildcards of the second condition are counted on from those of the first, which changes
  -- nothing but literals.
  refine test_eq_of_dual (isAccepted_of_ofText hS hS') ((isAccepted_of_ofText hT hT').map
    (Token.changesLiterals_advance (wildCards (standard.tokenize a)))) hS' ?_ hu hv hdual
    (hx.trans ?_) (hy.trans ?_)
  · rw [Node.result_mapTokens (Token.changesLiterals_advance _), hT']
  · simp [negated]
  · simp [negated]

/-- The text of negations is read as that many tokens before the condition in parentheses. -/
theorem tokenize_negations (ha : ¬standard.Unterminated a) (k : ℕ) :
    standard.tokenize (String.join (List.replicate k "NOT ") ++ "(" ++ a ++ ")") =
      negated k (standard.tokenize a) := by
  have hwords : IsFixed (String.join (List.replicate k "NOT ")) (List.replicate k .negation) := by
    induction k with
    | zero => exact .empty
    | succ k ih =>
      rw [List.replicate_succ, String.join_cons]
      exact Token.isFixed_negation.append ih
  rw [tokenize_framed (hwords.append Token.isFixed_opening) ha Token.isFixed_closing
    fun _ => endsRuns_closing _]
  simp [negated]

end

/-- For conditions that compile to boolean trees, without an enclosed text that is never closed, the
    laws of De Morgan hold of their texts, on every record and with all parameters, also where an
    operand fails. A condition after several negations gives the error of the condition, or its
    result if they are even in number, and else the opposite. -/
theorem test_deMorgan {a b : String} {clause : Option String} {S T : Node}
    (hS : (Compiled.ofText .standard a clause).tree = .ok S)
    (hT : (Compiled.ofText .standard b clause).tree = .ok T) (hS' : S.result = some .boolean)
    (hT' : T.result = some .boolean) (ha : ¬standard.Unterminated a)
    (hb : ¬standard.Unterminated b) (ctx : Context) :
    let test (text : String) := (Compiled.ofText .standard text clause).test ctx
    test ("NOT ((" ++ a ++ ") AND (" ++ b ++ "))") =
        test ("(NOT (" ++ a ++ ")) OR (NOT (" ++ b ++ "))") ∧
      test ("NOT ((" ++ a ++ ") OR (" ++ b ++ "))") =
        test ("(NOT (" ++ a ++ ")) AND (NOT (" ++ b ++ "))") ∧
      ∀ n : ℕ, test (String.join (List.replicate n "NOT ") ++ "(" ++ a ++ ")") =
        ((test a).1.map fun holds => if Even n then holds else !holds, (test a).2) := by
  intro test
  refine ⟨?_, ?_, fun n => ?_⟩
  · exact test_eq_of_dual_texts hS hT hS' hT' ha hb Token.connects_conjunction
      Token.connects_disjunction Bool.not_and Token.isFixed_conjunction Token.isFixed_disjunction
      rfl rfl
  · exact test_eq_of_dual_texts hS hT hS' hT' ha hb Token.connects_disjunction
      Token.connects_conjunction Bool.not_or Token.isFixed_disjunction Token.isFixed_conjunction
      rfl rfl
  · have haccepted := isAccepted_of_ofText hS hS'
    have hnegated := haccepted.negated hS' n
    rw [← tokenize_negations ha] at hnegated
    simp only [test, test_of_isAccepted haccepted, test_of_isAccepted hnegated]
    exact Node.holds_negations Token.isNegation_negation S ctx n

/-- Of `a = %@` and `b = %@` with one value supplied. The second wildcard of both sides is missing, and
    three negations give the opposite. -/
theorem test_deMorgan_one_value :
    let record : Record := ⟨fun _ => .integer 1, .integer 0, none⟩
    let ctx : Context := { record := record, params := .positional [.integer 1] }
    let test (text : String) := (Compiled.ofText .standard text none).test ctx
    (∃ S, (Compiled.ofText .standard "a = %@" none).tree = .ok S ∧ S.result = some .boolean) ∧
      ¬standard.Unterminated "a = %@" ∧ ¬standard.Unterminated "b = %@" ∧
      test "NOT ((a = %@) AND (b = %@))" = test "(NOT (a = %@)) OR (NOT (b = %@))" ∧
      test "NOT NOT NOT (a = %@)" = (.ok false, none) := by
  intro record ctx test
  let equal : Token := ⟨described "equals", .text "="⟩
  let wildCard : Token := ⟨described "wild_card", .position 0⟩
  let property (name : String) : Token := ⟨described "record_property", .text name⟩
  let tree (name : String) : Node := ⟨equal, some (.ofToken (property name)), some (.ofToken wildCard)⟩
  have hbuild (name : String) : buildTree [property name, equal, wildCard] = .ok (tree name) := by
    have hunmixed : ¬MixesParameters (tree name).tokens := by
      rintro ⟨-, t, ht, hk⟩
      have ht : t ∈ [property name, equal, wildCard] := ht
      simp only [List.mem_cons, List.not_mem_nil, or_false] at ht
      rcases ht with rfl | rfl | rfl <;> cases hk
    have hcondition : Condition [property name, equal, wildCard] (tree name) :=
      .chain (.clause (.comparison (.leaf ⟨rfl, rfl, rfl, rfl⟩) ⟨rfl, rfl, rfl, rfl⟩
        (.leaf ⟨rfl, rfl, rfl, rfl⟩)))
    exact hcondition.buildTree_eq hunmixed
  have hS : (Compiled.ofText .standard "a = %@" none).tree = .ok (tree "a") := by
    have htokens : standard.tokenize "a = %@" = [property "a", equal, wildCard] :=
      (Lexer.ReadsTo.cons rfl (.cons rfl (.cons rfl .nil))).tokens_of_end rfl
    rw [Compiled.ofText, htokens, hbuild]
  have hT : (Compiled.ofText .standard "b = %@" none).tree = .ok (tree "b") := by
    have htokens : standard.tokenize "b = %@" = [property "b", equal, wildCard] :=
      (Lexer.ReadsTo.cons rfl (.cons rfl (.cons rfl .nil))).tokens_of_end rfl
    rw [Compiled.ofText, htokens, hbuild]
  have ha : ¬standard.Unterminated "a = %@" := not_unterminated rfl
  have hb : ¬standard.Unterminated "b = %@" := not_unterminated rfl
  obtain ⟨hconjunction, -, hnegations⟩ := test_deMorgan hS hT rfl rfl ha hb ctx
  have hvalue : test "a = %@" = (.ok true, none) := by
    simp only [test, Compiled.test, hS, Node.holds, Node.evaluate, Node.fold_eq_recurse,
      Node.recurse_eq]
    rfl
  refine ⟨⟨tree "a", hS, rfl⟩, ha, hb, hconjunction, (hnegations 3).trans ?_⟩
  show ((test "a = %@").1.map _, (test "a = %@").2) = _
  rw [hvalue]
  rfl

end RecordQuery
