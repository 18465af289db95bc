import RecordQuery.Grammar.Standard
import RecordQuery.Proofs.Builder.Step

/-!
# Conditions and their trees

The grammar of conditions, each derivation with the tree it stands for:

* an *operand* is a leaf, or an operand in parentheses;
* a *clause* is a comparison of two operands, a test of one operand, a negated clause, or a chain
  in parentheses;
* a *chain* is a clause, or a chain, a connective and a clause;
* a *condition* is an operand or a chain.

So comparators and negations bind tighter than connectives, and connectives have one precedence and
group to the left. The builder knows none of this: it only ever combines the last two trees on its
stack. It builds the tree of every condition (`buildTree_of_condition`), since wherever an operand
or a clause stands, reading it has the effect of putting its tree on the stack at once
(`Operand.foldl_accept`, `Clause.foldl_accept`), and reading a chain puts its tree on any stack that
awaits nothing (`Chain.foldl_accept`).
-/

namespace RecordQuery

/-- An opening parenthesis that is nothing else. -/
structure Token.IsOpening (t : Token) : Prop where
  kind : t.kind = .openParen
  inert : t.descriptor.IsInert

/-- A closing parenthesis that is nothing else. -/
structure Token.IsClosing (t : Token) : Prop where
  kind : t.kind = .closeParen
  inert : t.descriptor.IsInert

namespace Condition

/-- The tokens of an operand, with its tree. -/
inductive Operand : List Token → Node → Prop
  /-- A token that takes no operand. -/
  | leaf {t : Token} : t.HasSignature none none .primitive → Operand [t] ⟨t, none, none⟩
  /-- An operand in parentheses. -/
  | parens {o c : Token} {ts : List Token} {n : Node} :
      o.IsOpening → Operand ts n → c.IsClosing → Operand (o :: (ts ++ [c])) n

mutual

/-- The tokens of a clause, with its tree. -/
inductive Clause : List Token → Node → Prop
  /-- A comparator between two operands. -/
  | comparison {o : Token} {ts us : List Token} {m n : Node} :
      Operand ts m → o.HasSignature (some .primitive) (some .primitive) .boolean →
        Operand us n → Clause (ts ++ o :: us) ⟨o, some m, some n⟩
  /-- A comparator before its only operand. -/
  | test {o : Token} {us : List Token} {n : Node} :
      o.HasSignature none (some .primitive) .boolean → Operand us n →
        Clause (o :: us) ⟨o, none, some n⟩
  /-- A negation before a clause. -/
  | negation {o : Token} {us : List Token} {n : Node} :
      o.HasSignature none (some .boolean) .boolean → Clause us n →
        Clause (o :: us) ⟨o, none, some n⟩
  /-- A chain in parentheses. -/
  | parens {o c : Token} {ts : List Token} {n : Node} :
      o.IsOpening → Chain ts n → c.IsClosing → Clause (o :: (ts ++ [c])) n

/-- The tokens of a chain of clauses, with its tree. -/
inductive Chain : List Token → Node → Prop
  /-- A single clause. -/
  | clause {ts : List Token} {n : Node} : Clause ts n → Chain ts n
  /-- A connective between a chain and a clause. -/
  | connection {o : Token} {ts us : List Token} {m n : Node} :
      Chain ts m → o.HasSignature (some .boolean) (some .boolean) .boolean →
        Clause us n → Chain (ts ++ o :: us) ⟨o, some m, some n⟩

end

end Condition

/-- The tokens of a condition, with its tree. -/
inductive Condition : List Token → Node → Prop
  /-- An operand alone. -/
  | operand {ts : List Token} {n : Node} : Condition.Operand ts n → Condition ts n
  /-- A chain of clauses. -/
  | chain {ts : List Token} {n : Node} : Condition.Chain ts n → Condition ts n

namespace Condition

variable {ts : List Token} {n : Node}

/-! ### The tree of a derivation -/

/-- An operand is a complete tree with a primitive value. -/
theorem Operand.isReady (h : Operand ts n) : n.IsReady .primitive := by
  induction h with
  | leaf ht => exact Node.isReady_mk ht rfl rfl
  | parens _ _ _ ih => exact ih

mutual

/-- A clause is a complete tree with a boolean value. -/
theorem Clause.isReady {ts : List Token} {n : Node} : Clause ts n → n.IsReady .boolean
  | .comparison _ ho _ => Node.isReady_mk ho rfl rfl
  | .test ho _ => Node.isReady_mk ho rfl rfl
  | .negation ho _ => Node.isReady_mk ho rfl rfl
  | .parens _ h _ => h.isReady

theorem Chain.isReady {ts : List Token} {n : Node} : Chain ts n → n.IsReady .boolean
  | .clause h => h.isReady
  | .connection _ ho _ => Node.isReady_mk ho rfl rfl

end

/-- Every node of a tree has its operands, and its token is one of those read. -/
def Whole (ts : List Token) (n : Node) : Prop :=
  ∀ m ∈ n.inorder, m.isIncomplete = false ∧ m.token ∈ ts

theorem Whole.mono {us : List Token} (h : Whole ts n) (hs : ts ⊆ us) : Whole us n :=
  fun m hm => ⟨(h m hm).1, hs (h m hm).2⟩

/-- A node that is ready is whole if its operands are. -/
theorem whole_mk {t : Token} {l r : Option Node} {ty : EvalType} (ht : t ∈ ts)
    (h : Node.IsReady ⟨t, l, r⟩ ty) (hl : ∀ c, l = some c → Whole ts c)
    (hr : ∀ c, r = some c → Whole ts c) : Whole ts ⟨t, l, r⟩ := by
  intro m hm
  rcases Node.mem_inorder_iff.1 hm with rfl | ⟨_ | _, c, hc, hm⟩
  · exact ⟨h.isIncomplete_eq_false, ht⟩
  · exact hl c hc m hm
  · exact hr c hc m hm

/-- The tree of an operand is whole over its tokens, whatever parentheses are around it. -/
theorem Operand.whole (h : Operand ts n) : Whole ts n := by
  induction h with
  | leaf ht =>
    exact whole_mk (by simp) (Node.isReady_mk ht rfl rfl) (by rintro _ ⟨⟩) (by rintro _ ⟨⟩)
  | parens _ _ _ ih => exact ih.mono (by simp)

mutual

/-- The tree of a clause is whole, because its parts are. -/
theorem Clause.whole {ts : List Token} {n : Node} : Clause ts n → Whole ts n
  | .comparison hl ho hr =>
    whole_mk (by simp) (Node.isReady_mk ho rfl rfl)
      (by rintro _ ⟨⟩; exact hl.whole.mono (by simp))
      (by rintro _ ⟨⟩; exact hr.whole.mono (by simp))
  | .test ho hr =>
    whole_mk (by simp) (Node.isReady_mk ho rfl rfl) (by rintro _ ⟨⟩)
      (by rintro _ ⟨⟩; exact hr.whole.mono (by simp))
  | .negation ho hr =>
    whole_mk (by simp) (Node.isReady_mk ho rfl rfl) (by rintro _ ⟨⟩)
      (by rintro _ ⟨⟩; exact hr.whole.mono (by simp))
  | .parens _ h _ => h.whole.mono (by simp)

/-- So is the tree of a chain. -/
theorem Chain.whole {ts : List Token} {n : Node} : Chain ts n → Whole ts n
  | .clause h => h.whole
  | .connection hl ho hr =>
    whole_mk (by simp) (Node.isReady_mk ho rfl rfl)
      (by rintro _ ⟨⟩; exact hl.whole.mono (by simp))
      (by rintro _ ⟨⟩; exact hr.whole.mono (by simp))

end

/-! ### Reading a derivation -/

open Builder

/-- Wherever an operand stands, reading it puts its tree on the stack and lets it settle. -/
theorem Operand.foldl_accept (h : Operand ts n) (b : Builder) :
    ts.foldl accept b = (b.push n).settle := by
  induction h generalizing b with
  | leaf ht => rfl
  | @parens o c ts n ho h hc ih =>
    have hn := h.isReady
    calc (o :: (ts ++ [c])).foldl accept b
        = (ts.foldl accept (b.accept o)).accept c := by simp
      _ = ((b.pushOpening o).push n).settle.accept c := by
          rw [accept_opening ho.kind ho.inert, ih]
      _ = ((b.pushOpening o).push n).accept c := by
          rw [settle_push_of_not_awaits hn (awaits_pushOpening ho.inert)]
      _ = (b.push n).settle := accept_closing hc.kind hn.ordinary

mutual

/-- Wherever no operand is awaited, reading a clause puts its tree on the stack and lets it
    settle. -/
theorem Clause.foldl_accept {ts : List Token} {n : Node} (h : Clause ts n) (b : Builder)
    (hb : b.awaits .primitive = false) : ts.foldl accept b = (b.push n).settle := by
  match h with
  | @Clause.comparison o ts us m n hl ho hr =>
    -- Nothing on the stack awaits the left operand, so it stays where the operator finds it.
    calc (ts ++ o :: us).foldl accept b
        = us.foldl accept ((ts.foldl accept b).accept o) := by simp
      _ = us.foldl accept ((b.push m).accept o) := by
          rw [hl.foldl_accept, settle_push_of_not_awaits hl.isReady hb]
      _ = ((b.push ⟨o, some m, none⟩).push n).settle := by
          rw [accept_binary ho hl.isReady, hr.foldl_accept]
      _ = (b.push ⟨o, some m, some n⟩).settle := settle_push_operand ho hr.isReady
  | @Clause.test o us n ho hr =>
    calc (o :: us).foldl accept b
        = us.foldl accept (b.accept o) := rfl
      _ = ((b.push ⟨o, none, none⟩).push n).settle := by rw [accept_unary ho, hr.foldl_accept]
      _ = (b.push ⟨o, none, some n⟩).settle := settle_push_operand ho hr.isReady
  | @Clause.negation o us n ho hr =>
    -- The negation on the stack awaits a boolean, so the operands of the clause leave it alone.
    have hb' : (b.push ⟨o, none, none⟩).awaits .primitive = false := awaits_push ho (by decide)
    calc (o :: us).foldl accept b
        = us.foldl accept (b.accept o) := rfl
      _ = ((b.push ⟨o, none, none⟩).push n).settle := by
          rw [accept_unary ho, hr.foldl_accept _ hb']
      _ = (b.push ⟨o, none, some n⟩).settle := settle_push_operand ho hr.isReady
  | @Clause.parens o c ts n ho h hc =>
    calc (o :: (ts ++ [c])).foldl accept b
        = (ts.foldl accept (b.accept o)).accept c := by simp
      _ = ((b.pushOpening o).push n).accept c := by
          rw [accept_opening ho.kind ho.inert, h.foldl_accept _ fun _ => awaits_pushOpening ho.inert]
      _ = (b.push n).settle := accept_closing hc.kind h.isReady.ordinary

/-- Wherever nothing is awaited, reading a chain puts its tree on the stack. -/
theorem Chain.foldl_accept {ts : List Token} {n : Node} (h : Chain ts n) (b : Builder)
    (hb : ∀ ty, b.awaits ty = false) : ts.foldl accept b = b.push n := by
  match h with
  | .clause h =>
    rw [h.foldl_accept b (hb _), settle_push_of_not_awaits h.isReady (hb _)]
  | @Chain.connection o ts us m n hl ho hr =>
    -- The chain on the left is the whole of what stands below the connective: this is what groups
    -- connectives to the left.
    have hb' : (b.push ⟨o, some m, none⟩).awaits .primitive = false := awaits_push ho (by decide)
    calc (ts ++ o :: us).foldl accept b
        = us.foldl accept ((ts.foldl accept b).accept o) := by simp
      _ = us.foldl accept (b.push ⟨o, some m, none⟩) := by
          rw [hl.foldl_accept b hb, accept_binary ho hl.isReady]
      _ = ((b.push ⟨o, some m, none⟩).push n).settle := hr.foldl_accept _ hb'
      _ = (b.push ⟨o, some m, some n⟩).settle := settle_push_operand ho hr.isReady
      _ = b.push ⟨o, some m, some n⟩ :=
          settle_push_of_not_awaits (Node.isReady_mk ho rfl rfl) (hb _)

end

end Condition

/-! ### Conditions -/

namespace Condition

variable {ts : List Token} {n : Node}

/-- The tree of a condition is whole, whatever form it has. -/
theorem whole (h : Condition ts n) : Whole ts n := by
  cases h with
  | operand h => exact h.whole
  | chain h => exact h.whole

theorem ne_nil (h : Condition ts n) : ts ≠ [] := by
  rintro rfl
  exact absurd (h.whole n n.self_mem_inorder).2 (by simp)

/-- Reading a condition from the start leaves its tree alone on the stack. -/
theorem foldl_accept (h : Condition ts n) : ts.foldl Builder.accept {} = Builder.push {} n := by
  have hb (ty : EvalType) : Builder.awaits {} ty = false := rfl
  cases h with
  | operand h => rw [h.foldl_accept, Builder.settle_push_of_not_awaits h.isReady (hb _)]
  | chain h => exact h.foldl_accept _ hb

end Condition

/-- The builder builds the tree of every condition that does not mix wildcards and named
    parameters. -/
theorem buildTree_of_condition {ts : List Token} {n : Node} (h : Condition ts n)
    (hmixed : ¬((∃ t ∈ ts, t.kind = .wildCard) ∧ ∃ t ∈ ts, t.kind = .parameter)) :
    buildTree ts = .ok n := by
  obtain ⟨t, us, rfl⟩ := List.exists_cons_of_ne_nil h.ne_nil
  have hfaults : Builder.faults n = [] := by
    refine Builder.faults_eq_nil_iff.2 ⟨fun m hm => (h.whole m hm).1, ?_⟩
    rintro ⟨⟨m, hm, hw⟩, m', hm', hp⟩
    exact hmixed ⟨⟨m.token, (h.whole m hm).2, hw⟩, m'.token, (h.whole m' hm').2, hp⟩
  rw [buildTree, h.foldl_accept]
  · exact Builder.finish_eq_ok_iff.2 ⟨rfl, rfl, rfl, rfl, hfaults⟩
  · simp

/-- The tree of `NOT (a = 1 OR a = 1) AND a = 1`. -/
theorem buildTree_negation_and :
    let a : Token := ⟨{ kind := .property, result := some .primitive }, .text "a"⟩
    let one : Token := ⟨{ kind := .number, result := some .primitive }, .integer 1⟩
    let eq : Token := ⟨.comparator "=" .equal, .text "="⟩
    let or : Token := ⟨.booleanOperator "OR" .or, .text "OR"⟩
    let and : Token := ⟨.booleanOperator "AND" .and, .text "AND"⟩
    let not : Token := ⟨{ Descriptor.booleanOperator "NOT" .not with left := none }, .text "NOT"⟩
    let opening : Token := ⟨{ kind := .openParen }, .text "("⟩
    let closing : Token := ⟨{ kind := .closeParen }, .text ")"⟩
    let tokens := [not, opening, a, eq, one, or, a, eq, one, closing, and, a, eq, one]
    let test : Node := ⟨eq, some ⟨a, none, none⟩, some ⟨one, none, none⟩⟩
    let tree : Node := ⟨and, some ⟨not, none, some ⟨or, some test, some test⟩⟩, some test⟩
    Condition tokens tree ∧
      ¬((∃ t ∈ tokens, t.kind = .wildCard) ∧ ∃ t ∈ tokens, t.kind = .parameter) ∧
      buildTree tokens = .ok tree := by
  intro a one eq or and not opening closing tokens test tree
  have hmixed : ¬((∃ t ∈ tokens, t.kind = .wildCard) ∧ ∃ t ∈ tokens, t.kind = .parameter) := by
    simp [tokens, a, one, eq, or, and, not, opening, closing, Token.kind, Descriptor.comparator,
      Descriptor.booleanOperator]
  have htest : Condition.Clause [a, eq, one] test :=
    .comparison (.leaf ⟨rfl, rfl, rfl, rfl⟩) ⟨rfl, rfl, rfl, rfl⟩ (.leaf ⟨rfl, rfl, rfl, rfl⟩)
  have hor : Condition.Chain [a, eq, one, or, a, eq, one] ⟨or, some test, some test⟩ :=
    .connection (.clause htest) ⟨rfl, rfl, rfl, rfl⟩ htest
  have hnot : Condition.Clause [not, opening, a, eq, one, or, a, eq, one, closing]
      ⟨not, none, some ⟨or, some test, some test⟩⟩ :=
    .negation ⟨rfl, rfl, rfl, rfl⟩ (.parens ⟨rfl, rfl, rfl, rfl⟩ hor ⟨rfl, rfl, rfl, rfl⟩)
  have h : Condition tokens tree := .chain (.connection (.clause hnot) ⟨rfl, rfl, rfl, rfl⟩ htest)
  exact ⟨h, hmixed, buildTree_of_condition h hmixed⟩

end RecordQuery
