import Mathlib.Logic.Basic
import RecordQuery.Proofs.Builder.Derivation
import RecordQuery.Proofs.Builder.Soundness

/-!
# Conditions in parentheses

A list of tokens that the builder accepts is read in the same way inside parentheses, wherever these
stand. The opening parenthesis takes the place of the bottom of the stack: nothing combines with it,
so the builder does above it what it does alone (`Builder.foldl_accept_above`), with all places
further up. This holds of every list that is accepted, also of one that is no condition of the
grammar.

So in parentheses a boolean list always has the same effect: its tree is put on the stack and
settles (`ReadsAsOne`). A negation before such a list makes another one, and a connective between two
of them a list that is accepted.

* `MixesParameters`: the one thing that can still be wrong with a tree in which nothing is missing.
* `IsAccepted`, `ReadsAsOne`: lists that are accepted, and lists that are read as one.
-/

namespace RecordQuery

/-- Wildcards and named parameters beside each other. -/
def MixesParameters (ts : List Token) : Prop :=
  (∃ t ∈ ts, t.kind = .wildCard) ∧ ∃ t ∈ ts, t.kind = .parameter

instance (ts : List Token) : Decidable (MixesParameters ts) :=
  inferInstanceAs (Decidable (_ ∧ _))

/-- Mixing both forms of parameters depends only on the parameters. -/
theorem mixesParameters_congr {ts us : List Token}
    (h : ∀ t, t.kind = .wildCard ∨ t.kind = .parameter → (t ∈ ts ↔ t ∈ us)) :
    MixesParameters ts ↔ MixesParameters us := by
  refine and_congr (exists_congr fun t => ?_) (exists_congr fun t => ?_)
  · exact and_congr_left fun hk => h t (.inl hk)
  · exact and_congr_left fun hk => h t (.inr hk)

theorem mixesParameters_withoutParentheses {ts : List Token} :
    MixesParameters (withoutParentheses ts) ↔ MixesParameters ts := by
  refine mixesParameters_congr fun t ht => ?_
  have hother : t.isParenthesis = false := by
    rcases ht with hk | hk <;> simp [Token.isParenthesis, hk]
  simp [withoutParentheses, List.mem_filter, hother]

theorem Node.mixesParameters_tokens {n : Node} : MixesParameters n.tokens ↔
    (∃ m ∈ n.inorder, m.kind = .wildCard) ∧ ∃ m ∈ n.inorder, m.kind = .parameter := by
  simp [MixesParameters, tokens, Node.kind]

namespace Node

variable {n p : Node}

/-- Nothing is missing in a tree if nothing is missing at its root and in its operands. -/
theorem isComplete_mk {t : Token} {l r : Option Node} (h : isIncomplete ⟨t, l, r⟩ = false)
    (hl : ∀ c, l = some c → ∀ m ∈ c.inorder, m.isIncomplete = false)
    (hr : ∀ c, r = some c → ∀ m ∈ c.inorder, m.isIncomplete = false) :
    ∀ m ∈ inorder ⟨t, l, r⟩, m.isIncomplete = false := by
  intro m hm
  rcases mem_inorder_iff.1 hm with rfl | ⟨_ | _, c, hc, hm⟩
  · exact h
  · exact hl c hc m hm
  · exact hr c hc m hm

/-- An inert node misses no operand. -/
theorem isMissing_of_isInert (h : n.descriptor.IsInert) (side : Side) :
    n.isMissing side = false := by
  cases side
  · rw [isMissing_left, h.left]; rfl
  · rw [isMissing_right, h.right]; rfl

/-- An inert node is no operand. -/
theorem fits_of_isInert (h : n.descriptor.IsInert) (side : Side) : p.fits side n = false := by
  rw [fits, show n.result = none from h.result]
  cases p.descriptor.expected side <;> rfl

end Node

namespace Builder

variable {b base : Builder} {n o : Node} {t : Token} {ts : List Token}

/-! ### Reasons -/

/-- Adopting finds no reason against a tree. -/
theorem reasons_adoptLeft (b : Builder) : b.adoptLeft.reasons = b.reasons := by
  rw [adoptLeft]
  split
  · split <;> rfl
  · rfl

theorem reasons_adoptRight (b : Builder) : b.adoptRight.1.reasons = b.reasons := by
  rw [adoptRight]
  split
  · split <;> rfl
  · rfl

/-- Closing finds one only if nothing is open. -/
theorem reasons_closeParenthesis (b : Builder) : b.closeParenthesis.reasons =
    if b.opened = [] then .unmatchedClosing :: b.reasons else b.reasons := by
  rw [closeParenthesis]
  dsimp only
  split
  · rename_i h
    simp [h]
  · rename_i h
    rw [removeAbove]
    split <;> simp [h]

/-- Entering a node keeps the reasons, and finds one if the node is a closing parenthesis that was
    never opened. -/
theorem reasons_enter (b : Builder) (n : Node) (h : (b.enter n).reasons = []) :
    b.reasons = [] ∧ (n.kind = .closeParen → b.opened ≠ []) := by
  rw [enter] at h
  split at h
  · cases h
  · simp_all
  · rw [reasons_closeParenthesis] at h
    split at h
    · cases h
    · simp_all
  · simp_all

/-- Reasons are never taken back by an examination. -/
theorem reasons_examine (h : b.examine.1.reasons = []) : b.reasons = [] := by
  rw [examine] at h
  split at h
  · exact h
  · rw [reasons_adoptRight, reasons_adoptLeft] at h
    exact (reasons_enter b _ h).1

/-- Reasons are never taken back. -/
theorem reasons_settle (h : b.settle.reasons = []) : b.examine.1.reasons = [] := by
  fun_induction settle b with
  | case1 b _ ih => exact reasons_examine (ih h)
  | case2 b _ => exact h

theorem reasons_accept (h : (b.accept t).reasons = []) : b.reasons = [] :=
  reasons_examine (b := b.push (.ofToken t)) (reasons_settle h)

/-- A list that is read without a reason had none before it was read. -/
theorem reasons_foldl_accept (h : (ts.foldl accept b).reasons = []) : b.reasons = [] := by
  induction ts generalizing b with
  | nil => exact h
  | cons t ts ih => exact reasons_accept (ih h)

/-! ### Heights -/

/-- The height of the stack is known. -/
def IsMeasured (b : Builder) : Prop := b.height = b.stack.length

/-- Closing counts the one or two nodes that it takes away. -/
theorem IsMeasured.closeParenthesis (h : b.IsMeasured) (hs : b.stack ≠ []) :
    b.closeParenthesis.IsMeasured := by
  obtain ⟨stack, height, opened, reasons, lost⟩ := b
  obtain ⟨n, rest, rfl⟩ := List.exists_cons_of_ne_nil hs
  obtain rfl : height = rest.length + 1 := h
  rw [Builder.closeParenthesis]
  cases opened with
  | nil => rfl
  | cons below places =>
    simp only [removeAbove]
    split
    · simp only [IsMeasured, List.length_eraseIdx, List.tail_cons]
      grind
    · rfl

/-- Entering keeps the count of the stack right. -/
theorem IsMeasured.enter (h : b.IsMeasured) (hs : b.stack ≠ []) (n : Node) :
    (b.enter n).IsMeasured := by
  rw [Builder.enter]
  split
  · exact h
  · exact h
  · exact h.closeParenthesis hs
  · exact h

/-- An adopted node is no longer counted. -/
theorem IsMeasured.adoptLeft (h : b.IsMeasured) : b.adoptLeft.IsMeasured := by
  rw [Builder.adoptLeft]
  split
  · rename_i hs
    rw [IsMeasured, hs] at h
    split
    · simp [IsMeasured, h]
    · simp [IsMeasured, h, hs]
  · exact h

theorem IsMeasured.adoptRight (h : b.IsMeasured) : b.adoptRight.1.IsMeasured := by
  rw [Builder.adoptRight]
  split
  · rename_i hs
    rw [IsMeasured, hs] at h
    split
    · simp [IsMeasured, h]
    · simp [IsMeasured, h, hs]
  · exact h

theorem IsMeasured.examine (h : b.IsMeasured) : b.examine.1.IsMeasured := by
  rw [Builder.examine]
  split
  · exact h
  · rename_i n rest hs
    exact (h.enter (by simp [hs]) n).adoptLeft.adoptRight

theorem IsMeasured.settle (h : b.IsMeasured) : b.settle.IsMeasured := by
  fun_induction Builder.settle b with
  | case1 b _ ih => exact ih h.examine
  | case2 b _ => exact h.examine

theorem isMeasured_empty : IsMeasured {} := rfl

theorem IsMeasured.push (h : b.IsMeasured) (n : Node) : (b.push n).IsMeasured :=
  congrArg (· + 1) h

/-- The count stays right however many tokens are read. -/
theorem IsMeasured.foldl_accept (h : b.IsMeasured) (ts : List Token) :
    (ts.foldl accept b).IsMeasured := by
  induction ts generalizing b with
  | nil => exact h
  | cons t ts ih => exact ih (h.push _).settle

/-! ### Builders on top of each other -/

/-- What a builder holds, on top of what another one holds. -/
def above (b base : Builder) : Builder where
  stack := b.stack ++ base.stack
  height := b.height + base.height
  opened := b.opened.map (· + base.height) ++ base.opened
  reasons := b.reasons ++ base.reasons
  lost := b.lost || base.lost

/-- The top of the stack is a parenthesis that is nothing else. -/
def IsShut (base : Builder) : Prop := ∃ o rest, base.stack = o :: rest ∧ o.descriptor.IsInert

/-- Nothing goes past an opening parenthesis that is inert. -/
theorem isShut_pushOpening (ht : t.descriptor.IsInert) : (b.pushOpening t).IsShut :=
  ⟨_, _, rfl, ht⟩

theorem above_empty (base : Builder) : above {} base = base := by simp [above]

/-- What is put on top of one builder is on top of both. -/
theorem push_above (b base : Builder) (n : Node) :
    (b.push n).above base = (b.above base).push n := by
  simp [above, push, Nat.add_right_comm]

/-- A parenthesis that was opened above is closed above. -/
theorem closeParenthesis_above (h : b.IsMeasured) (hs : b.stack ≠ []) (ho : b.opened ≠ []) :
    (b.above base).closeParenthesis = b.closeParenthesis.above base := by
  obtain ⟨stack, height, opened, reasons, lost⟩ := b
  obtain ⟨n, rest, rfl⟩ := List.exists_cons_of_ne_nil hs
  obtain ⟨below, places, rfl⟩ := List.exists_cons_of_ne_nil ho
  obtain rfl : height = rest.length + 1 := h
  have hheight : rest.length + 1 + base.height - 1 = rest.length + base.height := by omega
  simp only [closeParenthesis, above, List.cons_append, List.tail_cons, List.map_cons,
    Nat.add_sub_cancel, hheight, removeAbove]
  -- Places are counted from the bottom, so they move up by the height of the base.
  by_cases hbelow : below < rest.length
  · have hindex : rest.length + base.height - 1 - (below + base.height) =
        rest.length - 1 - below := by omega
    have hlt : rest.length - 1 - below < rest.length := by omega
    simp only [Nat.add_lt_add_iff_right, hbelow, if_true, hindex,
      List.eraseIdx_append_of_lt_length hlt]
    congr 1
    omega
  · simp [hbelow]

/-- Entering a node above a base leaves the base alone, if it finds no reason. -/
theorem enter_above (h : b.IsMeasured) (hs : b.stack ≠ []) (hr : (b.enter n).reasons = []) :
    (b.above base).enter n = (b.enter n).above base := by
  have hopened := (reasons_enter b n hr).2
  have hpos : b.height ≠ 0 := by rwa [h, ne_eq, List.length_eq_zero_iff]
  have hheight : b.height + base.height - 1 = b.height - 1 + base.height := by omega
  rw [enter, enter]
  split <;> rename_i hk
  · rfl
  · simp [above, hheight]
  · exact closeParenthesis_above h hs (hopened hk)
  · rfl

section

variable (hbase : base.IsShut)
include hbase

/-- No left operand is taken from a base that is shut. -/
theorem adoptLeft_above (h : b.IsMeasured) :
    (b.above base).adoptLeft = b.adoptLeft.above base := by
  obtain ⟨stack, height, opened, reasons, lost⟩ := b
  obtain ⟨o, bottom, hbottom, ho⟩ := hbase
  obtain rfl : height = stack.length := h
  -- The parenthesis is one of the two nodes on top only if there is at most one above it.
  match stack with
  | [] =>
    have hm : o.isMissing .left = false := Node.isMissing_of_isInert ho .left
    cases bottom <;> simp [above, adoptLeft, hbottom, hm]
  | [n] =>
    have hf : n.fits .left o = false := Node.fits_of_isInert ho .left
    simp [above, adoptLeft, hbottom, hf]
  | n :: before :: rest =>
    by_cases h : (n.isMissing .left && n.fits .left before) = true <;>
      simp [above, adoptLeft, h]

/-- No node of a base that is shut takes a right operand. -/
theorem adoptRight_above (h : b.IsMeasured) :
    (b.above base).adoptRight = (b.adoptRight.1.above base, b.adoptRight.2) := by
  obtain ⟨stack, height, opened, reasons, lost⟩ := b
  obtain ⟨o, bottom, hbottom, ho⟩ := hbase
  obtain rfl : height = stack.length := h
  match stack with
  | [] =>
    have hf (p : Node) : p.fits .right o = false := Node.fits_of_isInert ho .right
    cases bottom <;> simp [above, adoptRight, hbottom, hf]
  | [n] =>
    have hm : o.isMissing .right = false := Node.isMissing_of_isInert ho .right
    simp [above, adoptRight, hbottom, hm]
  | n :: before :: rest =>
    by_cases h : (!n.isIncomplete && before.isMissing .right && before.fits .right n) = true <;>
      simp [above, adoptRight, h]

omit hbase in
/-- What is examined again is on the stack. -/
theorem stack_ne_nil_of_examine (h : b.examine.2 = true) : b.examine.1.stack ≠ [] := by
  have hadopt (b : Builder) (h : b.adoptRight.2 = true) : b.adoptRight.1.stack ≠ [] := by
    rw [adoptRight] at h ⊢
    split at h
    · split at h <;> simp_all
    · cases h
  rw [examine] at h ⊢
  split at h
  · cases h
  · exact hadopt _ h

/-- What happens to the node on top of a stack does not depend on what the stack stands on. -/
theorem examine_above (h : b.IsMeasured) (hs : b.stack ≠ []) (hr : b.examine.1.reasons = []) :
    (b.above base).examine = (b.examine.1.above base, b.examine.2) := by
  obtain ⟨n, rest, hn⟩ := List.exists_cons_of_ne_nil hs
  have he : b.examine = (b.enter n).adoptLeft.adoptRight := by rw [examine, hn]
  have hentered : (b.enter n).reasons = [] := by
    rwa [he, reasons_adoptRight, reasons_adoptLeft] at hr
  have hmeasured := h.enter hs n
  calc (b.above base).examine
      = ((b.above base).enter n).adoptLeft.adoptRight := by simp [examine, above, hn]
    _ = ((b.enter n).adoptLeft.above base).adoptRight := by
        rw [enter_above h hs hentered, adoptLeft_above hbase hmeasured]
    _ = (b.examine.1.above base, b.examine.2) := by
        rw [adoptRight_above hbase hmeasured.adoptLeft, he]

/-- What settles by itself settles in the same way above a base. -/
theorem settle_above (h : b.IsMeasured) (hs : b.stack ≠ []) (hr : b.settle.reasons = []) :
    (b.above base).settle = b.settle.above base := by
  fun_induction settle b with
  | case1 b hagain ih =>
    have hexamine := examine_above hbase h hs (reasons_examine (reasons_settle hr))
    rw [settle_of_examine_again (hexamine.trans (by rw [hagain]))]
    exact ih h.examine (stack_ne_nil_of_examine hagain) hr
  | case2 b hagain =>
    have hexamine := examine_above hbase h hs hr
    rw [settle_of_examine (hexamine.trans (by rw [Bool.not_eq_true] at hagain; rw [hagain]))]

/-- A list that is read by itself is read in the same way above a base. -/
theorem foldl_accept_above (h : b.IsMeasured) (hr : (ts.foldl accept b).reasons = []) :
    ts.foldl accept (b.above base) = (ts.foldl accept b).above base := by
  induction ts generalizing b with
  | nil => rfl
  | cons t ts ih =>
    have hpush := h.push (.ofToken t)
    have haccept : (b.above base).accept t = (b.accept t).above base := by
      rw [accept_eq, ← push_above]
      exact settle_above hbase hpush (by simp [push]) (reasons_foldl_accept hr)
    rw [List.foldl_cons, haccept]
    exact ih hpush.settle hr

end

/-! ### Lists that are accepted -/

/-- A list that is accepted leaves its tree alone on the stack. -/
theorem foldl_accept_of_finish (h : (ts.foldl accept {}).finish = .ok n) :
    ts.foldl accept {} = push {} n := by
  have hheight := isMeasured_empty.foldl_accept ts
  obtain ⟨hlost, hreasons, hopened, hstack, -⟩ := finish_eq_ok_iff.1 h
  cases hb : ts.foldl accept {} with
  | mk stack height opened reasons lost =>
    rw [hb] at hlost hreasons hopened hstack hheight
    subst hlost hreasons hopened hstack
    obtain rfl : height = 1 := hheight
    rfl

/-- Wherever a parenthesis is open, a list that is accepted puts its tree on the stack. -/
theorem foldl_accept_of_isShut (hbase : base.IsShut) (h : (ts.foldl accept {}).finish = .ok n) :
    ts.foldl accept base = base.push n := by
  have hread := foldl_accept_of_finish h
  have hreasons : (ts.foldl accept {}).reasons = [] := by rw [hread]; rfl
  calc ts.foldl accept base
      = ts.foldl accept (above {} base) := by rw [above_empty]
    _ = (push {} n).above base := by
        rw [foldl_accept_above hbase isMeasured_empty hreasons, hread]
    _ = base.push n := by rw [push_above, above_empty]

/-- A node alone on the stack stays there. -/
theorem settle_push_empty (h : n.kind.isOrdinary = true) : (push {} n).settle = push {} n :=
  settle_of_examine (examine_push h)

/-- If no operand is missing, mixing parameters is the only fault. -/
theorem faults_of_isComplete (h : ∀ m ∈ n.inorder, m.isIncomplete = false)
    (hmixed : MixesParameters n.tokens) : faults n = [.mixedParameters] := by
  have hmissing : ∀ m ∈ n.nodes, (if m.isMissing .left then [Diagnostic.missingLeft m.literal]
      else []) ++ (if m.isMissing .right then [.missingRight m.literal] else []) = [] := by
    intro m hm
    have := h m (Node.mem_nodes_iff.1 hm)
    rw [Node.isIncomplete, Bool.or_eq_false_iff] at this
    simp [this]
  have hany : (n.nodes.any (·.kind == .wildCard) && n.nodes.any (·.kind == .parameter)) = true := by
    simpa [Node.mem_nodes_iff] using Node.mixesParameters_tokens.1 hmixed
  simp only [faults, List.flatMap_eq_nil_iff.2 hmissing, hany]
  rfl

/-- A tree in which nothing is missing is accepted, unless it mixes both forms of parameters. -/
theorem finish_push_empty (h : ∀ m ∈ n.inorder, m.isIncomplete = false) :
    (¬MixesParameters n.tokens → (push {} n).finish = .ok n) ∧
      (MixesParameters n.tokens → (push {} n).finish = .error (.rejected [.mixedParameters])) := by
  constructor
  · intro hmixed
    rw [Node.mixesParameters_tokens] at hmixed
    exact finish_eq_ok_iff.2 ⟨rfl, rfl, rfl, rfl, faults_eq_nil_iff.2 ⟨h, hmixed⟩⟩
  · intro hmixed
    simp [finish, push, faults_of_isComplete h hmixed]

end Builder

/-! ### Putting conditions together -/

/-- A boolean operator: it takes a boolean on its right, and perhaps one on its left, and is no
    parameter. -/
structure Token.IsBooleanOperator (t : Token) (left : Option EvalType) : Prop extends
    t.HasSignature left (some .boolean) .boolean where
  notWildCard : t.kind ≠ .wildCard
  notParameter : t.kind ≠ .parameter

/-- An operator adds no parameter. -/
theorem Token.IsBooleanOperator.mixesParameters_iff {t : Token} {left : Option EvalType}
    (h : t.IsBooleanOperator left) (ts us : List Token) :
    MixesParameters (ts ++ t :: us) ↔ MixesParameters (ts ++ us) := by
  refine mixesParameters_congr fun u hu => ?_
  have hne : u ≠ t := by
    rintro rfl
    exact hu.elim h.notWildCard h.notParameter
  simp [hne]

theorem buildTree_of_ne_nil {ts : List Token} (h : ts ≠ []) :
    buildTree ts = (ts.foldl Builder.accept {}).finish := by
  obtain ⟨t, us, rfl⟩ := List.exists_cons_of_ne_nil h
  rfl

/-- A condition is accepted, with its tree, if that does not mix both forms of parameters. -/
theorem Condition.buildTree_eq {ts : List Token} {n : Node} (h : Condition ts n)
    (hunmixed : ¬MixesParameters n.tokens) : buildTree ts = .ok n := by
  rw [buildTree_of_ne_nil h.ne_nil, h.foldl_accept]
  exact (Builder.finish_push_empty fun m hm => (h.whole m hm).1).1 hunmixed

/-- A list that is accepted, with what is known of its tree. -/
structure IsAccepted (ts : List Token) (n : Node) : Prop where
  finish : (ts.foldl Builder.accept {}).finish = .ok n
  tokens : n.tokens = withoutParentheses ts
  ordinary : n.kind.isOrdinary = true
  complete : ∀ m ∈ n.inorder, m.isIncomplete = false
  unmixed : ¬MixesParameters n.tokens

/-- What the builder makes one tree of is accepted. -/
theorem isAccepted_of_buildTree {ts : List Token} {n : Node} (hne : ts ≠ [])
    (hplain : ∀ t ∈ ts, t.IsPlain) (h : buildTree ts = .ok n) : IsAccepted ts n := by
  rw [buildTree_of_ne_nil hne] at h
  have htree := Builder.isTreeOf_of_finish hplain h
  obtain ⟨hcomplete, hunmixed⟩ :=
    Builder.faults_eq_nil_iff.1 (Builder.finish_eq_ok_iff.1 h).2.2.2.2
  exact {
    finish := h
    tokens := htree.tokens
    ordinary := htree.ordinary n n.self_mem_inorder
    complete := hcomplete
    unmixed := fun hmixed => hunmixed (Node.mixesParameters_tokens.1 hmixed) }

/-- A list that has the same effect wherever it is read: it puts a boolean tree on the stack and lets
    it settle. -/
structure ReadsAsOne (ts : List Token) (n : Node) : Prop where
  foldl_accept : ∀ b : Builder, ts.foldl Builder.accept b = (b.push n).settle
  ready : n.IsReady .boolean
  complete : ∀ m ∈ n.inorder, m.isIncomplete = false
  tokens : n.tokens = withoutParentheses ts

namespace ReadsAsOne

variable {ts us : List Token} {m n : Node} {op : Token}

/-- A list that is read as one is accepted, if it does not mix parameters. -/
theorem isAccepted (h : ReadsAsOne ts n) (hunmixed : ¬MixesParameters ts) : IsAccepted ts n := by
  have hunmixed' : ¬MixesParameters n.tokens := by
    rwa [h.tokens, mixesParameters_withoutParentheses]
  exact {
    finish := by
      rw [h.foldl_accept, Builder.settle_push_empty h.ready.ordinary]
      exact (Builder.finish_push_empty h.complete).1 hunmixed'
    tokens := h.tokens
    ordinary := h.ready.ordinary
    complete := h.complete
    unmixed := hunmixed' }

/-- A negation makes what follows its operand. -/
theorem negation (h : ReadsAsOne ts n) (hop : op.IsBooleanOperator none) :
    ReadsAsOne (op :: ts) ⟨op, none, some n⟩ where
  foldl_accept b := by
    rw [List.foldl_cons, Builder.accept_unary hop.toHasSignature, h.foldl_accept,
      Builder.settle_push_operand hop.toHasSignature h.ready]
  ready := Node.isReady_mk hop.toHasSignature rfl rfl
  complete := Node.isComplete_mk (Node.isReady_mk hop.toHasSignature rfl rfl).isIncomplete_eq_false
    (by rintro _ ⟨⟩) (by rintro _ ⟨⟩; exact h.complete)
  tokens := by
    have htokens : Node.tokens ⟨op, none, some n⟩ = op :: n.tokens := by
      simp [Node.tokens, Node.inorder_eq ⟨op, _, _⟩]
    rw [htokens, h.tokens]
    simp [withoutParentheses, Token.isParenthesis_of_isOrdinary hop.ordinary]

/-- A connective takes what stands on both sides as its operands. -/
theorem foldl_accept_connection (hm : ReadsAsOne ts m) (hn : ReadsAsOne us n)
    (hop : op.IsBooleanOperator (some .boolean)) :
    (ts ++ op :: us).foldl Builder.accept {} = Builder.push {} ⟨op, some m, some n⟩ := by
  have hready : Node.IsReady ⟨op, some m, some n⟩ .boolean :=
    Node.isReady_mk hop.toHasSignature rfl rfl
  calc (ts ++ op :: us).foldl Builder.accept {}
      = us.foldl Builder.accept ((ts.foldl Builder.accept {}).accept op) := by
        rw [List.foldl_append, List.foldl_cons]
    _ = us.foldl Builder.accept (Builder.push {} ⟨op, some m, none⟩) := by
        rw [hm.foldl_accept, Builder.settle_push_empty hm.ready.ordinary,
          Builder.accept_binary hop.toHasSignature hm.ready]
    _ = (Builder.push {} ⟨op, some m, some n⟩).settle := by
        rw [hn.foldl_accept, Builder.settle_push_operand hop.toHasSignature hn.ready]
    _ = Builder.push {} ⟨op, some m, some n⟩ := Builder.settle_push_empty hready.ordinary

/-- Two lists that are read as one are accepted with an operator between them. -/
theorem connection (hm : ReadsAsOne ts m) (hn : ReadsAsOne us n)
    (hop : op.IsBooleanOperator (some .boolean)) (hunmixed : ¬MixesParameters (ts ++ us)) :
    IsAccepted (ts ++ op :: us) ⟨op, some m, some n⟩ := by
  have hready : Node.IsReady ⟨op, some m, some n⟩ .boolean :=
    Node.isReady_mk hop.toHasSignature rfl rfl
  have hcomplete := Node.isComplete_mk hready.isIncomplete_eq_false
    (by rintro _ ⟨⟩; exact hm.complete) (by rintro _ ⟨⟩; exact hn.complete)
  have htokens : Node.tokens ⟨op, some m, some n⟩ = withoutParentheses (ts ++ op :: us) := by
    have hmk : Node.tokens ⟨op, some m, some n⟩ = m.tokens ++ op :: n.tokens := by
      simp [Node.tokens, Node.inorder_eq ⟨op, _, _⟩]
    rw [hmk, hm.tokens, hn.tokens]
    simp [withoutParentheses, Token.isParenthesis_of_isOrdinary hop.ordinary]
  have hunmixed' : ¬MixesParameters (Node.tokens ⟨op, some m, some n⟩) := by
    rwa [htokens, mixesParameters_withoutParentheses, hop.mixesParameters_iff]
  exact {
    finish := by
      rw [hm.foldl_accept_connection hn hop]
      exact (Builder.finish_push_empty hcomplete).1 hunmixed'
    tokens := htokens
    ordinary := hready.ordinary
    complete := hcomplete
    unmixed := hunmixed' }

end ReadsAsOne

namespace IsAccepted

variable {s t : List Token} {S T : Node} {o c op : Token} {ty : EvalType}

theorem ne_nil (h : IsAccepted s S) : s ≠ [] := by
  rintro rfl
  have hmem : S.token ∈ S.tokens := List.mem_map_of_mem S.self_mem_inorder
  rw [h.tokens] at hmem
  cases hmem

/-- An accepted list has the tree that it was accepted with. -/
theorem buildTree_eq (h : IsAccepted s S) : buildTree s = .ok S :=
  (buildTree_of_ne_nil h.ne_nil).trans h.finish

/-- An accepted list does not mix parameters, since its tree has no faults. -/
theorem not_mixesParameters (h : IsAccepted s S) : ¬MixesParameters s := by
  rw [← mixesParameters_withoutParentheses, ← h.tokens]
  exact h.unmixed

theorem isReady (h : IsAccepted s S) (hresult : S.result = some ty) : S.IsReady ty := by
  have hcomplete := h.complete S S.self_mem_inorder
  rw [Node.isIncomplete, Bool.or_eq_false_iff] at hcomplete
  exact ⟨h.ordinary, hcomplete.1, hcomplete.2, hresult⟩

/-- Wherever a list stands in parentheses, its tree is put on the stack and settles. -/
theorem foldl_accept_enclosed (h : IsAccepted s S) (ho : o.IsOpening) (hc : c.IsClosing)
    (b : Builder) : (o :: (s ++ [c])).foldl Builder.accept b = (b.push S).settle := by
  calc (o :: (s ++ [c])).foldl Builder.accept b
      = (s.foldl Builder.accept (b.accept o)).accept c := by simp
    _ = ((b.pushOpening o).push S).accept c := by
        rw [Builder.accept_opening ho.kind ho.inert,
          Builder.foldl_accept_of_isShut (Builder.isShut_pushOpening ho.inert) h.finish]
    _ = (b.push S).settle := Builder.accept_closing hc.kind h.ordinary

/-- In parentheses an accepted list has the same tree. -/
theorem buildTree_enclosed (h : IsAccepted s S) (ho : o.IsOpening) (hc : c.IsClosing) :
    buildTree (o :: (s ++ [c])) = .ok S := by
  rw [buildTree_of_ne_nil (List.cons_ne_nil _ _), h.foldl_accept_enclosed ho hc,
    Builder.settle_push_empty h.ordinary]
  exact (Builder.finish_push_empty h.complete).1 h.unmixed

theorem withoutParentheses_enclosed (ho : o.IsOpening) (hc : c.IsClosing) :
    withoutParentheses (o :: (s ++ [c])) = withoutParentheses s := by
  simp [withoutParentheses, Token.isParenthesis, ho.kind, hc.kind]

/-- In parentheses a boolean list has the same effect everywhere. -/
theorem readsAsOne (h : IsAccepted s S) (hresult : S.result = some .boolean) (ho : o.IsOpening)
    (hc : c.IsClosing) : ReadsAsOne (o :: (s ++ [c])) S where
  foldl_accept := h.foldl_accept_enclosed ho hc
  ready := h.isReady hresult
  complete := h.complete
  tokens := h.tokens.trans (withoutParentheses_enclosed ho hc).symm

/-- A negation takes a boolean condition in parentheses as its operand. -/
theorem buildTree_negation (h : IsAccepted s S) (hresult : S.result = some .boolean)
    (ho : o.IsOpening) (hc : c.IsClosing) (hop : op.IsBooleanOperator none) :
    buildTree (op :: o :: (s ++ [c])) = .ok ⟨op, none, some S⟩ := by
  have hone := (h.readsAsOne hresult ho hc).negation hop
  have hunmixed : ¬MixesParameters ([] ++ op :: o :: (s ++ [c])) := by
    rw [hop.mixesParameters_iff, List.nil_append, ← mixesParameters_withoutParentheses,
      withoutParentheses_enclosed ho hc, mixesParameters_withoutParentheses]
    exact h.not_mixesParameters
  exact (hone.isAccepted hunmixed).buildTree_eq

/-- A connective between two boolean conditions in parentheses leaves its node with their trees. -/
theorem foldl_accept_connection {o' c' : Token} (hs : IsAccepted s S) (ht : IsAccepted t T)
    (hS : S.result = some .boolean) (hT : T.result = some .boolean) (ho : o.IsOpening)
    (hc : c.IsClosing) (ho' : o'.IsOpening) (hc' : c'.IsClosing)
    (hop : op.IsBooleanOperator (some .boolean)) :
    (o :: (s ++ [c]) ++ op :: o' :: (t ++ [c'])).foldl Builder.accept {} =
      Builder.push {} ⟨op, some S, some T⟩ :=
  (hs.readsAsOne hS ho hc).foldl_accept_connection (ht.readsAsOne hT ho' hc') hop

end IsAccepted

/-- Whatever lists of tokens the builder accepts, it also accepts them in parentheses, with the same
    trees, and boolean ones as operands of a negation or a connective. Only if the two operands of a
    connective have parameters of different forms there is no tree, for this reason alone. -/
theorem buildTree_parentheses {s t : List Token} {S T : Node} (hs : s ≠ []) (ht : t ≠ [])
    (hplain : ∀ u ∈ s ++ t, u.isParenthesis = true → u.descriptor.IsInert)
    (hS : buildTree s = .ok S) (hT : buildTree t = .ok T) {o c o' c' : Token} (ho : o.IsOpening)
    (hc : c.IsClosing) (ho' : o'.IsOpening) (hc' : c'.IsClosing) :
    buildTree (o :: (s ++ [c])) = .ok S ∧
      (S.result = some .boolean → ∀ op : Token, op.IsBooleanOperator none →
        buildTree (op :: o :: (s ++ [c])) = .ok ⟨op, none, some S⟩) ∧
      (S.result = some .boolean → T.result = some .boolean →
        ∀ op : Token, op.IsBooleanOperator (some .boolean) →
          (¬MixesParameters (s ++ t) →
            buildTree (o :: (s ++ [c]) ++ op :: o' :: (t ++ [c'])) =
              .ok ⟨op, some S, some T⟩) ∧
          (MixesParameters (s ++ t) →
            ∃ e, buildTree (o :: (s ++ [c]) ++ op :: o' :: (t ++ [c'])) = .error e ∧
              e.messages = ["query mixes %@ wildcards and \x7bnamed\x7d parameters"])) := by
  rw [List.forall_mem_append] at hplain
  have hs' := isAccepted_of_buildTree hs hplain.1 hS
  have ht' := isAccepted_of_buildTree ht hplain.2 hT
  refine ⟨hs'.buildTree_enclosed ho hc,
    fun hresult op hop => hs'.buildTree_negation hresult ho hc hop, fun hSb hTb op hop => ?_⟩
  have hread := hs'.foldl_accept_connection ht' hSb hTb ho hc ho' hc' hop
  have hready : Node.IsReady ⟨op, some S, some T⟩ .boolean :=
    Node.isReady_mk hop.toHasSignature rfl rfl
  have hcomplete : ∀ m ∈ Node.inorder ⟨op, some S, some T⟩, m.isIncomplete = false :=
    Node.isComplete_mk hready.isIncomplete_eq_false
      (by rintro _ ⟨⟩; exact hs'.complete) (by rintro _ ⟨⟩; exact ht'.complete)
  -- The parameters of the tree are those of both lists.
  have hmixes : MixesParameters (Node.tokens ⟨op, some S, some T⟩) ↔ MixesParameters (s ++ t) := by
    have htokens : Node.tokens ⟨op, some S, some T⟩ = S.tokens ++ op :: T.tokens := by
      simp [Node.tokens, Node.inorder_eq ⟨op, _, _⟩]
    rw [htokens, hop.mixesParameters_iff, hs'.tokens, ht'.tokens, ← withoutParentheses_append,
      mixesParameters_withoutParentheses]
  rw [buildTree_of_ne_nil (by simp), hread, ← hmixes]
  obtain ⟨haccepted, hrejected⟩ := Builder.finish_push_empty hcomplete
  exact ⟨haccepted, fun hmixed => ⟨_, hrejected hmixed, rfl⟩⟩

/-- The list `(a =) 1` is no condition of the grammar, but it is accepted, and so is
    `((a =) 1) AND ((a =) 1)`. -/
theorem buildTree_parentheses_half_comparison :
    let a : Token := ⟨{ kind := .property, result := some .primitive }, .text "a"⟩
    let one : Token := ⟨{ kind := .number, result := some .primitive }, .integer 1⟩
    let eq : Token := ⟨.comparator "=" .equal, .text "="⟩
    let and : Token := ⟨.booleanOperator "AND" .and, .text "AND"⟩
    let opening : Token := ⟨{ kind := .openParen }, .text "("⟩
    let closing : Token := ⟨{ kind := .closeParen }, .text ")"⟩
    let half := [opening, a, eq, closing, one]
    let tree : Node := ⟨eq, some (.ofToken a), some (.ofToken one)⟩
    half ≠ [] ∧ (∀ u ∈ half ++ half, u.isParenthesis = true → u.descriptor.IsInert) ∧
      buildTree half = .ok tree ∧ opening.IsOpening ∧ closing.IsClosing ∧
      ¬MixesParameters (half ++ half) ∧
      buildTree (opening :: (half ++ [closing]) ++ and :: opening :: (half ++ [closing])) =
        .ok ⟨and, some tree, some tree⟩ := by
  intro a one eq and opening closing half tree
  have hne : half ≠ [] := List.cons_ne_nil _ _
  have hmem : ∀ u ∈ half ++ half, u = opening ∨ u = a ∨ u = eq ∨ u = closing ∨ u = one := by
    intro u hu
    rw [List.mem_append, or_self] at hu
    simpa only [half, List.mem_cons, List.not_mem_nil, or_false] using hu
  have hplain : ∀ u ∈ half ++ half, u.isParenthesis = true → u.descriptor.IsInert := by
    intro u hu hp
    rcases hmem u hu with rfl | rfl | rfl | rfl | rfl <;>
      first | exact ⟨rfl, rfl, rfl⟩ | cases hp
  have hunmixed : ¬MixesParameters (half ++ half) := by
    rintro ⟨-, u, hu, hk⟩
    rcases hmem u hu with rfl | rfl | rfl | rfl | rfl <;> cases hk
  have hbuild : buildTree half = .ok tree := by
    let equation : Node := ⟨eq, some (.ofToken a), none⟩
    have h₁ : Builder.accept {} opening = ⟨[.ofToken opening], 1, [0], [], false⟩ :=
      Builder.settle_of_examine rfl
    have h₂ : Builder.accept ⟨[.ofToken opening], 1, [0], [], false⟩ a =
        ⟨[.ofToken a, .ofToken opening], 2, [0], [], false⟩ := Builder.settle_of_examine rfl
    have h₃ : Builder.accept ⟨[.ofToken a, .ofToken opening], 2, [0], [], false⟩ eq =
        ⟨[equation, .ofToken opening], 2, [0], [], false⟩ := Builder.settle_of_examine rfl
    have h₄ : Builder.accept ⟨[equation, .ofToken opening], 2, [0], [], false⟩ closing =
        ⟨[equation], 1, [], [], false⟩ := Builder.settle_of_examine rfl
    have h₅ : Builder.accept ⟨[equation], 1, [], [], false⟩ one = ⟨[tree], 1, [], [], false⟩ :=
      (Builder.settle_of_examine_again rfl).trans (Builder.settle_of_examine rfl)
    have hcomplete : ∀ m ∈ tree.inorder, m.isIncomplete = false :=
      Node.isComplete_mk rfl (by rintro _ ⟨⟩; simp; rfl) (by rintro _ ⟨⟩; simp; rfl)
    have hunmixed : ¬MixesParameters tree.tokens := by
      rintro ⟨⟨u, hu, hk⟩, -⟩
      have hu : u ∈ [a, eq, one] := hu
      simp only [List.mem_cons, List.not_mem_nil, or_false] at hu
      rcases hu with rfl | rfl | rfl <;> cases hk
    rw [buildTree_of_ne_nil hne, List.foldl_cons, h₁, List.foldl_cons, h₂, List.foldl_cons, h₃,
      List.foldl_cons, h₄, List.foldl_cons, h₅]
    exact (Builder.finish_push_empty hcomplete).1 hunmixed
  have hopening : opening.IsOpening := ⟨rfl, rfl, rfl, rfl⟩
  have hclosing : closing.IsClosing := ⟨rfl, rfl, rfl, rfl⟩
  have hand : and.IsBooleanOperator (some .boolean) :=
    ⟨⟨rfl, rfl, rfl, rfl⟩, by decide, by decide⟩
  refine ⟨hne, hplain, hbuild, hopening, hclosing, hunmixed, ?_⟩
  exact ((buildTree_parentheses hne hne hplain hbuild hbuild hopening hclosing hopening
    hclosing).2.2 rfl rfl and hand).1 hunmixed

end RecordQuery
