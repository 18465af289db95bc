import RecordQuery.Builder
import RecordQuery.Proofs.Tree

/-!
# Steps of the builder

What the builder does with one token, for each kind of token that a condition is made of. A token
without operands, or a tree that is complete, settles: it goes to the node before it on the stack
if that one awaits a value of its type, and stays on the stack otherwise.

* `Token.HasSignature`: the types of the operands that a token takes and of its value.
* `Builder.awaits`: the node on top of the stack awaits a right operand of a type.
* `Builder.settle_invariant`: what each examination keeps.
* `Builder.settle_push_of_not_awaits`, `Builder.examine_push_push`: a complete tree stays on the
  stack, or becomes the right operand of the node before it.
* `Builder.accept_binary`, `Builder.accept_unary`: an operator takes the tree before it, or
  none.
* `Builder.accept_opening`, `Builder.accept_closing`: a closing parenthesis leaves what the pair
  held as if the pair had not been there.
* `Builder.finish_eq_ok_iff`, `Builder.faults_eq_nil_iff`: when the stack is a tree in the end.
-/

namespace RecordQuery

/-! ### Signatures -/

/-- A class whose tokens are nodes of trees: neither unknown nor a parenthesis. -/
def TokenKind.isOrdinary : TokenKind → Bool
  | unknown | openParen | closeParen => false
  | _ => true

/-- The tokens of a descriptor take no operands and have no value. -/
structure Descriptor.IsInert (d : Descriptor) : Prop where
  left : d.left = none
  right : d.right = none
  result : d.result = none

/-- An ordinary token that takes operands of the given types, if any, and has a value of the given
    type. -/
structure Token.HasSignature (t : Token) (left right : Option EvalType) (result : EvalType) :
    Prop where
  ordinary : t.kind.isOrdinary = true
  left : t.descriptor.left = left
  right : t.descriptor.right = right
  result : t.descriptor.result = some result

/-- A tree with nothing missing at its root, whose value has the given type. -/
structure Node.IsReady (n : Node) (ty : EvalType) : Prop where
  ordinary : n.kind.isOrdinary = true
  left : n.isMissing .left = false
  right : n.isMissing .right = false
  result : n.result = some ty

namespace Node

variable {n p : Node} {t : Token} {ty : EvalType}

@[simp] theorem descriptor_mk (t : Token) (l r : Option Node) :
    descriptor ⟨t, l, r⟩ = t.descriptor := rfl

@[simp] theorem kind_mk (t : Token) (l r : Option Node) : kind ⟨t, l, r⟩ = t.kind := rfl

@[simp] theorem kind_ofToken (t : Token) : (ofToken t).kind = t.kind := rfl

theorem isMissing_left (n : Node) :
    n.isMissing .left = (n.descriptor.left.isSome && n.left.isNone) := rfl

theorem isMissing_right (n : Node) :
    n.isMissing .right = (n.descriptor.right.isSome && n.right.isNone) := rfl

/-- An operator with an operand on each side on which it takes one is ready. -/
theorem isReady_mk {l r : Option EvalType} {left right : Option Node}
    (h : t.HasSignature l r ty) (hl : l.isSome = left.isSome) (hr : r.isSome = right.isSome) :
    IsReady ⟨t, left, right⟩ ty where
  ordinary := h.ordinary
  left := by
    rw [isMissing_left, descriptor_mk, h.left, hl]
    cases left <;> rfl
  right := by
    rw [isMissing_right, descriptor_mk, h.right, hr]
    cases right <;> rfl
  result := h.result

theorem IsReady.isIncomplete_eq_false (h : n.IsReady ty) : n.isIncomplete = false := by
  rw [isIncomplete, h.left, h.right]
  rfl

theorem fits_eq {side : Side} (h : n.result = some ty) :
    p.fits side n = (p.descriptor.expected side == some ty) := by
  rw [fits, h]
  cases p.descriptor.expected side <;> rfl

end Node

namespace Builder

variable {b : Builder} {n p : Node} {t o c : Token} {ty : EvalType}

/-! ### Settling -/

/-- The node on top of the stack awaits a right operand of the given type. -/
def awaits (b : Builder) (ty : EvalType) : Bool :=
  b.stack.head?.any fun p => p.isMissing .right && p.descriptor.right == some ty

/-- The top is examined until that does not ask for another examination. -/
theorem settle_eq (b : Builder) :
    b.settle = if b.examine.2 then b.examine.1.settle else b.examine.1 := by
  rw [settle]
  rfl

/-- Only the examination of the top decides how a stack settles. -/
theorem settle_congr {b' : Builder} (h : b.examine = b'.examine) : b.settle = b'.settle := by
  rw [settle_eq, h, ← settle_eq]

theorem settle_of_examine {b' : Builder} (h : b.examine = (b', false)) : b.settle = b' := by
  rw [settle_eq, h]
  rfl

/-- An examination that asks for another leaves the rest of the settling to do. -/
theorem settle_of_examine_again {b' : Builder} (h : b.examine = (b', true)) :
    b.settle = b'.settle := by
  rw [settle_eq, h]
  rfl

/-- What examining the top keeps, as long as the top has some property, is kept until the top has
    settled, if a top that is examined again has the property too. -/
theorem settle_invariant {P : Builder → Prop} {Q : Node → Prop}
    (hexamine : ∀ b, P b → (∀ n ∈ b.stack.head?, Q n) → P b.examine.1 ∧
      (b.examine.2 = true → ∀ n ∈ b.examine.1.stack.head?, Q n))
    (h : P b) (htop : ∀ n ∈ b.stack.head?, Q n) : P b.settle := by
  fun_induction settle b with
  | case1 b hagain ih => exact ih (hexamine b h htop).1 ((hexamine b h htop).2 hagain)
  | case2 b _ => exact (hexamine b h htop).1

theorem enter_of_isOrdinary (h : n.kind.isOrdinary = true) : b.enter n = b := by
  rw [enter]
  split <;> simp_all [TokenKind.isOrdinary]

/-- Examining an ordinary node is taking a left operand, then becoming a right one. -/
theorem examine_push (h : n.kind.isOrdinary = true) :
    (b.push n).examine = (b.push n).adoptLeft.adoptRight := by
  show ((b.push n).enter n).adoptLeft.adoptRight = _
  rw [enter_of_isOrdinary h]

theorem adoptLeft_push_of_not_isMissing (h : n.isMissing .left = false) :
    (b.push n).adoptLeft = b.push n := by
  cases hs : b.stack <;> simp [adoptLeft, push, hs, h]

theorem adoptRight_push_of_isIncomplete (h : n.isIncomplete = true) :
    (b.push n).adoptRight = (b.push n, false) := by
  cases hs : b.stack <;> simp [adoptRight, push, hs, h]

/-- A node that takes the tree before it as its left operand. -/
theorem adoptLeft_push_push (hm : n.isMissing .left = true) (hf : n.fits .left p = true) :
    ((b.push p).push n).adoptLeft = b.push (n.withChild .left (some p)) := by
  simp [adoptLeft, push, hm, hf]

/-- A complete tree that nothing awaits stays on the stack. -/
theorem settle_push_of_not_awaits (hn : n.IsReady ty) (h : b.awaits ty = false) :
    (b.push n).settle = b.push n := by
  refine settle_of_examine ?_
  rw [examine_push hn.ordinary, adoptLeft_push_of_not_isMissing hn.left]
  cases hs : b.stack with
  | nil => simp [adoptRight, push, hs]
  | cons p rest =>
    have hp : (p.isMissing .right && p.fits .right n) = false := by
      rw [awaits, hs] at h
      rw [Node.fits_eq hn.result]
      exact h
    simp [adoptRight, push, hs, Bool.and_assoc, hp]

/-- A complete tree becomes the right operand of the node before it that awaits it, and this node
    is examined in turn. -/
theorem examine_push_push (hn : n.IsReady ty) (hm : p.isMissing .right = true)
    (hp : p.descriptor.right = some ty) :
    ((b.push p).push n).examine = (b.push (p.withChild .right (some n)), true) := by
  have hf : p.fits .right n = true := by
    rw [Node.fits_eq hn.result, show p.descriptor.expected .right = some ty from hp]
    simp
  rw [examine_push hn.ordinary, adoptLeft_push_of_not_isMissing hn.left]
  simp [adoptRight, push, hn.isIncomplete_eq_false, hm, hf]

/-- A complete tree settles as the right operand of the node before it that awaits it. -/
theorem settle_push_push (hn : n.IsReady ty) (hm : p.isMissing .right = true)
    (hp : p.descriptor.right = some ty) :
    ((b.push p).push n).settle = (b.push (p.withChild .right (some n))).settle :=
  settle_of_examine_again (examine_push_push hn hm hp)

/-! ### Operators -/

/-- A token without operands settles as a tree. -/
theorem accept_eq (t : Token) : b.accept t = (b.push (.ofToken t)).settle := rfl

/-- An operator between two operands takes the tree before it and waits for the other. -/
theorem accept_binary {l r : EvalType} (ho : o.HasSignature (some l) (some r) ty)
    (hn : n.IsReady l) : (b.push n).accept o = b.push ⟨o, some n, none⟩ := by
  refine settle_of_examine ?_
  have hm : Node.isMissing ⟨o, none, none⟩ .left = true := by
    simp [Node.isMissing_left, ho.left]
  have hf : Node.fits ⟨o, none, none⟩ .left n = true := by
    rw [Node.fits_eq hn.result]
    simp [Descriptor.expected, ho.left]
  have hi : Node.isIncomplete ⟨o, some n, none⟩ = true := by
    simp [Node.isIncomplete, Node.isMissing_right, ho.right]
  rw [Node.ofToken, examine_push (by exact ho.ordinary), adoptLeft_push_push hm hf]
  exact adoptRight_push_of_isIncomplete hi

/-- An operator before its operand waits for it. -/
theorem accept_unary {r : EvalType} (ho : o.HasSignature none (some r) ty) :
    b.accept o = b.push ⟨o, none, none⟩ := by
  refine settle_of_examine ?_
  have hm : Node.isMissing ⟨o, none, none⟩ .left = false := by
    simp [Node.isMissing_left, ho.left]
  have hi : Node.isIncomplete ⟨o, none, none⟩ = true := by
    simp [Node.isIncomplete, Node.isMissing_right, ho.right]
  rw [Node.ofToken, examine_push (by exact ho.ordinary), adoptLeft_push_of_not_isMissing hm,
    adoptRight_push_of_isIncomplete hi]

/-- An operator on the stack whose right operand is all that is missing. -/
theorem settle_push_operand {l : Option EvalType} {r : EvalType} {left : Option Node}
    (ho : o.HasSignature l (some r) ty) (hn : n.IsReady r) :
    ((b.push ⟨o, left, none⟩).push n).settle = (b.push ⟨o, left, some n⟩).settle := by
  refine settle_push_push hn ?_ ho.right
  simp [Node.isMissing_right, ho.right]

/-- An operator that waits for an operand of one type awaits none of another. -/
theorem awaits_push {l : Option EvalType} {r : EvalType} {left : Option Node} {ty' : EvalType}
    (ho : o.HasSignature l (some r) ty) (h : r ≠ ty') :
    (b.push ⟨o, left, none⟩).awaits ty' = false := by
  simp [awaits, push, ho.right, h]

/-! ### Parentheses -/

/-- The builder after an opening parenthesis. -/
def pushOpening (b : Builder) (t : Token) : Builder :=
  { b.push (.ofToken t) with opened := b.height :: b.opened }

theorem enter_opening (ht : t.kind = .openParen) :
    (b.push (.ofToken t)).enter (.ofToken t) = b.pushOpening t := by
  simp [enter, ht, pushOpening, push]

theorem enter_of_closeParen (hn : n.kind = .closeParen) : b.enter n = b.closeParenthesis := by
  simp [enter, hn]

/-- An opening parenthesis stays on the stack, and its place is remembered. -/
theorem accept_opening (ht : t.kind = .openParen) (hi : t.descriptor.IsInert) :
    b.accept t = b.pushOpening t := by
  refine settle_of_examine ?_
  show ((b.push (.ofToken t)).enter (.ofToken t)).adoptLeft.adoptRight = _
  have hm : (Node.ofToken t).isMissing .left = false := by
    simp [Node.isMissing_left, Node.ofToken, hi.left]
  have hf (p : Node) : p.fits .right (.ofToken t) = false := by
    rw [Node.fits, show (Node.ofToken t).result = none from hi.result]
    cases p.descriptor.expected .right <;> rfl
  rw [enter_opening ht]
  cases hs : b.stack <;> simp [pushOpening, push, adoptLeft, adoptRight, hs, hm, hf]

/-- An inert parenthesis on top of the stack awaits nothing. -/
theorem awaits_pushOpening (hi : t.descriptor.IsInert) : (b.pushOpening t).awaits ty = false := by
  simp [awaits, pushOpening, push, Node.ofToken, hi.right]

/-- A closing parenthesis takes its partner from under the tree on top of the stack, which is then
    examined as if it had just been put there. -/
theorem accept_closing (hc : c.kind = .closeParen) (hn : n.kind.isOrdinary = true) :
    ((b.pushOpening o).push n).accept c = (b.push n).settle := by
  refine settle_congr ?_
  have he : (((b.pushOpening o).push n).push (.ofToken c)).enter (.ofToken c) = b.push n := by
    rw [enter_of_closeParen (by exact hc)]
    simp [closeParenthesis, removeAbove, pushOpening, push]
  rw [examine_push hn]
  show ((((b.pushOpening o).push n).push (.ofToken c)).enter (.ofToken c)).adoptLeft.adoptRight = _
  rw [he]

/-! ### The end of the list -/

/-- A tree has no faults if no operand is missing and its parameters are of one form. -/
theorem faults_eq_nil_iff {root : Node} :
    faults root = [] ↔ (∀ m ∈ root.inorder, m.isIncomplete = false) ∧
      ¬((∃ m ∈ root.inorder, m.kind = .wildCard) ∧ ∃ m ∈ root.inorder, m.kind = .parameter) := by
  have hmixed : (root.nodes.any (·.kind == .wildCard) && root.nodes.any (·.kind == .parameter))
      = true ↔ (∃ m ∈ root.inorder, m.kind = .wildCard) ∧
        ∃ m ∈ root.inorder, m.kind = .parameter := by
    simp [Node.mem_nodes_iff]
  rw [faults, List.append_eq_nil_iff, List.flatMap_eq_nil_iff]
  refine and_congr ?_ ?_
  · simp only [Node.mem_nodes_iff, Node.isIncomplete]
    refine forall₂_congr fun m _ => ?_
    cases m.isMissing .left <;> cases m.isMissing .right <;> simp
  · rw [← hmixed, ite_eq_right_iff]
    simp

/-- The builder ends with a tree exactly if nothing was found wrong on the way and the tree, alone
    on the stack, has no faults. -/
theorem finish_eq_ok_iff {root : Node} :
    b.finish = .ok root ↔ b.lost = false ∧ b.reasons = [] ∧ b.opened = [] ∧ b.stack = [root] ∧
      faults root = [] := by
  obtain ⟨stack, height, opened, reasons, lost⟩ := b
  cases lost with
  | true => simp [finish]
  | false =>
    match stack with
    | [] => simp [finish]
    | [root'] =>
      -- The reasons are those found on the way, one for what is open, and those in the tree.
      have hnil : ((reasons.reverse ++ if opened.isEmpty = true then [] else [.unmatchedOpening]) ++
          faults root' = []) ↔ reasons = [] ∧ opened = [] ∧ faults root' = [] := by
        cases opened <;> simp
      simp only [finish, Bool.false_eq_true, if_false, true_and, List.cons.injEq, and_true]
      split
      · rename_i h
        rw [hnil] at h
        simp only [Except.ok.injEq]
        exact ⟨fun e => ⟨h.1, h.2.1, e, e ▸ h.2.2⟩, fun e => e.2.2.1⟩
      · rename_i h
        simp only [reduceCtorEq, false_iff]
        rintro ⟨hr, ho, rfl, hf⟩
        exact h (hnil.2 ⟨hr, ho, hf⟩)
    | _ :: _ :: _ => simp [finish]

end Builder

end RecordQuery
