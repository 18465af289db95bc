import RecordQuery.Node

/-!
# The nodes of a tree

A tree read from left to right: the nodes of the left operand, the node itself, the nodes of the
right operand. Reading a tree in this order gives back the order of its tokens in the text, while
`Node.nodes` lists each node before its operands.

* `Node.induct`: a property of all trees is proved for a node from its operands.
* `Node.inorder`: the nodes from left to right.
* `Node.nodes_eq_preorder`: the visit that keeps a list of pending trees is a plain recursion.
* `Node.mem_nodes_iff`: both listings have the same nodes.
-/

namespace RecordQuery.Node

/-- Induction on trees: what holds of a node whenever it holds of its operands holds of all trees. -/
@[elab_as_elim, induction_eliminator]
theorem induct {motive : Node → Prop}
    (node : ∀ t l r, (∀ n, l = some n → motive n) → (∀ n, r = some n → motive n) →
      motive ⟨t, l, r⟩) (n : Node) : motive n := by
  refine Node.rec (motive_1 := motive) (motive_2 := fun o => ∀ n, o = some n → motive n)
    (fun t l r hl hr => node t l r hl hr) ?_ ?_ n
  · rintro n ⟨⟩
  · rintro m hm n ⟨⟩
    exact hm

/-! ### Giving an operand -/

@[simp] theorem token_ofToken (t : Token) : (ofToken t).token = t := rfl

@[simp] theorem token_withChild (n : Node) (side : Side) (c : Option Node) :
    (n.withChild side c).token = n.token := by
  cases side <;> rfl

theorem child?_withChild (n : Node) (side : Side) (c : Option Node) (side' : Side) :
    (n.withChild side c).child? side' = if side' = side then c else n.child? side' := by
  cases side <;> cases side' <;> rfl

/-- A node without operands. -/
def IsLeaf (n : Node) : Prop := ∀ side, n.child? side = none

/-! ### From left to right -/

mutual

/-- The nodes of a tree from left to right. -/
def inorder : Node → List Node
  | ⟨t, l, r⟩ => inorder? l ++ ⟨t, l, r⟩ :: inorder? r

/-- The nodes of an operand from left to right. -/
def inorder? : Option Node → List Node
  | none => []
  | some n => n.inorder

end

/-- The tokens of a tree from left to right. -/
def tokens (n : Node) : List Token := n.inorder.map (·.token)

@[simp] theorem inorder?_none : inorder? none = [] := by rw [inorder?]

@[simp] theorem inorder?_some (n : Node) : inorder? (some n) = n.inorder := by rw [inorder?]

/-- The nodes of the left operand, the root, and the nodes of the right one. -/
theorem inorder_eq (n : Node) : n.inorder = inorder? n.left ++ n :: inorder? n.right := by
  obtain ⟨t, l, r⟩ := n
  rw [inorder]

theorem self_mem_inorder (n : Node) : n ∈ n.inorder := by
  rw [inorder_eq]
  simp

@[simp] theorem inorder_ofToken (t : Token) : (ofToken t).inorder = [ofToken t] := by
  rw [inorder_eq]
  rfl

/-- A node with a new operand on a side that was free is read with that operand on that side. -/
theorem tokens_withChild_left {n : Node} (h : n.left = none) (c : Node) :
    (n.withChild .left (some c)).tokens = c.tokens ++ n.tokens := by
  simp [tokens, withChild, inorder_eq ⟨n.token, _, _⟩, inorder_eq n, h]

/-- On the right it is read after the node. -/
theorem tokens_withChild_right {n : Node} (h : n.right = none) (c : Node) :
    (n.withChild .right (some c)).tokens = n.tokens ++ c.tokens := by
  simp [tokens, withChild, inorder_eq ⟨n.token, _, _⟩, inorder_eq n, h]

/-- The nodes of a tree are its root and the nodes of its operands. -/
theorem mem_inorder_iff {m n : Node} :
    m ∈ n.inorder ↔ m = n ∨ ∃ side c, n.child? side = some c ∧ m ∈ c.inorder := by
  rw [inorder_eq]
  constructor
  · intro h
    rcases List.mem_append.1 h with h | h
    · cases hl : n.left with
      | none => simp [hl] at h
      | some c => exact .inr ⟨.left, c, hl, by simpa [hl] using h⟩
    · rcases List.mem_cons.1 h with h | h
      · exact .inl h
      · cases hr : n.right with
        | none => simp [hr] at h
        | some c => exact .inr ⟨.right, c, hr, by simpa [hr] using h⟩
  · rintro (rfl | ⟨_ | _, c, hc, hm⟩)
    · simp
    · rw [show n.left = some c from hc]
      simp [hm]
    · rw [show n.right = some c from hc]
      simp [hm]

/-- The nodes of an operand are nodes of the tree. -/
theorem mem_inorder_of_child? {n c m : Node} {side : Side} (hc : n.child? side = some c)
    (hm : m ∈ c.inorder) : m ∈ n.inorder :=
  mem_inorder_iff.2 (.inr ⟨side, c, hc, hm⟩)

/-! ### Each node before its operands -/

mutual

/-- The nodes of a tree, each before its operands, by recursion on the tree. -/
def preorder : Node → List Node
  | ⟨t, l, r⟩ => ⟨t, l, r⟩ :: (preorder? l ++ preorder? r)

/-- The nodes of an operand, each before its operands. -/
def preorder? : Option Node → List Node
  | none => []
  | some n => n.preorder

end

/-- An operand that is not there has no nodes. -/
theorem preorder?_eq_flatMap (o : Option Node) : preorder? o = o.toList.flatMap preorder := by
  cases o <;> simp [preorder?]

/-- The root, then the nodes of the left operand, then those of the right one. -/
theorem preorder_eq (n : Node) : n.preorder = n :: (preorder? n.left ++ preorder? n.right) := by
  obtain ⟨t, l, r⟩ := n
  rw [preorder]

/-- A visit lists the pending trees one after the other. -/
theorem visit_eq (visited pending : List Node) :
    visit visited pending = visited.reverse ++ pending.flatMap preorder := by
  fun_induction visit visited pending with
  | case1 visited => simp
  | case2 visited n pending ih =>
    rw [ih, List.flatMap_cons, preorder_eq]
    simp [preorder?_eq_flatMap]

/-- The listing with a list of pending trees is the recursive one. -/
theorem nodes_eq_preorder (n : Node) : n.nodes = n.preorder := by
  simp [nodes, visit_eq]

/-- Both orders list the same nodes equally often. -/
theorem preorder_perm_inorder (n : Node) : n.preorder.Perm n.inorder := by
  induction n with
  | node t l r hl hr =>
    rw [preorder, inorder]
    have hl' : (preorder? l).Perm (inorder? l) := by
      cases l with
      | none => simp [preorder?]
      | some c => simpa [preorder?] using hl c rfl
    have hr' : (preorder? r).Perm (inorder? r) := by
      cases r with
      | none => simp [preorder?]
      | some c => simpa [preorder?] using hr c rfl
    -- The node moves from before its operands to between them.
    exact ((hl'.append hr').cons _).trans List.perm_middle.symm

/-- Listing a tree before its operands or from left to right gives the same nodes. -/
theorem mem_nodes_iff {m n : Node} : m ∈ n.nodes ↔ m ∈ n.inorder := by
  rw [nodes_eq_preorder]
  exact n.preorder_perm_inorder.mem_iff

end RecordQuery.Node
