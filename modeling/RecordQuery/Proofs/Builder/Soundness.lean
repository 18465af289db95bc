import RecordQuery.Proofs.Builder.Invariant

/-!
# What a built tree is

A list of tokens that the builder accepts need not be a condition of the grammar, but it is never
misread (`isTreeOf_of_buildTree`): the tree holds its tokens in their order, each once and none of
them a parenthesis, every operator has the operands it asks for and no others, and the parentheses
come in pairs. The grammar of the tokens matters only in that its parentheses are inert.

Little of this is checked where it comes about: a tree adopts its left operand without asking
whether that one is complete, and an incomplete tree shows only at the end (`Builder.faults`).
-/

namespace RecordQuery

/-- A complete tree with the tokens of a list. -/
structure Node.IsTreeOf (root : Node) (ts : List Token) : Prop where
  /-- From left to right the tree has the tokens of the list but for the parentheses. -/
  tokens : root.tokens = withoutParentheses ts
  /-- The parentheses of the list come in pairs. -/
  balanced : Balanced ts
  /-- No node is unknown or a parenthesis. -/
  ordinary : ∀ m ∈ root.inorder, m.kind.isOrdinary = true
  /-- A node has an operand on exactly the sides on which its descriptor asks for one, and the
      operand has the type that the descriptor asks for. -/
  operands : ∀ m ∈ root.inorder, ∀ side,
    Option.Rel (fun ty c => c.result = some ty) (m.descriptor.expected side) (m.child? side)
  /-- There are no wildcards beside named parameters. -/
  parameters : ¬((∃ m ∈ root.inorder, m.kind = .wildCard) ∧ ∃ m ∈ root.inorder, m.kind = .parameter)

/-- A node has an operand wherever its descriptor asks for one, and nowhere else. -/
theorem Node.IsTreeOf.isSome_child? {root m : Node} {ts : List Token} (h : root.IsTreeOf ts)
    (hm : m ∈ root.inorder) (side : Side) :
    (m.child? side).isSome = (m.descriptor.expected side).isSome := by
  have hoperand := h.operands m hm side
  generalize m.child? side = child, m.descriptor.expected side = expected at hoperand
  cases hoperand <;> rfl

namespace Builder

variable {b : Builder} {read : List Token} {root : Node}

/-- The operands of a sound node that is complete are those that its descriptor asks for. -/
theorem operands_of_isSound (h : root.IsSound) {m : Node} (hm : m ∈ root.inorder)
    (hc : m.isIncomplete = false) (side : Side) :
    Option.Rel (fun ty c => c.result = some ty) (m.descriptor.expected side) (m.child? side) := by
  have hmissing : m.isMissing side = false := by
    rw [Node.isIncomplete, Bool.or_eq_false_iff] at hc
    cases side
    · exact hc.1
    · exact hc.2
  cases hchild : m.child? side with
  | some c =>
    obtain ⟨ty, he, hr⟩ := Node.fits_iff.1 ((h m hm).2 side c hchild)
    rw [he]
    exact .some hr
  | none =>
    have : m.descriptor.expected side = none := by
      simpa [Node.isMissing, hchild] using hmissing
    rw [this]
    exact .none

/-- The tree that is left of the tokens read is a tree of them. -/
theorem Represents.isTreeOf (h : b.Represents read) (hf : b.finish = .ok root) :
    root.IsTreeOf read := by
  obtain ⟨-, hreasons, hopened, hstack, hfaults⟩ := finish_eq_ok_iff.1 hf
  obtain ⟨hcomplete, hparameters⟩ := faults_eq_nil_iff.1 hfaults
  have hsound : root.IsSound := h.sound root (by simp [hstack])
  -- A parenthesis could only be the root, but none is open and none was closed in vain.
  have hroot : root.token.isParenthesis = false := by
    have hopen : root.kind ≠ .openParen := by
      intro hk
      have := h.opened
      rw [hopened, hstack, openPlaces, if_pos hk] at this
      cases this
    have hclose := h.closing root (by simp [hstack])
    simpa [Token.isParenthesis, Node.kind] using And.intro hopen hclose
  have hplain : ∀ m ∈ root.inorder, m.token.isParenthesis = false :=
    hsound.isParenthesis_of_mem hroot
  have htokens : root.tokens = withoutParentheses read := by
    rw [← h.tokens, hstack, stackTokens_cons, withoutParentheses_append]
    symm
    simpa [withoutParentheses, stackTokens, Node.tokens] using hplain
  refine ⟨htokens, ?_, fun m hm => ?_, fun m hm side => ?_, hparameters⟩
  · have := h.nested hreasons
    rwa [hopened] at this
  · have hmem : m.token ∈ read := by
      have : m.token ∈ root.tokens := List.mem_map_of_mem hm
      rw [htokens] at this
      exact (List.mem_filter.1 this).1
    have hknown := h.known hreasons m.token hmem
    have hk := Token.kind_ne_of_isParenthesis (hplain m hm)
    simp only [Node.kind]
    cases hkind : m.token.kind <;> simp_all [TokenKind.isOrdinary]
  · exact operands_of_isSound hsound hm (hcomplete m hm) side

/-- What is left at the end of a list is a tree of its tokens, if the parentheses are inert. -/
theorem isTreeOf_of_finish {ts : List Token} (hplain : ∀ t ∈ ts, t.IsPlain)
    (h : (ts.foldl accept {}).finish = .ok root) : root.IsTreeOf ts := by
  simpa using (represents_nil.foldl_accept hplain).isTreeOf h

end Builder

/-- A tree built from tokens whose parentheses are inert is a tree of these tokens. -/
theorem isTreeOf_of_buildTree {ts : List Token} {root : Node} (hne : ts ≠ [])
    (hinert : ∀ t ∈ ts, t.isParenthesis = true → t.descriptor.IsInert)
    (h : buildTree ts = .ok root) : root.IsTreeOf ts := by
  obtain ⟨t, us, rfl⟩ := List.exists_cons_of_ne_nil hne
  have hread := Builder.represents_nil.foldl_accept hinert
  exact hread.isTreeOf h

/-- The builder reads `a (= 1)`, which is no condition of the grammar, as `a = 1`. -/
theorem isTreeOf_operator_in_parentheses :
    let a : Token := ⟨{ kind := .property, result := some .primitive }, .text "a"⟩
    let one : Token := ⟨{ kind := .number, result := some .primitive }, .integer 1⟩
    let eq : Token := ⟨.comparator "=" .equal, .text "="⟩
    let opening : Token := ⟨{ kind := .openParen }, .text "("⟩
    let closing : Token := ⟨{ kind := .closeParen }, .text ")"⟩
    let tokens := [a, opening, eq, one, closing]
    let tree : Node := ⟨eq, some ⟨a, none, none⟩, some ⟨one, none, none⟩⟩
    tokens ≠ [] ∧ (∀ t ∈ tokens, t.isParenthesis = true → t.descriptor.IsInert) ∧
      buildTree tokens = .ok tree ∧ tree.IsTreeOf tokens := by
  intro a one eq opening closing tokens tree
  have hne : tokens ≠ [] := List.cons_ne_nil _ _
  have hinert : ∀ t ∈ tokens, t.isParenthesis = true → t.descriptor.IsInert := by
    intro t ht hp
    simp only [tokens, List.mem_cons, List.not_mem_nil, or_false] at ht
    rcases ht with rfl | rfl | rfl | rfl | rfl
    · cases hp
    · exact ⟨rfl, rfl, rfl⟩
    · cases hp
    · cases hp
    · exact ⟨rfl, rfl, rfl⟩
  have hbuild : buildTree tokens = .ok tree := by
    let half : Node := ⟨eq, none, some (.ofToken one)⟩
    have h₁ : Builder.accept {} a = ⟨[.ofToken a], 1, [], [], false⟩ :=
      Builder.settle_of_examine rfl
    have h₂ : Builder.accept ⟨[.ofToken a], 1, [], [], false⟩ opening =
        ⟨[.ofToken opening, .ofToken a], 2, [1], [], false⟩ := Builder.settle_of_examine rfl
    have h₃ : Builder.accept ⟨[.ofToken opening, .ofToken a], 2, [1], [], false⟩ eq =
        ⟨[.ofToken eq, .ofToken opening, .ofToken a], 3, [1], [], false⟩ :=
      Builder.settle_of_examine rfl
    have h₄ : Builder.accept ⟨[.ofToken eq, .ofToken opening, .ofToken a], 3, [1], [], false⟩ one =
        ⟨[half, .ofToken opening, .ofToken a], 3, [1], [], false⟩ :=
      (Builder.settle_of_examine_again rfl).trans (Builder.settle_of_examine rfl)
    -- Once the opening parenthesis is gone, the operator finds its left operand.
    have h₅ : Builder.accept ⟨[half, .ofToken opening, .ofToken a], 3, [1], [], false⟩ closing =
        ⟨[tree], 1, [], [], false⟩ := Builder.settle_of_examine rfl
    have hfaults : Builder.faults tree = [] := by
      have hnodes : ∀ m ∈ tree.inorder, m = .ofToken a ∨ m = tree ∨ m = .ofToken one := by
        intro m hm
        have hm' : m ∈ [.ofToken a, tree, .ofToken one] := hm
        simpa only [List.mem_cons, List.not_mem_nil, or_false] using hm'
      refine Builder.faults_eq_nil_iff.2 ⟨fun m hm => ?_, ?_⟩
      · rcases hnodes m hm with rfl | rfl | rfl <;> rfl
      · rintro ⟨⟨m, hm, hkind⟩, -⟩
        rcases hnodes m hm with rfl | rfl | rfl <;> cases hkind
    rw [buildTree, List.foldl_cons, h₁, List.foldl_cons, h₂, List.foldl_cons, h₃, List.foldl_cons,
      h₄, List.foldl_cons, h₅]
    · exact Builder.finish_eq_ok_iff.2 ⟨rfl, rfl, rfl, rfl, hfaults⟩
    · exact hne
  exact ⟨hne, hinert, hbuild, isTreeOf_of_buildTree hne hinert hbuild⟩

end RecordQuery
