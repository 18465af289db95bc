import RecordQuery.Proofs.Builder.Brackets
import RecordQuery.Proofs.Builder.Step

/-!
# What the stack holds

While the builder reads, its stack holds the tokens read so far, in their order, as the nodes of
its trees; of a parenthesis there is nothing left once it is closed. This needs parentheses that
are nothing but parentheses: they take no operands and have no value (`Descriptor.IsInert`).

* `Node.IsSound`: every operand in a tree is one that its parent asks for.
* `openPlaces`: where on a stack the open parentheses are.
* `Builder.Represents`: the invariant, between a builder and the tokens read so far.
* `Builder.Represents.accept`: reading a token keeps it. Adopting an operand puts two neighbouring
  trees together (`Represents.combine`), and the place remembered for an open parenthesis is the
  place where it still is (`exists_append_of_openPlaces`).
-/

namespace RecordQuery

/-- The parentheses among the tokens are inert. -/
def Token.IsPlain (t : Token) : Prop := t.isParenthesis = true → t.descriptor.IsInert

theorem Token.isParenthesis_of_isOrdinary {t : Token} (h : t.kind.isOrdinary = true) :
    t.isParenthesis = false := by
  cases hkind : t.kind <;> simp_all [isParenthesis, TokenKind.isOrdinary]

/-! ### Sound trees -/

/-- Parentheses are inert, and every operand is one that its parent asks for. -/
def Node.IsSound (n : Node) : Prop :=
  ∀ m ∈ n.inorder, m.token.IsPlain ∧ ∀ side c, m.child? side = some c → m.fits side c = true

namespace Node

variable {n c p : Node} {side : Side}

/-- A tree of one token has no operands that could be wrong. -/
theorem isSound_ofToken {t : Token} (ht : t.IsPlain) : (ofToken t).IsSound := by
  intro m hm
  rw [inorder_ofToken, List.mem_singleton] at hm
  subst hm
  exact ⟨ht, by rintro (_ | _) c ⟨⟩⟩

theorem IsSound.isPlain (h : n.IsSound) : n.token.IsPlain := (h n n.self_mem_inorder).1

/-- What a node asks for is said by its token, whatever operands it has. -/
theorem fits_withChild (n : Node) (side : Side) (c : Option Node) (side' : Side) (m : Node) :
    (n.withChild side c).fits side' m = n.fits side' m := by
  rw [fits, fits, descriptor, descriptor, token_withChild]

/-- A tree stays sound with an operand that fits. -/
theorem IsSound.withChild (hn : n.IsSound) (hc : c.IsSound) (hf : n.fits side c = true) :
    (n.withChild side (some c)).IsSound := by
  have hroot := hn n n.self_mem_inorder
  intro m hm
  -- Only the root has another operand than before.
  rcases mem_inorder_iff.1 hm with rfl | ⟨side', c', hc', hm⟩
  · refine ⟨by simpa using hroot.1, fun side' c' hc' => ?_⟩
    rw [fits_withChild]
    rw [child?_withChild] at hc'
    split at hc'
    · rename_i h
      cases hc'
      exact h ▸ hf
    · exact hroot.2 side' c' hc'
  · rw [child?_withChild] at hc'
    split at hc'
    · cases hc'
      exact hc m hm
    · exact hn m (mem_inorder_iff.2 (.inr ⟨side', c', hc', hm⟩))

/-- An operand fits if its value has the type that is asked for on that side. -/
theorem fits_iff : p.fits side c = true ↔
    ∃ ty, p.descriptor.expected side = some ty ∧ c.result = some ty := by
  rw [fits]
  cases p.descriptor.expected side with
  | none => simp
  | some expected =>
    cases c.result with
    | none => simp
    | some actual => simpa using eq_comm

/-- A parenthesis asks for no operand. -/
theorem isParenthesis_of_isMissing (hn : n.token.IsPlain) (h : n.isMissing side = true) :
    n.token.isParenthesis = false := by
  rw [Bool.eq_false_iff]
  intro hp
  have hi := hn hp
  cases side
  · simp [isMissing_left, descriptor, hi.left] at h
  · simp [isMissing_right, descriptor, hi.right] at h

/-- A parenthesis is no operand. -/
theorem isParenthesis_of_fits (hc : c.token.IsPlain) (h : p.fits side c = true) :
    c.token.isParenthesis = false := by
  rw [Bool.eq_false_iff]
  intro hp
  obtain ⟨ty, -, hty⟩ := fits_iff.1 h
  rw [show c.result = none from (hc hp).result] at hty
  cases hty

/-- A parenthesis in a sound tree stands alone. -/
theorem IsSound.tokens_of_isParenthesis (hn : n.IsSound) (hp : n.token.isParenthesis = true) :
    n.tokens = [n.token] := by
  have hi := hn.isPlain hp
  have hchild (side : Side) : n.child? side = none := by
    cases hc : n.child? side with
    | none => rfl
    | some c =>
      obtain ⟨ty, hty, -⟩ := fits_iff.1 ((hn n n.self_mem_inorder).2 side c hc)
      cases side
      · exact absurd (hi.left.symm.trans hty) (by simp)
      · exact absurd (hi.right.symm.trans hty) (by simp)
  rw [tokens, inorder_eq, show n.left = none from hchild .left,
    show n.right = none from hchild .right]
  rfl

/-- Only the root of a sound tree can be a parenthesis. -/
theorem IsSound.isParenthesis_of_mem (hn : n.IsSound) (hp : n.token.isParenthesis = false) :
    ∀ m ∈ n.inorder, m.token.isParenthesis = false := by
  induction n with
  | node t l r hl hr =>
    intro m hm
    rcases mem_inorder_iff.1 hm with rfl | ⟨side, c, hc, hm⟩
    · exact hp
    · have hsound : c.IsSound := fun m hm => hn m (mem_inorder_iff.2 (.inr ⟨side, c, hc, hm⟩))
      have hfits := (hn _ (self_mem_inorder _)).2 side c hc
      have hcp := isParenthesis_of_fits hsound.isPlain hfits
      cases side
      · exact hl c hc hsound hcp m hm
      · exact hr c hc hsound hcp m hm

end Node

/-! ### Places of open parentheses -/

/-- For each opening parenthesis on a stack, from the top down, the number of nodes below it. -/
def openPlaces : List Node → List Nat
  | [] => []
  | n :: rest => if n.kind = .openParen then rest.length :: openPlaces rest else openPlaces rest

theorem Token.kind_ne_of_isParenthesis {t : Token} (h : t.isParenthesis = false) :
    t.kind ≠ .openParen ∧ t.kind ≠ .closeParen := by
  simpa [Token.isParenthesis] using h

theorem openPlaces_cons {n : Node} (h : n.kind ≠ .openParen) (rest : List Node) :
    openPlaces (n :: rest) = openPlaces rest := by
  rw [openPlaces, if_neg h]

/-- Where nothing is open on top, the places are those below. -/
theorem openPlaces_append {top : List Node} (h : ∀ n ∈ top, n.kind ≠ .openParen)
    (bottom : List Node) : openPlaces (top ++ bottom) = openPlaces bottom := by
  induction top with
  | nil => rfl
  | cons n top ih =>
    rw [List.cons_append, openPlaces_cons (h n (by simp))]
    exact ih fun m hm => h m (by simp [hm])

/-- The innermost open parenthesis is where its place says. -/
theorem exists_append_of_openPlaces {stack : List Node} {below : Nat} {places : List Nat}
    (h : openPlaces stack = below :: places) :
    ∃ top o bottom, stack = top ++ o :: bottom ∧ o.kind = .openParen ∧ bottom.length = below ∧
      (∀ n ∈ top, n.kind ≠ .openParen) ∧ openPlaces bottom = places := by
  induction stack with
  | nil => cases h
  | cons n rest ih =>
    by_cases hn : n.kind = .openParen
    · rw [openPlaces, if_pos hn, List.cons.injEq] at h
      exact ⟨[], n, rest, rfl, hn, h.1, by simp, h.2⟩
    · rw [openPlaces_cons hn] at h
      obtain ⟨top, o, bottom, rfl, ho, hb, ht, hp⟩ := ih h
      exact ⟨n :: top, o, bottom, rfl, ho, hb, by simpa using ⟨hn, ht⟩, hp⟩

namespace Builder

/-- The tokens on a stack, from the bottom up and each tree from left to right. -/
def stackTokens (stack : List Node) : List Token := stack.reverse.flatMap Node.tokens

theorem stackTokens_cons (n : Node) (rest : List Node) :
    stackTokens (n :: rest) = stackTokens rest ++ n.tokens := by
  simp [stackTokens]

/-- The part of a stack that is further down has the tokens that come first. -/
theorem stackTokens_append (top bottom : List Node) :
    stackTokens (top ++ bottom) = stackTokens bottom ++ stackTokens top := by
  simp [stackTokens]

/-- The node with `bottom` under it goes, and all others stay. -/
theorem removeAbove_append {b : Builder} {top bottom : List Node} {o : Node}
    (hs : b.stack = top ++ o :: bottom) (hheight : b.height = b.stack.length) :
    b.removeAbove bottom.length =
      { b with stack := top ++ bottom, height := b.height - 1 } := by
  have htop : b.height = top.length + (bottom.length + 1) := by simp [hheight, hs]
  rw [removeAbove, if_pos (by omega), hs, show b.height - 1 - bottom.length = top.length by omega,
    List.eraseIdx_append_of_length_le (Nat.le_refl _)]
  simp

/-- The stack holds the given tokens in their order, in sound trees, and it is known where each
    open parenthesis is. -/
structure Holds (b : Builder) (read : List Token) : Prop where
  height : b.height = b.stack.length
  found : b.lost = false
  sound : ∀ n ∈ b.stack, n.IsSound
  opened : b.opened = openPlaces b.stack
  closing : ∀ n ∈ b.stack, n.kind ≠ .closeParen
  tokens : withoutParentheses (stackTokens b.stack) = withoutParentheses read

/-- The builder has read the given tokens: its stack holds them, and unless it has found a reason
    against a tree, all are known and the parentheses are nested. -/
structure Represents (b : Builder) (read : List Token) : Prop extends Holds b read where
  known : b.reasons = [] → ∀ t ∈ read, t.kind ≠ .unknown
  nested : b.reasons = [] → Nested read b.opened.length

/-- Before anything is read the stack is empty. -/
theorem represents_nil : Represents {} [] where
  height := rfl
  found := rfl
  sound := by simp
  opened := rfl
  closing := by simp
  tokens := rfl
  known := by simp
  nested _ := nested_nil

variable {b : Builder} {read : List Token} {n before m : Node} {rest : List Node} {t : Token}

/-- A new token that is no parenthesis is held as a tree of its own. -/
theorem Holds.push (h : b.Holds read) (ht : t.isParenthesis = false) :
    (b.push (.ofToken t)).Holds (read ++ [t]) where
  height := by simp [Builder.push, h.height]
  found := h.found
  sound := by
    have : (Node.ofToken t).IsSound := Node.isSound_ofToken (by simp [Token.IsPlain, ht])
    simpa [Builder.push] using ⟨this, h.sound⟩
  opened := by
    rw [Builder.push, openPlaces_cons (by exact (Token.kind_ne_of_isParenthesis ht).1)]
    exact h.opened
  closing := by
    simpa [Builder.push] using ⟨(Token.kind_ne_of_isParenthesis ht).2, h.closing⟩
  tokens := by
    rw [Builder.push, stackTokens_cons, withoutParentheses_append, withoutParentheses_append,
      h.tokens]
    simp [Node.tokens]

namespace Represents

/-! ### Adopting -/

/-- Two neighbours on the stack become one tree that holds the tokens of both. -/
theorem combine (h : b.Represents read) (hs : b.stack = n :: before :: rest)
    (hn : n.token.isParenthesis = false) (hb : before.token.isParenthesis = false)
    (hm : m.IsSound) (hp : m.token.isParenthesis = false)
    (ht : m.tokens = before.tokens ++ n.tokens) :
    Represents { b with stack := m :: rest, height := b.height - 1 } read where
  height := by simp [h.height, hs]
  found := h.found
  sound := by
    have := h.sound
    rw [hs] at this
    simp_all
  opened := by
    rw [h.opened, hs, openPlaces_cons (Token.kind_ne_of_isParenthesis hn).1,
      openPlaces_cons (Token.kind_ne_of_isParenthesis hb).1,
      openPlaces_cons (Token.kind_ne_of_isParenthesis hp).1]
  closing := by
    have := h.closing
    rw [hs] at this
    simp_all [(Token.kind_ne_of_isParenthesis hp).2, Node.kind]
  tokens := by
    rw [← h.tokens, hs, stackTokens_cons, stackTokens_cons, stackTokens_cons, ht, List.append_assoc]
  known := h.known
  nested := h.nested

/-- Adopting a left operand keeps what the stack holds. -/
theorem adoptLeft (h : b.Represents read) : b.adoptLeft.Represents read := by
  rw [Builder.adoptLeft]
  split
  · rename_i n before rest hs
    split
    · rename_i hcond
      rw [Bool.and_eq_true] at hcond
      have hn := h.sound n (by simp [hs])
      have hb := h.sound before (by simp [hs])
      have hnp := Node.isParenthesis_of_isMissing hn.isPlain hcond.1
      have hfree : n.left = none := by
        have := hcond.1
        rw [Node.isMissing_left, Bool.and_eq_true] at this
        simpa using this.2
      exact h.combine hs hnp (Node.isParenthesis_of_fits hb.isPlain hcond.2)
        (hn.withChild hb hcond.2) (by simpa using hnp) (Node.tokens_withChild_left hfree before)
    · exact h
  · exact h

/-- So does adopting a right one. -/
theorem adoptRight (h : b.Represents read) : b.adoptRight.1.Represents read := by
  rw [Builder.adoptRight]
  split
  · rename_i n before rest hs
    split
    · rename_i hcond
      rw [Bool.and_eq_true, Bool.and_eq_true] at hcond
      have hn := h.sound n (by simp [hs])
      have hb := h.sound before (by simp [hs])
      have hbp := Node.isParenthesis_of_isMissing hb.isPlain hcond.1.2
      have hfree : before.right = none := by
        have := hcond.1.2
        rw [Node.isMissing_right, Bool.and_eq_true] at this
        simpa using this.2
      exact h.combine hs (Node.isParenthesis_of_fits hn.isPlain hcond.2) hbp
        (hb.withChild hn hcond.2) (by simpa using hbp) (Node.tokens_withChild_right hfree n)
    · exact h
  · exact h

/-- After an adoption to the right the top is the parent, which is no parenthesis. -/
theorem isParenthesis_of_adoptRight (h : b.Represents read) (ha : b.adoptRight.2 = true) :
    ∀ n ∈ b.adoptRight.1.stack.head?, n.token.isParenthesis = false := by
  rw [Builder.adoptRight] at ha ⊢
  split at ha
  · rename_i n before rest hs
    split at ha
    · rename_i hcond
      rw [Bool.and_eq_true, Bool.and_eq_true] at hcond
      have hb := h.sound before (by simp [hs])
      rintro m hm
      obtain rfl : before.withChild .right (some n) = m := by simpa [hcond] using hm
      simpa using Node.isParenthesis_of_isMissing hb.isPlain hcond.1.2
    · cases ha
  · cases ha

/-! ### Entering -/

/-- An ordinary or unknown node on top of the stack changes nothing but the reasons. -/
theorem enter (h : b.Represents read) (hn : n.token.isParenthesis = false) :
    (b.enter n).Represents read := by
  have hk : n.kind ≠ .openParen ∧ n.kind ≠ .closeParen := Token.kind_ne_of_isParenthesis hn
  rw [Builder.enter]
  split
  · exact { h with known := by simp, nested := by simp }
  · exact absurd ‹_› hk.1
  · exact absurd ‹_› hk.2
  · exact h

/-- A new token that is no parenthesis becomes a tree of its own. -/
theorem push_enter_other (h : b.Represents read) (ht : t.isParenthesis = false) :
    ((b.push (.ofToken t)).enter (.ofToken t)).Represents (read ++ [t]) := by
  have hholds := h.toHolds.push ht
  have hnested (hr : b.reasons = []) := (h.nested hr).append_other ht
  -- An unknown token is a reason against any tree, after which nothing more is claimed.
  by_cases hu : t.kind = .unknown
  · have he : (b.push (.ofToken t)).enter (.ofToken t) =
        { b.push (.ofToken t) with reasons := .unknownToken t.literal :: b.reasons } := by
      simp [Builder.enter, Builder.push, hu, Node.literal, Node.ofToken]
    rw [he]
    exact { hholds with known := by simp, nested := by simp }
  · refine enter { hholds with known := fun hr => ?_, nested := hnested } ht
    have := h.known hr
    simpa [or_imp, forall_and] using ⟨this, hu⟩

/-- The place of an opening parenthesis is the height of the stack before it. -/
theorem pushOpening (h : b.Represents read) (ht : t.kind = .openParen) (hp : t.IsPlain) :
    (b.pushOpening t).Represents (read ++ [t]) where
  height := by simp [Builder.pushOpening, Builder.push, h.height]
  found := h.found
  sound := by simpa [Builder.pushOpening, Builder.push] using ⟨Node.isSound_ofToken hp, h.sound⟩
  opened := by simp [Builder.pushOpening, Builder.push, openPlaces, ht, h.height, h.opened]
  closing := by simpa [Builder.pushOpening, Builder.push, ht] using h.closing
  tokens := by
    have hpar : t.isParenthesis = true := by simp [Token.isParenthesis, ht]
    rw [Builder.pushOpening, Builder.push, stackTokens_cons, withoutParentheses_append,
      withoutParentheses_append, h.tokens]
    simp [Node.tokens]
  known hr := by
    have := h.known hr
    simpa [or_imp, forall_and, ht] using this
  nested hr := (h.nested hr).append_opening ht

/-- The node at the place of the innermost open parenthesis is that parenthesis: dropping it leaves
    all other tokens where they are. -/
theorem push_closeParenthesis (h : b.Represents read) (ht : t.kind = .closeParen) :
    (b.push (.ofToken t)).closeParenthesis.Represents (read ++ [t]) := by
  have hpar : t.isParenthesis = true := by simp [Token.isParenthesis, ht]
  have hread : withoutParentheses (read ++ [t]) = withoutParentheses read := by
    rw [withoutParentheses_append, withoutParentheses_singleton hpar, List.append_nil]
  cases hopened : b.opened with
  | nil =>
    have he : (b.push (.ofToken t)).closeParenthesis =
        { b with reasons := .unmatchedClosing :: b.reasons } := by
      simp [closeParenthesis, Builder.push, hopened]
    rw [he]
    exact { h.toHolds with tokens := h.tokens.trans hread.symm, known := by simp, nested := by simp }
  | cons below places =>
    obtain ⟨top, o, bottom, hs, ho, rfl, htop, hplaces⟩ :=
      exists_append_of_openPlaces (h.opened.symm.trans hopened)
    have he : (b.push (.ofToken t)).closeParenthesis =
        { b with opened := places, stack := top ++ bottom, height := b.height - 1 } := by
      rw [closeParenthesis]
      simp only [Builder.push, hopened, List.tail_cons, Nat.add_sub_cancel]
      exact removeAbove_append hs h.height
    have hmem : ∀ n ∈ top ++ bottom, n ∈ b.stack := by
      intro n hn
      rw [hs]
      rw [List.mem_append] at hn ⊢
      exact hn.imp_right (List.mem_cons_of_mem _)
    -- A parenthesis adopts nothing, so no other token goes with it.
    have ho' : withoutParentheses o.tokens = [] := by
      have hpo : o.token.isParenthesis = true := by
        simp [Token.isParenthesis, show o.token.kind = .openParen from ho]
      rw [(h.sound o (by simp [hs])).tokens_of_isParenthesis hpo, withoutParentheses_singleton hpo]
    rw [he]
    exact {
      height := by simp [h.height, hs]
      found := h.found
      sound := fun n hn => h.sound n (hmem n hn)
      opened := by rw [openPlaces_append htop, hplaces]
      closing := fun n hn => h.closing n (hmem n hn)
      tokens := by
        rw [hread, ← h.tokens, hs, stackTokens_append, stackTokens_append, stackTokens_cons]
        simp [withoutParentheses_append, ho']
      known := fun hr => by
        have := h.known hr
        simpa [or_imp, forall_and, ht] using this
      nested := fun hr => by
        have := h.nested hr
        rw [hopened] at this
        exact this.append_closing ht }

/-! ### Reading -/

/-- Whatever a token is, doing what its class asks for takes it in. -/
theorem push_enter (h : b.Represents read) (ht : t.kind = .openParen → t.descriptor.IsInert) :
    ((b.push (.ofToken t)).enter (.ofToken t)).Represents (read ++ [t]) := by
  by_cases ho : t.kind = .openParen
  · rw [enter_opening ho]
    exact h.pushOpening ho fun _ => ht ho
  by_cases hc : t.kind = .closeParen
  · rw [enter_of_closeParen (by exact hc)]
    exact h.push_closeParenthesis hc
  · exact h.push_enter_other (by simp [Token.isParenthesis, ho, hc])

/-- Examining the top keeps what the stack holds, if the top is no parenthesis that was entered
    before. Nor is it one if it is to be examined again. -/
theorem examine (h : b.Represents read)
    (htop : ∀ n ∈ b.stack.head?, n.token.isParenthesis = false) : b.examine.1.Represents read ∧
      (b.examine.2 = true → ∀ n ∈ b.examine.1.stack.head?, n.token.isParenthesis = false) := by
  rw [Builder.examine]
  split
  · exact ⟨h, by simp⟩
  · rename_i n rest hs
    have hentered := (h.enter (htop n (by simp [hs]))).adoptLeft
    exact ⟨hentered.adoptRight, hentered.isParenthesis_of_adoptRight⟩

/-- Examining a new token takes it in. -/
theorem examine_push (h : b.Represents read) (ht : t.kind = .openParen → t.descriptor.IsInert) :
    (b.push (.ofToken t)).examine.1.Represents (read ++ [t]) ∧
      ((b.push (.ofToken t)).examine.2 = true →
        ∀ n ∈ (b.push (.ofToken t)).examine.1.stack.head?, n.token.isParenthesis = false) := by
  have hentered := (h.push_enter ht).adoptLeft
  exact ⟨hentered.adoptRight, hentered.isParenthesis_of_adoptRight⟩

/-- Settling keeps what the stack holds, if the top is no parenthesis that was entered before. -/
theorem settle (h : b.Represents read)
    (htop : ∀ n ∈ b.stack.head?, n.token.isParenthesis = false) : b.settle.Represents read :=
  -- A node is examined again only as the parent that has just adopted the top. A parent is no
  -- parenthesis, so none is opened or closed twice.
  settle_invariant (P := (Represents · read)) (fun _ h htop => h.examine htop) h htop

/-- Reading one more token. -/
theorem accept (h : b.Represents read) (ht : t.kind = .openParen → t.descriptor.IsInert) :
    (b.accept t).Represents (read ++ [t]) := by
  obtain ⟨hexamined, htop⟩ := h.examine_push ht
  rw [accept_eq, settle_eq]
  split
  · rename_i hagain
    exact hexamined.settle (htop hagain)
  · exact hexamined

/-- Reading several more tokens of which the opening parentheses are inert. -/
theorem foldl_accept_of_openings (h : b.Represents read) {ts : List Token}
    (ht : ∀ t ∈ ts, t.kind = .openParen → t.descriptor.IsInert) :
    (ts.foldl Builder.accept b).Represents (read ++ ts) := by
  induction ts generalizing b read with
  | nil => simpa using h
  | cons t ts ih =>
    have := ih (h.accept (ht t (by simp))) fun u hu => ht u (by simp [hu])
    simpa using this

/-- Reading several more tokens. -/
theorem foldl_accept (h : b.Represents read) {ts : List Token} (ht : ∀ t ∈ ts, t.IsPlain) :
    (ts.foldl Builder.accept b).Represents (read ++ ts) :=
  h.foldl_accept_of_openings fun t hmem ho => ht t hmem (by simp [Token.isParenthesis, ho])

end Represents

end Builder

end RecordQuery
