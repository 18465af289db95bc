import RecordQuery.Proofs.Builder.Diagnostics
import RecordQuery.Proofs.Lexing.Concatenation

/-!
# Places of parentheses

The builder remembers where on its stack the open parentheses are, while it takes other nodes off
the stack around them. If opening parentheses take no operands and have no value, the places are
right at every step (`Builder.Passes.isPlaced`): nothing combines with an open parenthesis, so what
is on the stack up to it stays there until it is closed (`Builder.suffix_adoptLeft`,
`Builder.suffix_adoptRight`), and a closing parenthesis takes its own partner away. A parenthesis
that takes an operand or is one is moved or opened twice, and then some place is wrong
(`Builder.not_isPlaced_of_left`, `Builder.not_isPlaced_of_result`, `Builder.not_isPlaced_of_right`).

* `Builder.Passes`: where the building stands, examination by examination.
* `Builder.IsPlaced`: there is an open parenthesis at every place that is remembered.
* `Builder.Represents.accept_induct`: what adopting operands keeps is kept by reading a token.
* `KeepsPlaces`: all this along the reading of a list.
* `keepsPlaces_iff_isInert`: the lists and the grammars for which it holds.
-/

namespace RecordQuery

/-! ### Places on a stack -/

/-- At a place of an open parenthesis there is one, with that many nodes below it. -/
theorem exists_append_of_mem_openPlaces {stack : List Node} {below : Nat}
    (h : below ∈ openPlaces stack) :
    ∃ top o bottom, stack = top ++ o :: bottom ∧ o.kind = .openParen ∧ bottom.length = below := by
  induction stack with
  | nil => cases h
  | cons n rest ih =>
    have hrest (h : below ∈ openPlaces rest) : ∃ top o bottom, n :: rest = top ++ o :: bottom ∧
        o.kind = .openParen ∧ bottom.length = below := by
      obtain ⟨top, o, bottom, rfl, ho, hbelow⟩ := ih h
      exact ⟨n :: top, o, bottom, rfl, ho, hbelow⟩
    rw [openPlaces] at h
    split at h
    · rename_i hn
      rcases List.mem_cons.1 h with rfl | h
      · exact ⟨[], n, rest, rfl, hn, rfl⟩
      · exact hrest h
    · exact hrest h

/-- The places of open parentheses decrease from the top of the stack down. -/
theorem pairwise_openPlaces (stack : List Node) : (openPlaces stack).Pairwise (· > ·) := by
  induction stack with
  | nil => exact .nil
  | cons n rest ih =>
    rw [openPlaces]
    split
    · refine List.pairwise_cons.2 ⟨fun below hbelow => ?_, ih⟩
      obtain ⟨top, o, bottom, rfl, -, rfl⟩ := exists_append_of_mem_openPlaces hbelow
      simp only [List.length_append, List.length_cons]
      omega
    · exact ih

namespace Builder

variable {b b₀ : Builder} {read ts us : List Token} {t c : Token} {again : Bool} {n o : Node}
  {base : List Node}

/-! ### Steps -/

/-- Where the building can stand: the tokens `read` have been taken off the list, and `again` says
    that the top of the stack is to be examined before the next token is taken. -/
inductive Passes : List Token → Bool → Builder → Prop
  /-- Nothing has been read. -/
  | start : Passes [] false {}
  /-- The next token is put on the stack. -/
  | take {read : List Token} {b : Builder} (t : Token) :
    Passes read false b → Passes (read ++ [t]) true (b.push (.ofToken t))
  /-- The top of the stack is examined. -/
  | examine {read : List Token} {b : Builder} :
    Passes read true b → Passes read b.examine.2 b.examine.1

/-- From a token that was put on the stack, the building gets to where the stack has settled. -/
theorem Passes.settle (h : Passes read true b) : Passes read false b.settle := by
  fun_induction Builder.settle b with
  | case1 b hagain ih => exact ih (hagain ▸ h.examine)
  | case2 b hlast => exact Bool.eq_false_iff.2 hlast ▸ h.examine

/-- The building gets to where a list has been read. -/
theorem passes_foldl_accept (ts : List Token) : Passes ts false (ts.foldl accept {}) := by
  induction ts using List.reverseRecOn with
  | nil => exact .start
  | append_singleton ts t ih =>
    rw [List.foldl_append]
    exact (ih.take t).settle

/-- Where the building stands, it ends at the same builder once the stack has settled. -/
theorem Passes.settle_eq (h : Passes read again b) :
    (if again then b.settle else b) = read.foldl accept {} := by
  induction h with
  | start => rfl
  | take t _ ih =>
    rw [List.foldl_append, ← ih]
    rfl
  | @examine read b _ ih =>
    rw [← ih, Builder.settle_eq b]
    rfl

/-- Where the building stands between two tokens. -/
theorem passes_iff : Passes read false b ↔ b = read.foldl accept {} :=
  ⟨fun h => h.settle_eq, fun h => h ▸ passes_foldl_accept read⟩

/-- The places remembered are those of open parentheses. -/
structure IsPlaced (b : Builder) : Prop where
  /-- Parentheses that are further in have higher places. -/
  increasing : b.opened.Pairwise (· > ·)
  /-- At each place there is a node, and it is an opening parenthesis. -/
  opening : ∀ below ∈ b.opened, ∃ o, b.stack.reverse[below]? = some o ∧ o.kind = .openParen
  /-- No place was ever out of range. -/
  found : b.lost = false

/-- If the places remembered are those of the open parentheses on the stack, they are right. -/
theorem Represents.isPlaced (h : b.Represents read) : b.IsPlaced where
  increasing := h.opened ▸ pairwise_openPlaces b.stack
  opening below hbelow := by
    rw [h.opened] at hbelow
    obtain ⟨top, o, bottom, hs, ho, rfl⟩ := exists_append_of_mem_openPlaces hbelow
    exact ⟨o, by simp [hs], ho⟩
  found := h.found

/-- A node on top of the stack moves nothing below it. -/
theorem IsPlaced.push (h : b.IsPlaced) (n : Node) : (b.push n).IsPlaced where
  increasing := h.increasing
  opening below hbelow := by
    obtain ⟨o, ho, hk⟩ := h.opening below hbelow
    obtain ⟨hlt, -⟩ := List.getElem?_eq_some_iff.1 ho
    refine ⟨o, ?_, hk⟩
    rw [Builder.push, List.reverse_cons, List.getElem?_append_left hlt, ho]
  found := h.found

/-- Either a new token is on top of a stack that holds the tokens before it, or the stack holds all
    tokens, and its top is no parenthesis if it is to be examined. -/
theorem Passes.represents (h : Passes read again b)
    (hinert : ∀ t ∈ read, t.kind = .openParen → t.descriptor.IsInert) :
    (again = true ∧ ∃ front t, ∃ b₀ : Builder, read = front ++ [t] ∧ b = b₀.push (.ofToken t) ∧
      b₀.Represents front) ∨
    (b.Represents read ∧
      (again = true → ∀ n ∈ b.stack.head?, n.token.isParenthesis = false)) := by
  induction h with
  | start => exact .inr ⟨represents_nil, by simp⟩
  | take t _ ih =>
    obtain ⟨h, -⟩ | ⟨h, -⟩ := ih fun u hu => hinert u (List.mem_append_left _ hu)
    · cases h
    · exact .inl ⟨rfl, _, t, _, rfl, rfl, h⟩
  | examine _ ih =>
    obtain ⟨-, front, t, b₀, rfl, rfl, h⟩ | ⟨h, htop⟩ := ih hinert
    · exact .inr (h.examine_push (hinert t (by simp)))
    · exact .inr (h.examine (htop rfl))

/-- The places are right wherever the building stands, if opening parentheses are inert. -/
theorem Passes.isPlaced (h : Passes read again b)
    (hinert : ∀ t ∈ read, t.kind = .openParen → t.descriptor.IsInert) : b.IsPlaced := by
  obtain ⟨-, front, t, b₀, -, rfl, hfront⟩ | ⟨hread, -⟩ := h.represents hinert
  · exact hfront.isPlaced.push _
  · exact hread.isPlaced

/-! ### Open parentheses -/

/-- A node that is no parenthesis is entered without any change to the stack. -/
theorem enter_other (b : Builder) (hn : n.token.isParenthesis = false) :
    ∃ reasons, b.enter n = { b with reasons := reasons } := by
  have hk : n.kind ≠ .openParen ∧ n.kind ≠ .closeParen := Token.kind_ne_of_isParenthesis hn
  rw [enter]
  split
  · exact ⟨_, rfl⟩
  · exact absurd ‹_› hk.1
  · exact absurd ‹_› hk.2
  · exact ⟨_, rfl⟩

/-- What adopting operands keeps, whatever the reasons are, is kept by reading a token, once the
    token has been entered. -/
theorem Represents.accept_induct {P : Builder → Prop}
    (hreasons : ∀ b reasons, P b → P { b with reasons := reasons })
    (hleft : ∀ b, P b → P b.adoptLeft) (hright : ∀ b, P b → P b.adoptRight.1)
    (h : b.Represents read) (ht : t.kind = .openParen → t.descriptor.IsInert)
    (hP : P ((b.push (.ofToken t)).enter (.ofToken t))) : P (b.accept t) := by
  obtain ⟨hexamined, htop⟩ := h.examine_push ht
  have hP₁ : P (b.push (.ofToken t)).examine.1 := hright _ (hleft _ hP)
  rw [accept_eq, Builder.settle_eq]
  split
  · rename_i hagain
    -- What is examined again is no parenthesis, so it is entered without further effect.
    refine (settle_invariant (P := fun b => b.Represents (read ++ [t]) ∧ P b)
      (fun b hb htop => ⟨⟨(hb.1.examine htop).1, ?_⟩, (hb.1.examine htop).2⟩)
      ⟨hexamined, hP₁⟩ (htop hagain)).2
    rw [Builder.examine]
    split
    · exact hb.2
    · rename_i n rest hs
      obtain ⟨reasons, he⟩ := b.enter_other (htop n (by simp [hs]))
      exact hright _ (hleft _ (he ▸ hreasons _ _ hb.2))
  · exact hP₁

/-- Two neighbours make room for their tree above a node that is neither of them. -/
theorem suffix_of_ne {before : Node} {rest : List Node} (h : o :: base <:+ n :: before :: rest)
    (hn : o ≠ n) (hbefore : o ≠ before) (m : Node) : o :: base <:+ m :: rest := by
  rcases List.suffix_cons_iff.1 h with heq | h
  · exact absurd (List.cons.inj heq).1 hn
  rcases List.suffix_cons_iff.1 h with heq | h
  · exact absurd (List.cons.inj heq).1 hbefore
  · exact h.trans (List.suffix_cons _ _)

/-- A parenthesis that takes no operands and has no value stays on the stack, with all below it. -/
theorem suffix_adoptLeft (ho : o.descriptor.IsInert) (h : o :: base <:+ b.stack) :
    o :: base <:+ b.adoptLeft.stack := by
  rw [adoptLeft]
  split
  · rename_i n before rest hs
    split
    · rename_i hcond
      -- The parenthesis lacks no operand and fits nowhere, so it is neither of the two nodes.
      refine suffix_of_ne (hs ▸ h) ?_ ?_ _
      · rintro rfl
        simp [Node.isMissing_of_isInert ho] at hcond
      · rintro rfl
        simp [Node.fits_of_isInert ho] at hcond
    · exact h
  · exact h

/-- It stays there as well when the top becomes a right operand. -/
theorem suffix_adoptRight (ho : o.descriptor.IsInert) (h : o :: base <:+ b.stack) :
    o :: base <:+ b.adoptRight.1.stack := by
  rw [adoptRight]
  split
  · rename_i n before rest hs
    split
    · rename_i hcond
      refine suffix_of_ne (hs ▸ h) ?_ ?_ _
      · rintro rfl
        simp [Node.fits_of_isInert ho] at hcond
      · rintro rfl
        simp [Node.isMissing_of_isInert ho] at hcond
    · exact h
  · exact h

/-- Reading a token opens and closes what entering it does. -/
theorem Represents.opened_accept (h : b.Represents read)
    (ht : t.kind = .openParen → t.descriptor.IsInert) :
    (b.accept t).opened = ((b.push (.ofToken t)).enter (.ofToken t)).opened :=
  h.accept_induct (P := (·.opened = _)) (fun _ _ hb => hb)
    (fun b hb => (saysAs_adoptLeft b).2.trans hb) (fun b hb => (saysAs_adoptRight b).2.trans hb) ht
    rfl

/-- What is on the stack up to an open parenthesis stays there if entering the token leaves it. -/
theorem Represents.suffix_accept (h : b.Represents read)
    (ht : t.kind = .openParen → t.descriptor.IsInert) (ho : o.descriptor.IsInert)
    (hs : o :: base <:+ ((b.push (.ofToken t)).enter (.ofToken t)).stack) :
    o :: base <:+ (b.accept t).stack :=
  h.accept_induct (P := (o :: base <:+ ·.stack)) (fun _ _ hb => hb)
    (fun _ hb => suffix_adoptLeft ho hb) (fun _ hb => suffix_adoptRight ho hb) ht hs

/-- A closing parenthesis takes away the opening one at the innermost place, and itself. -/
theorem enter_partner {places : List Nat} (hc : c.kind = .closeParen)
    (hheight : b.height = b.stack.length) (hopened : b.opened = base.length :: places)
    (hs : o :: base <:+ b.stack) :
    ∃ top, b.stack = top ++ o :: base ∧ (b.push (.ofToken c)).enter (.ofToken c) =
      { b with stack := top ++ base, height := b.height - 1, opened := places } := by
  obtain ⟨top, htop⟩ := hs
  refine ⟨top, htop.symm, ?_⟩
  rw [enter_of_closeParen (by exact hc), closeParenthesis_push_of_cons _ hopened]
  exact removeAbove_append htop.symm hheight

/-- What is on the stack up to an open parenthesis stays there while tokens in balanced parentheses
    are read, and all that they open is closed again. -/
theorem Represents.foldl_accept_paired (hus : Paired us) (h : b.Represents read)
    (hinert : ∀ t ∈ us, t.kind = .openParen → t.descriptor.IsInert) (ho : o.descriptor.IsInert)
    (hs : o :: base <:+ b.stack) :
    o :: base <:+ (us.foldl Builder.accept b).stack ∧
      (us.foldl Builder.accept b).opened = b.opened := by
  induction hus generalizing b read o base with
  | nil => exact ⟨hs, rfl⟩
  | @token us t _ ht ih =>
    simp only [List.forall_mem_append, List.forall_mem_singleton] at hinert
    obtain ⟨hs₁, hopened₁⟩ := ih h hinert.1 ho hs
    have h₁ := h.foldl_accept_of_openings hinert.1
    rw [List.foldl_append, List.foldl_cons, List.foldl_nil]
    generalize us.foldl Builder.accept b = b₁ at hs₁ hopened₁ h₁
    -- A token that is no parenthesis is entered without any change to what is below it.
    obtain ⟨reasons, hentered⟩ := (b₁.push (.ofToken t)).enter_other (n := .ofToken t) ht
    refine ⟨h₁.suffix_accept hinert.2 ho ?_, ?_⟩
    · rw [hentered]
      exact hs₁.trans (List.suffix_cons _ _)
    · rw [h₁.opened_accept hinert.2, hentered]
      exact hopened₁
  | @parens us inner o' c _ ho' _ hc ih ih' =>
    simp only [List.forall_mem_append, List.forall_mem_cons] at hinert
    obtain ⟨hus, hinert', hinner, hclosing, -⟩ := hinert
    obtain ⟨hs₁, hopened₁⟩ := ih h hus ho hs
    have h₁ := h.foldl_accept_of_openings hus
    rw [List.foldl_append, List.foldl_cons, List.foldl_append, List.foldl_cons, List.foldl_nil]
    generalize us.foldl Builder.accept b = b₁ at hs₁ hopened₁ h₁
    have h₂ := h₁.accept hinert'
    rw [accept_opening ho' (hinert' ho')] at h₂ ⊢
    -- The tokens inside leave the inner parenthesis and all below it, so this is what is closed.
    obtain ⟨hs₃, hopened₃⟩ := ih' (o := .ofToken o') h₂ hinner (hinert' ho') (List.suffix_refl _)
    have h₃ := h₂.foldl_accept_of_openings hinner
    generalize inner.foldl Builder.accept (b₁.pushOpening o') = b₃ at hs₃ hopened₃ h₃
    obtain ⟨top, -, hentered⟩ := enter_partner hc h₃.height
      (hopened₃.trans (congrArg (· :: _) h₁.height)) hs₃
    refine ⟨h₃.suffix_accept hclosing ho ?_, ?_⟩
    · rw [hentered]
      exact hs₁.trans (List.suffix_append _ _)
    · rw [h₃.opened_accept hclosing, hentered]
      exact hopened₁

/-- As many parentheses are open as the tokens leave open. -/
theorem length_opened (hinert : ∀ t ∈ ts, t.kind = .openParen → t.descriptor.IsInert) :
    (ts.foldl accept {}).opened.length = depthAfter ts := by
  induction ts using List.reverseRecOn with
  | nil => rfl
  | append_singleton ts t ih =>
    simp only [List.forall_mem_append, List.forall_mem_singleton] at hinert
    have h := represents_nil.foldl_accept_of_openings hinert.1
    have hdepth := ih hinert.1
    rw [List.foldl_append, List.foldl_cons, List.foldl_nil, h.opened_accept hinert.2,
      depthAfter_append, List.foldl_cons, List.foldl_nil, ← hdepth]
    generalize ts.foldl accept {} = b
    -- An opening parenthesis adds a place, a closing one takes one if there is any.
    rcases t.parenthesis_cases with hopen | hclose | hother
    · simp [enter_opening hopen, pushOpening, Token.depthAfter, hopen]
    · rw [enter_of_closeParen (by exact hclose), Token.depthAfter, hclose]
      cases hb : b.opened with
      | nil => rw [closeParenthesis_push_of_nil _ hb, hb]; rfl
      | cons below places =>
        rw [closeParenthesis_push_of_cons _ hb, (saysAs_removeAbove _ _).2]
        rfl
    · obtain ⟨reasons, hentered⟩ := (b.push (.ofToken t)).enter_other (n := .ofToken t) hother
      rw [hentered, Token.depthAfter_of_isParenthesis hother]
      rfl

/-- If no place was out of range, the end does not say so. -/
theorem finish_ne_lostParenthesis (h : b.lost = false) : b.finish ≠ .error .lostParenthesis := by
  rw [finish, if_neg (by rw [h]; exact Bool.false_ne_true)]
  split
  · split <;> simp
  · simp

end Builder

/-! ### Lists -/

/-- While a list is read, the places of open parentheses are right at every step, a closing
    parenthesis takes nothing away but itself and its own partner, and the list is built. -/
structure KeepsPlaces (ts : List Token) : Prop where
  /-- At every step there is an open parenthesis at every place that is remembered. -/
  placed : ∀ read again b, read <+: ts → Builder.Passes read again b → b.IsPlaced
  /-- A closing parenthesis takes away the opening one that it is the partner of, which is where it
      was put, on what was then on the stack. -/
  partner : ∀ front o us c b₀ b, front ++ o :: (us ++ [c]) <+: ts → o.kind = .openParen →
    c.kind = .closeParen → Balanced us → Builder.Passes front false b₀ →
    Builder.Passes (front ++ o :: us) false b →
    ∃ top, b.stack = top ++ .ofToken o :: b₀.stack ∧ (b.push (.ofToken c)).enter (.ofToken c) =
      { b with stack := top ++ b₀.stack, height := b.height - 1, opened := b₀.opened }
  /-- A closing parenthesis without a partner takes away itself, and is reported. -/
  unmatched : ∀ front c b, front ++ [c] <+: ts → c.kind = .closeParen → ¬PartnerBefore front →
    Builder.Passes front false b → (b.push (.ofToken c)).enter (.ofToken c) =
      { b with reasons := .unmatchedClosing :: b.reasons }
  /-- No place is out of range, so there is a tree or a list of reasons why there is none. -/
  built : buildTree ts ≠ .error .lostParenthesis

/-- Places are kept if opening parentheses take no operands and have no value. -/
theorem keepsPlaces_of_isInert {ts : List Token}
    (hinert : ∀ t ∈ ts, t.kind = .openParen → t.descriptor.IsInert) : KeepsPlaces ts where
  placed read again b hread h := h.isPlaced fun t ht => hinert t (hread.subset ht)
  partner front o us c b₀ b hts ho hc hus hb₀ hb := by
    have hall := fun t ht => hinert t (hts.subset ht)
    simp only [List.forall_mem_append, List.forall_mem_cons] at hall
    obtain ⟨hfront, ho', hus', -⟩ := hall
    obtain rfl := Builder.passes_iff.1 hb₀
    obtain rfl := Builder.passes_iff.1 hb
    have h := Builder.represents_nil.foldl_accept_of_openings hfront
    rw [List.foldl_append, List.foldl_cons]
    generalize front.foldl Builder.accept {} = b₀ at h
    have hopened := h.accept ho'
    rw [Builder.accept_opening ho (ho' ho)] at hopened ⊢
    -- The tokens inside leave the parenthesis where it was put, and close what they open.
    obtain ⟨hs, hplaces⟩ := hopened.foldl_accept_paired (o := .ofToken o) hus.paired hus' (ho' ho)
      (List.suffix_refl _)
    exact Builder.enter_partner hc (hopened.foldl_accept_of_openings hus').height
      (hplaces.trans (congrArg (· :: _) h.height)) hs
  unmatched front c b hts hc hfront hb := by
    have hinert' : ∀ t ∈ front, t.kind = .openParen → t.descriptor.IsInert :=
      fun t ht => hinert t (hts.subset (List.mem_append_left _ ht))
    obtain rfl := Builder.passes_iff.1 hb
    -- No place is remembered exactly if there is no partner.
    rw [partnerBefore_iff, ← Builder.length_opened hinert', List.length_pos_iff, not_not] at hfront
    rw [Builder.enter_of_closeParen (by exact hc), Builder.closeParenthesis_push_of_nil _ hfront]
  built := by
    by_cases hne : ts = []
    · subst hne
      simp [buildTree]
    · rw [buildTree_of_ne_nil hne]
      exact Builder.finish_ne_lostParenthesis
        (Builder.represents_nil.foldl_accept_of_openings hinert).found

/-! ### Parentheses that take operands or have a value -/

namespace Builder

variable {b : Builder} {read : List Token} {x y o u a : Token} {n : Node} {ty : EvalType}

/-- The first token finds nothing that it could take or that could take it. -/
theorem accept_first (ht : x.kind ≠ .closeParen) :
    accept {} x = (push {} (.ofToken x)).enter (.ofToken x) := by
  refine settle_of_examine ?_
  have hs : ((push {} (.ofToken x)).enter (.ofToken x)).stack = [.ofToken x] := by
    rw [enter]
    split <;> first | rfl | exact absurd ‹_› ht
  show ((push {} (.ofToken x)).enter (.ofToken x)).adoptLeft.adoptRight = _
  rw [adoptLeft]
  simp only [hs]
  rw [adoptRight]
  simp only [hs]

/-- An opening parenthesis at the start is put on the empty stack, whatever its types. -/
theorem accept_first_opening (ho : o.kind = .openParen) : accept {} o = pushOpening {} o :=
  (accept_first (by rw [ho]; decide)).trans (enter_opening ho)

/-- The second token takes the first one. -/
theorem adopt_second (hs : b.stack = [.ofToken y, .ofToken x])
    (hy : y.descriptor.left = some ty) (hx : x.descriptor.result = some ty) :
    b.adoptLeft.adoptRight =
      ({ b with stack := [⟨y, some (.ofToken x), none⟩], height := b.height - 1 }, false) := by
  have hm : (Node.ofToken y).isMissing .left = true := by
    simp [Node.isMissing_left, Node.ofToken, hy]
  have hf : (Node.ofToken y).fits .left (.ofToken x) = true := Node.fits_iff.2 ⟨ty, hy, hx⟩
  rw [adoptLeft]
  simp only [hs, hm, hf, Bool.and_self, if_true]
  rfl

/-- A parenthesis that takes the token before it is no longer where it was put: its place is out of
    range. -/
theorem not_isPlaced_of_left (hx : x.kind.isOrdinary = true) (ho : o.kind = .openParen)
    (hleft : o.descriptor.left = some ty) (hresult : x.descriptor.result = some ty) :
    ∃ again b, Passes [x, o] again b ∧ ¬b.IsPlaced := by
  have hfirst : accept {} x = push {} (.ofToken x) :=
    (accept_first fun h => by simp [h, TokenKind.isOrdinary] at hx).trans (enter_of_isOrdinary hx)
  have hexamined : ((accept {} x).push (.ofToken o)).examine =
      ({ pushOpening (push {} (.ofToken x)) o with
          stack := [⟨o, some (.ofToken x), none⟩], height := 1 }, false) := by
    rw [hfirst]
    show (((push {} (.ofToken x)).push (.ofToken o)).enter (.ofToken o)).adoptLeft.adoptRight = _
    rw [enter_opening ho]
    exact adopt_second rfl hleft hresult
  refine ⟨_, _, ((passes_foldl_accept [x]).take o).examine, ?_⟩
  rw [List.foldl_cons, List.foldl_nil, hexamined]
  intro h
  -- The place that is remembered is `1`, above the single node of the stack.
  obtain ⟨n, hn, -⟩ := h.opening 1 (by simp [pushOpening, push])
  cases hn

/-- A parenthesis that is taken by the token after it is no longer where it was put: at its place
    there is that token. -/
theorem not_isPlaced_of_result (ho : o.kind = .openParen) (hy : y.kind.isOrdinary = true)
    (hleft : y.descriptor.left = some ty) (hresult : o.descriptor.result = some ty) :
    ∃ again b, Passes [o, y] again b ∧ ¬b.IsPlaced := by
  have hexamined : ((accept {} o).push (.ofToken y)).examine =
      ({ pushOpening {} o with stack := [⟨y, some (.ofToken o), none⟩], height := 1 }, false) := by
    rw [accept_first_opening ho, examine_push (by exact hy)]
    exact adopt_second rfl hleft hresult
  refine ⟨_, _, ((passes_foldl_accept [o]).take y).examine, ?_⟩
  rw [List.foldl_cons, List.foldl_nil, hexamined]
  intro h
  -- At place `0` there is the token that took the parenthesis.
  obtain ⟨n, hn, hopen⟩ := h.opening 0 (by simp [pushOpening])
  obtain rfl : (⟨y, some (.ofToken o), none⟩ : Node) = n := Option.some.inj hn
  rw [Node.kind_mk] at hopen
  simp [hopen, TokenKind.isOrdinary] at hy

/-- A parenthesis that is examined again is opened again. -/
theorem not_isPlaced_examine {rest : List Node} (hs : b.stack = n :: rest)
    (hn : n.kind = .openParen) (hopened : b.height - 1 ∈ b.opened) : ¬b.examine.1.IsPlaced := by
  intro h
  have hagain : b.examine.1.opened = (b.height - 1) :: b.opened := by
    have henter : (b.enter n).opened = (b.height - 1) :: b.opened := by simp [enter, hn]
    have hexamine : b.examine.1 = (b.enter n).adoptLeft.adoptRight.1 := by rw [examine, hs]
    rw [hexamine, (saysAs_adoptRight _).2, (saysAs_adoptLeft _).2, henter]
  have hincreasing := h.increasing
  rw [hagain, List.pairwise_cons] at hincreasing
  exact lt_irrefl _ (hincreasing.1 _ hopened)

/-- A parenthesis that takes the tree after it is examined again. -/
theorem Passes.not_isPlaced (h : Passes read true ((pushOpening {} o).push n))
    (ho : o.kind = .openParen) (hright : o.descriptor.right = some ty) (hn : n.IsReady ty) :
    ∃ again b, Passes read again b ∧ ¬b.IsPlaced := by
  have hm : (Node.ofToken o).isMissing .right = true := by
    simp [Node.isMissing_right, Node.ofToken, hright]
  have hexamined : ((pushOpening {} o).push n).examine =
      ({ pushOpening {} o with stack := [⟨o, none, some n⟩] }, true) :=
    examine_push_push (b := { opened := [0] }) hn hm hright
  have hagain := h.examine
  rw [hexamined] at hagain
  exact ⟨_, _, hagain.examine, not_isPlaced_examine rfl ho (by simp [pushOpening, push])⟩

/-- A parenthesis that takes an operand after it takes a token, or a token with its own operand. -/
theorem not_isPlaced_of_right (ho : o.kind = .openParen) (hright : o.descriptor.right = some ty)
    (hu : u.HasSignature none (some .primitive) .boolean)
    (ha : a.HasSignature none none .primitive) :
    ∃ us again b, us ⊆ [u, a] ∧ Passes (o :: us) again b ∧ ¬b.IsPlaced := by
  have ha' : (Node.ofToken a).IsReady .primitive := Node.isReady_mk ha rfl rfl
  cases ty with
  | primitive =>
    have h := (passes_foldl_accept [o]).take a
    rw [List.foldl_cons, List.foldl_nil, accept_first_opening ho] at h
    obtain ⟨again, b, hb⟩ := h.not_isPlaced ho hright ha'
    exact ⟨[a], again, b, by simp, hb⟩
  | boolean =>
    have h := ((passes_foldl_accept [o, u]).take a).examine
    have hm : Node.isMissing ⟨u, none, none⟩ .right = true := by
      simp [Node.isMissing_right, hu.right]
    rw [List.foldl_cons, List.foldl_cons, List.foldl_nil, accept_first_opening ho,
      accept_unary hu, examine_push_push ha' hm hu.right] at h
    obtain ⟨again, b, hb⟩ := h.not_isPlaced ho hright (Node.isReady_mk hu rfl rfl)
    exact ⟨[u, a], again, b, by simp, hb⟩

end Builder

/-- A list does not keep its places if one is wrong somewhere on the way. -/
theorem not_keepsPlaces_of_passes {ts : List Token}
    (h : ∃ again b, Builder.Passes ts again b ∧ ¬b.IsPlaced) : ¬KeepsPlaces ts := by
  rintro ⟨placed, -, -, -⟩
  obtain ⟨again, b, hpasses, hb⟩ := h
  exact hb (placed _ _ _ List.prefix_rfl hpasses)

namespace Grammar

variable {g : Grammar}

/-- If a parenthesis takes operands or has a value, the tokens of the standard grammar show it. -/
theorem exists_not_keepsPlaces {d : Descriptor}
    (hg : ∀ d ∈ standard.entries, d.kind.isOrdinary = true → d ∈ g.entries) (hd : d ∈ g.entries)
    (ho : d.kind = .openParen) (h : ¬d.IsInert) :
    ∃ ts : List Token, (∀ t ∈ ts, t.descriptor ∈ g.entries) ∧ ¬KeepsPlaces ts := by
  let token (d : Descriptor) : Token := ⟨d, .text ""⟩
  -- Two tokens show a left operand or a value; a right operand may need one of its own.
  cases hleft : d.left with
  | some ty =>
    obtain ⟨e, he, hordinary, hresult⟩ :
        ∃ e ∈ standard.entries, e.kind.isOrdinary = true ∧ e.result = some ty := by
      cases ty <;> decide
    refine ⟨[token e, token d], ?_, not_keepsPlaces_of_passes
      (Builder.not_isPlaced_of_left hordinary ho hleft hresult)⟩
    simpa [token] using ⟨hg e he hordinary, hd⟩
  | none =>
  cases hresult : d.result with
  | some ty =>
    obtain ⟨e, he, hordinary, hleft⟩ :
        ∃ e ∈ standard.entries, e.kind.isOrdinary = true ∧ e.left = some ty := by
      cases ty <;> decide
    refine ⟨[token d, token e], ?_, not_keepsPlaces_of_passes
      (Builder.not_isPlaced_of_result ho hordinary hleft hresult)⟩
    simpa [token] using ⟨hd, hg e he hordinary⟩
  | none =>
  cases hright : d.right with
  | some ty =>
    obtain ⟨e, he, hordinary, hl, hr, hv⟩ : ∃ e ∈ standard.entries, e.kind.isOrdinary = true ∧
        e.left = none ∧ e.right = some .primitive ∧ e.result = some .boolean := by decide
    obtain ⟨e', he', hordinary', hl', hr', hv'⟩ : ∃ e ∈ standard.entries,
        e.kind.isOrdinary = true ∧ e.left = none ∧ e.right = none ∧ e.result = some .primitive := by
      decide
    obtain ⟨us, again, b, hus, hb⟩ := Builder.not_isPlaced_of_right (o := token d) (u := token e)
      (a := token e') ho hright ⟨hordinary, hl, hr, hv⟩ ⟨hordinary', hl', hr', hv'⟩
    refine ⟨token d :: us, List.forall_mem_cons.2 ⟨hd, fun t ht => ?_⟩,
      not_keepsPlaces_of_passes ⟨again, b, hb⟩⟩
    rcases List.mem_pair.1 (hus ht) with rfl | rfl
    · exact hg e he hordinary
    · exact hg e' he' hordinary'
  | none => exact absurd ⟨hleft, hright, hresult⟩ h

end Grammar

/-- Whatever the other tokens are, places are kept in every list whose opening parentheses take no
    operands and have no value: at every step there is an open parenthesis at every place, one after
    the other, a closing parenthesis takes away its own partner, and the list is built. In a grammar
    with the operators and operands of the standard grammar, places are kept in all lists only if
    all opening parentheses are such. -/
theorem keepsPlaces_iff_isInert (g : Grammar) :
    (∀ ts, (∀ t ∈ ts, t.kind = .openParen → t.descriptor.IsInert) → KeepsPlaces ts) ∧
    ((∀ d ∈ Grammar.standard.entries, d.kind.isOrdinary = true → d ∈ g.entries) →
      ((∀ ts : List Token, (∀ t ∈ ts, t.descriptor ∈ g.entries ∨ t.descriptor = .unknown) →
        KeepsPlaces ts) ↔ ∀ d ∈ g.entries, d.kind = .openParen → d.IsInert)) := by
  refine ⟨fun ts => keepsPlaces_of_isInert, fun hg => ⟨fun hkeeps d hd ho => ?_, ?_⟩⟩
  · by_contra hinert
    obtain ⟨ts, hts, hlost⟩ := g.exists_not_keepsPlaces hg hd ho hinert
    exact hlost (hkeeps ts fun t ht => .inl (hts t ht))
  · intro hinert ts hts
    refine keepsPlaces_of_isInert fun t ht ho => ?_
    rcases hts t ht with hd | hunknown
    · exact hinert _ hd ho
    · rw [Token.kind, hunknown] at ho
      cases ho

/-- The places of `a (= 1)` are kept, and in a grammar whose brackets take a condition there is a
    list whose places are not. -/
theorem keepsPlaces_brackets :
    let token (id literal : String) : Token := ⟨Grammar.described id, .text literal⟩
    let tokens := [token "record_property" "a", token "open_parenthesis" "(", token "equals" "=",
      token "number" "1", token "close_parenthesis" ")"]
    let bracket : Descriptor := { id := "bracket", kind := .openParen, right := some .boolean }
    let g := Grammar.standard.register "bracket" bracket
    ((∀ t ∈ tokens, t.kind = .openParen → t.descriptor.IsInert) ∧ KeepsPlaces tokens) ∧
    (∀ d ∈ Grammar.standard.entries, d.kind.isOrdinary = true → d ∈ g.entries) ∧
    ¬∀ ts : List Token, (∀ t ∈ ts, t.descriptor ∈ g.entries ∨ t.descriptor = .unknown) →
      KeepsPlaces ts := by
  intro token tokens bracket g
  have hinert : ∀ t ∈ tokens, t.kind = .openParen → t.descriptor.IsInert := by
    intro t ht ho
    simp only [tokens, List.mem_cons, List.not_mem_nil, or_false] at ht
    rcases ht with rfl | rfl | rfl | rfl | rfl <;> first | exact ⟨rfl, rfl, rfl⟩ | cases ho
  have hentries : g.entries = Grammar.standard.entries ++ [bracket] := rfl
  have hg : ∀ d ∈ Grammar.standard.entries, d.kind.isOrdinary = true → d ∈ g.entries :=
    fun d hd _ => hentries ▸ List.mem_append_left _ hd
  refine ⟨⟨hinert, (keepsPlaces_iff_isInert g).1 tokens hinert⟩, hg, fun hkeeps => ?_⟩
  have hbracket : bracket ∈ g.entries := hentries ▸ List.mem_append_right _ List.mem_cons_self
  cases (((keepsPlaces_iff_isInert g).2 hg).1 hkeeps bracket hbracket rfl).right

/-- If parentheses have a value, then `=` takes the opening one in `a = ( b )`, and closing takes
    `b` away in its place. In `a = ( )` there is nothing at that place. -/
theorem not_keepsPlaces_valued_parenthesis :
    let opening := { Grammar.described "open_parenthesis" with result := some .primitive }
    let g := Grammar.standard.register "open_parenthesis" opening
    let name : Token := ⟨Grammar.described "record_property", .text "a"⟩
    let eq : Token := ⟨Grammar.described "equals", .text "="⟩
    ¬KeepsPlaces (g.tokenize "a = ( b )") ∧
      buildTree (g.tokenize "a = ( b )") =
        .ok ⟨eq, some (.ofToken name), some (.ofToken ⟨opening, .text "("⟩)⟩ ∧
      buildTree (g.tokenize "a = ( )") = .error .lostParenthesis := by
  intro opening g name eq
  let o : Token := ⟨opening, .text "("⟩
  let other : Token := ⟨Grammar.described "record_property", .text "b"⟩
  let closing : Token := ⟨Grammar.described "close_parenthesis", .text ")"⟩
  let root : Node := ⟨eq, some (.ofToken name), some (.ofToken o)⟩
  have htokens : g.tokenize "a = ( b )" = [name, eq, o, other, closing] :=
    (Lexer.ReadsTo.cons rfl (.cons rfl (.cons rfl (.cons rfl (.cons rfl .nil))))).tokens_of_end rfl
  have htokens' : g.tokenize "a = ( )" = [name, eq, o, closing] :=
    (Lexer.ReadsTo.cons rfl (.cons rfl (.cons rfl (.cons rfl .nil)))).tokens_of_end rfl
  have h₁ : Builder.accept {} name = ⟨[.ofToken name], 1, [], [], false⟩ :=
    Builder.settle_of_examine rfl
  have h₂ : Builder.accept ⟨[.ofToken name], 1, [], [], false⟩ eq =
      ⟨[⟨eq, some (.ofToken name), none⟩], 1, [], [], false⟩ := Builder.settle_of_examine rfl
  have h₃ : Builder.accept ⟨[⟨eq, some (.ofToken name), none⟩], 1, [], [], false⟩ o =
      ⟨[root], 1, [1], [], false⟩ :=
    (Builder.settle_of_examine_again rfl).trans (Builder.settle_of_examine rfl)
  have hopened : [name, eq, o].foldl Builder.accept {} = ⟨[root], 1, [1], [], false⟩ := by
    rw [List.foldl_cons, h₁, List.foldl_cons, h₂, List.foldl_cons, h₃, List.foldl_nil]
  refine ⟨fun h => ?_, ?_, ?_⟩
  · have hplaced := h.placed [name, eq, o] false _ (htokens ▸ List.prefix_append _ [other, closing])
      (Builder.passes_foldl_accept _)
    rw [hopened] at hplaced
    obtain ⟨n, hn, -⟩ := hplaced.opening 1 (by simp)
    cases hn
  · have h₄ : Builder.accept ⟨[root], 1, [1], [], false⟩ other =
        ⟨[.ofToken other, root], 2, [1], [], false⟩ := Builder.settle_of_examine rfl
    have h₅ : Builder.accept ⟨[.ofToken other, root], 2, [1], [], false⟩ closing =
        ⟨[root], 1, [], [], false⟩ := Builder.settle_of_examine rfl
    have hread : (g.tokenize "a = ( b )").foldl Builder.accept {} =
        ⟨[root], 1, [], [], false⟩ := by
      rw [htokens, show [name, eq, o, other, closing] = [name, eq, o] ++ [other, closing] from rfl,
        List.foldl_append, hopened, List.foldl_cons, h₄, List.foldl_cons, h₅, List.foldl_nil]
    have hfaults : Builder.faults root = [] := by
      rw [Builder.faults, root.nodes_eq_preorder]
      rfl
    rw [buildTree_of_ne_nil (by simp [htokens]), hread]
    exact Builder.finish_eq_ok_iff.2 ⟨rfl, rfl, rfl, rfl, hfaults⟩
  · have h₄ : Builder.accept ⟨[root], 1, [1], [], false⟩ closing =
        ⟨[root], 1, [], [], true⟩ := Builder.settle_of_examine rfl
    have hread : (g.tokenize "a = ( )").foldl Builder.accept {} = ⟨[root], 1, [], [], true⟩ := by
      rw [htokens', show [name, eq, o, closing] = [name, eq, o] ++ [closing] from rfl,
        List.foldl_append, hopened, List.foldl_cons, h₄, List.foldl_nil]
    rw [buildTree_of_ne_nil (by simp [htokens']), hread]
    rfl

end RecordQuery
