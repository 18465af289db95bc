import RecordQuery.Proofs.Builder.Enclosed

/-!
# What is wrong with a list

The builder does not stop at a fault. It goes through all tokens, and reports in the end what is
wrong with them (`buildTree_messages`): first what is wrong with single tokens, in their order,
which can be said of each from the tokens before it; then whether a parenthesis stays open; then
what is wrong with what is left on the stack.

A node can be examined several times, but only the first time it is a new token. Later it is the
parent of the tree that was on top of it, so it takes operands and is neither unknown nor a
parenthesis, and nothing is reported twice (`Builder.IsOrderly.settle`). Each examination but the
first takes a node off the stack, so there are fewer than twice as many as there are tokens
(`Builder.exists_run`).

* `complaints`, `leftoverMessages`, `messages`: what is wrong with a list.
* `Builder.Settles`, `Builder.Run`: examinations of a node, one after the other.
* `Builder.Tracks`: the builder knows how many parentheses are open.
-/

namespace RecordQuery

/-! ### Messages -/

/-- What is said of a token, if others come before it. -/
def Token.complaint? (before : List Token) (t : Token) : Option String :=
  if t.kind = .unknown then some ("found unknown token: " ++ t.literal.display)
  else if t.kind = .closeParen ∧ ¬PartnerBefore before then some "unmatched closing parenthesis"
  else none

/-- What is said of tokens one by one, if others come before them. -/
def complaints (before : List Token) : List Token → List String
  | [] => []
  | t :: ts => (t.complaint? before).toList ++ complaints (before ++ [t]) ts

/-- What is said of a node that lacks operands. -/
def Node.complaints (n : Node) : List String :=
  (if n.isMissing .left then ["'" ++ n.literal.display ++ "' is missing its left operand"]
    else []) ++
    if n.isMissing .right then ["'" ++ n.literal.display ++ "' is missing its right operand"]
    else []

/-- What is said of the trees that are left. -/
def leftoverMessages : List Node → List String
  | [root] =>
    root.preorder.flatMap Node.complaints ++
      if MixesParameters root.tokens then ["query mixes %@ wildcards and \x7bnamed\x7d parameters"]
      else []
  | _ => ["string did not resolve to a single tree"]

/-- The trees that are left of a list of tokens. -/
def leftover (ts : List Token) : List Node :=
  if ts = [] then [.alwaysTrue] else (ts.foldl Builder.accept {}).stack

/-- All that is said of a list of tokens. -/
def messages (ts : List Token) : List String :=
  complaints [] ts ++ (if LeavesOpen ts then ["unmatched opening parenthesis"] else []) ++
    leftoverMessages (leftover ts)

/-- The faults of the one tree that is left are worded node by node. -/
theorem message_faults (root : Node) :
    (Builder.faults root).map Diagnostic.message = leftoverMessages [root] := by
  have hmissing (n : Node) :
      ((if n.isMissing .left then [Diagnostic.missingLeft n.literal] else []) ++
        if n.isMissing .right then [Diagnostic.missingRight n.literal] else []).map
          Diagnostic.message = n.complaints := by
    rw [Node.complaints]
    cases n.isMissing .left <;> cases n.isMissing .right <;> rfl
  have hmixed : (root.nodes.any (·.kind == .wildCard) && root.nodes.any (·.kind == .parameter)) =
      decide (MixesParameters root.tokens) := by
    rw [Bool.eq_iff_iff, decide_eq_true_iff, Node.mixesParameters_tokens]
    simp [Node.mem_nodes_iff]
  simp only [Builder.faults, hmixed, decide_eq_true_eq, List.map_append, List.map_flatMap, hmissing]
  rw [leftoverMessages, Node.nodes_eq_preorder]
  congr 1
  split <;> rfl

namespace Builder

/-! ### Examinations -/

/-- Examining the top of the stack until nothing is to be done leads from one builder to another,
    with a number of examinations. -/
inductive Settles : Builder → Nat → Builder → Prop
  /-- Nothing more is to be done. -/
  | last {b b' : Builder} : b.examine = (b', false) → Settles b 1 b'
  /-- The new top is to be examined. -/
  | again {b b₁ b' : Builder} {k : Nat} :
    b.examine = (b₁, true) → Settles b₁ k b' → Settles b (k + 1) b'

/-- Reading tokens leads from one builder to another, with a number of examinations in all. -/
inductive Run : Builder → List Token → Nat → Builder → Prop
  /-- No tokens. -/
  | nil {b : Builder} : Run b [] 0 b
  /-- A token settles, and the others are read. -/
  | cons {b b₁ b' : Builder} {t : Token} {ts : List Token} {k m : Nat} :
    Settles (b.push (.ofToken t)) k b₁ → Run b₁ ts m b' → Run b (t :: ts) (k + m) b'

/-- An examination never makes the stack larger. -/
theorem stack_length_examine_le (b : Builder) : b.examine.1.stack.length ≤ b.stack.length := by
  have hadopt (b : Builder) : b.adoptRight.1.stack.length ≤ b.stack.length := by
    rw [adoptRight]
    split
    · split <;> simp_all
    · exact Nat.le_refl _
  rw [examine]
  split
  · exact Nat.le_refl _
  · exact Nat.le_trans (hadopt _)
      (Nat.le_trans (stack_length_adoptLeft _) (stack_length_enter b _))

/-- Each examination but the first takes a node off the stack, and there is one to be examined. -/
theorem exists_settles (b : Builder) (hs : b.stack ≠ []) :
    ∃ k, Settles b k b.settle ∧ k ≤ b.stack.length ∧
      k + b.settle.stack.length ≤ b.stack.length + 1 := by
  fun_induction settle b with
  | case1 b hagain ih =>
    obtain ⟨k, hsettles, hk, hlength⟩ := ih (stack_ne_nil_of_examine hagain)
    have hless := stack_length_of_examine b hagain
    exact ⟨k + 1, .again (Prod.ext rfl hagain) hsettles, by omega, by omega⟩
  | case2 b hlast =>
    rw [Bool.not_eq_true] at hlast
    have hle := stack_length_examine_le b
    exact ⟨1, .last (Prod.ext rfl hlast), List.length_pos_iff.2 hs, by omega⟩

/-- Reading tokens takes fewer than two examinations for each. -/
theorem exists_run (b : Builder) (ts : List Token) :
    ∃ k, Run b ts k (ts.foldl accept b) ∧
      k + (ts.foldl accept b).stack.length ≤ 2 * ts.length + b.stack.length ∧
      (ts ≠ [] → k + 1 ≤ 2 * ts.length + b.stack.length) := by
  induction ts generalizing b with
  | nil => exact ⟨0, .nil, by simp, fun h => absurd rfl h⟩
  | cons t ts ih =>
    obtain ⟨k, hsettles, hk, hlength⟩ := exists_settles (b.push (.ofToken t)) (by simp [push])
    obtain ⟨m, hrun, hm, hm'⟩ := ih (b.accept t)
    have hpush : (b.push (.ofToken t)).stack.length = b.stack.length + 1 := by simp [push]
    rw [hpush] at hk hlength
    rw [← accept_eq] at hlength
    refine ⟨k + m, .cons hsettles hrun, ?_, fun _ => ?_⟩
    · rw [List.foldl_cons, List.length_cons]
      omega
    · rw [List.length_cons]
      cases ts with
      | nil =>
        rw [List.foldl_nil, List.length_nil] at hm
        rw [List.length_nil]
        omega
      | cons u us =>
        have := hm' (List.cons_ne_nil u us)
        omega

/-! ### Orderly stacks -/

end Builder

/-- A token of an ordinary class, or one that takes no operands and has no value. -/
def Token.IsOrderly (t : Token) : Prop := t.kind.isOrdinary = true ∨ t.descriptor.IsInert

/-- Parentheses are not ordinary, so if they are orderly they are inert. -/
theorem Token.IsOrderly.isPlain {t : Token} (h : t.IsOrderly) : t.IsPlain := by
  intro hp
  refine h.resolve_left fun hk => ?_
  rw [isParenthesis_of_isOrdinary hk] at hp
  cases hp

namespace Builder

variable {b b' : Builder} {t : Token} {ts read : List Token}

/-- The roots of all trees on the stack are orderly. -/
def IsOrderly (b : Builder) : Prop := ∀ n ∈ b.stack, n.token.IsOrderly

/-- Two builders have found the same reasons, and have the same parentheses open. -/
def SaysAs (b b' : Builder) : Prop := b'.reasons = b.reasons ∧ b'.opened = b.opened

/-- Adopting a left operand says nothing and opens nothing. -/
theorem saysAs_adoptLeft (b : Builder) : b.SaysAs b.adoptLeft := by
  refine ⟨reasons_adoptLeft b, ?_⟩
  rw [adoptLeft]
  split
  · split <;> rfl
  · rfl

/-- Nor does adopting a right one. -/
theorem saysAs_adoptRight (b : Builder) : b.SaysAs b.adoptRight.1 := by
  refine ⟨reasons_adoptRight b, ?_⟩
  rw [adoptRight]
  split
  · split <;> rfl
  · rfl

/-- Nor does taking a node off the stack, even if it is not there. -/
theorem saysAs_removeAbove (b : Builder) (below : Nat) : b.SaysAs (b.removeAbove below) := by
  rw [removeAbove]
  split <;> exact ⟨rfl, rfl⟩

theorem SaysAs.trans {b b₁ b₂ : Builder} (h : b.SaysAs b₁) (h' : b₁.SaysAs b₂) : b.SaysAs b₂ :=
  ⟨h'.1.trans h.1, h'.2.trans h.2⟩

/-- A parent keeps its token when it adopts, so the stack stays orderly. -/
theorem IsOrderly.adoptLeft (h : b.IsOrderly) : b.adoptLeft.IsOrderly := by
  rw [Builder.adoptLeft]
  split
  · rename_i n before rest hs
    split
    · simp_all [IsOrderly]
    · exact h
  · exact h

/-- The same on the other side. -/
theorem IsOrderly.adoptRight (h : b.IsOrderly) : b.adoptRight.1.IsOrderly := by
  rw [Builder.adoptRight]
  split
  · rename_i n before rest hs
    split
    · simp_all [IsOrderly]
    · exact h
  · exact h

theorem IsOrderly.removeAbove (h : b.IsOrderly) (below : Nat) :
    (b.removeAbove below).IsOrderly := by
  rw [Builder.removeAbove]
  split
  · exact fun n hn => h n (List.mem_of_mem_eraseIdx hn)
  · exact h

/-- After an adoption to the right the top is a node that takes operands. -/
theorem IsOrderly.isOrdinary_of_adoptRight (h : b.IsOrderly) (ha : b.adoptRight.2 = true) :
    ∀ n ∈ b.adoptRight.1.stack.head?, n.kind.isOrdinary = true := by
  rw [Builder.adoptRight] at ha ⊢
  split at ha
  · rename_i n before rest hs
    split at ha
    · rename_i hcond
      rw [if_pos hcond]
      rintro _ ⟨⟩
      rw [Bool.and_eq_true, Bool.and_eq_true] at hcond
      -- An inert node awaits nothing, so the one that adopts is not inert.
      refine (h before (by simp [hs])).resolve_right fun hinert => ?_
      rw [Node.isMissing_of_isInert hinert] at hcond
      exact absurd hcond.1.2 Bool.false_ne_true
    · cases ha
  · cases ha

/-- What is examined again is no new token, and nothing is said of it. -/
theorem IsOrderly.settle (h : b.IsOrderly)
    (htop : ∀ n ∈ b.stack.head?, n.kind.isOrdinary = true) :
    b.settle.IsOrderly ∧ b.SaysAs b.settle := by
  refine settle_invariant (P := fun b' => b'.IsOrderly ∧ b.SaysAs b') (fun b' hb' htop => ?_)
    ⟨h, rfl, rfl⟩ htop
  obtain ⟨horderly, hsame⟩ := hb'
  rw [Builder.examine]
  split
  · exact ⟨⟨horderly, hsame⟩, by simp⟩
  · rename_i n rest hs
    rw [enter_of_isOrdinary (htop n (by simp [hs]))]
    have hadopted := (saysAs_adoptLeft b').trans (saysAs_adoptRight b'.adoptLeft)
    exact ⟨⟨horderly.adoptLeft.adoptRight, hsame.trans hadopted⟩,
      horderly.adoptLeft.isOrdinary_of_adoptRight⟩

/-! ### One token -/

/-- What has been said so far. -/
def said (b : Builder) : List String := b.reasons.reverse.map Diagnostic.message

/-- The builder has only orderly trees, and knows how many parentheses are open. -/
structure Tracks (b : Builder) (read : List Token) : Prop where
  orderly : b.IsOrderly
  opened : b.opened.length = depthAfter read

theorem said_cons (b : Builder) (d : Diagnostic) :
    said { b with reasons := d :: b.reasons } = b.said ++ [d.message] := by
  rw [said, List.reverse_cons, List.map_append]
  rfl

theorem tracks_empty : Tracks {} [] where
  orderly := by simp [IsOrderly]
  opened := rfl

theorem SaysAs.said (h : b.SaysAs b') : b'.said = b.said := by
  rw [Builder.said, h.1, Builder.said]

/-- What says and opens nothing keeps track of the same tokens. -/
theorem Tracks.of_saysAs (h : b.Tracks read) (hsame : b.SaysAs b') (horderly : b'.IsOrderly) :
    b'.Tracks read where
  orderly := horderly
  opened := by rw [hsame.2, h.opened]

/-- A closing parenthesis when none is open. -/
theorem closeParenthesis_push_of_nil (n : Node) (h : b.opened = []) :
    (b.push n).closeParenthesis = { b with reasons := .unmatchedClosing :: b.reasons } := by
  simp [closeParenthesis, push, h]

/-- A closing parenthesis when the innermost open one is known. -/
theorem closeParenthesis_push_of_cons {below : Nat} {places : List Nat} (n : Node)
    (h : b.opened = below :: places) :
    (b.push n).closeParenthesis = { b with opened := places }.removeAbove below := by
  simp [closeParenthesis, push, h]

/-- A new token changes the number of open parentheses as it should. -/
theorem Tracks.depthAfter_append (h : b.Tracks read) (t : Token) :
    depthAfter (read ++ [t]) = t.depthAfter b.opened.length := by
  rw [RecordQuery.depthAfter_append, h.opened]
  rfl

/-- An opening parenthesis is opened. -/
theorem Tracks.pushOpening (h : b.Tracks read) (ht : t.IsOrderly) (hopen : t.kind = .openParen) :
    (b.pushOpening t).Tracks (read ++ [t]) where
  orderly := List.forall_mem_cons.2 ⟨ht, h.orderly⟩
  opened := by
    rw [h.depthAfter_append, Token.depthAfter, hopen]
    rfl

/-- A closing parenthesis closes what its partner opened, or is reported. -/
theorem Tracks.closeParenthesis (h : b.Tracks read) (hclose : t.kind = .closeParen) (n : Node) :
    (b.push n).closeParenthesis.Tracks (read ++ [t]) ∧
      (b.push n).closeParenthesis.said = b.said ++ (t.complaint? read).toList := by
  have hdepth : depthAfter (read ++ [t]) = b.opened.length - 1 := by
    rw [h.depthAfter_append, Token.depthAfter, hclose]
  have hpartner : PartnerBefore read ↔ b.opened ≠ [] := by
    rw [partnerBefore_iff, ← h.opened, List.length_pos_iff]
  cases hb : b.opened with
  | nil =>
    rw [closeParenthesis_push_of_nil n hb]
    have hcomplaint : t.complaint? read = some "unmatched closing parenthesis" := by
      simp [Token.complaint?, hclose, hpartner, hb]
    refine ⟨⟨h.orderly, by rw [hdepth, hb]; rfl⟩, ?_⟩
    rw [said_cons, hcomplaint]
    rfl
  | cons below places =>
    rw [closeParenthesis_push_of_cons n hb]
    have hpopped : Tracks { b with opened := places } (read ++ [t]) :=
      ⟨h.orderly, by rw [hdepth, hb]; rfl⟩
    have hsame := saysAs_removeAbove { b with opened := places } below
    refine ⟨hpopped.of_saysAs hsame (hpopped.orderly.removeAbove below), hsame.said.trans ?_⟩
    simp [Token.complaint?, hclose, hpartner, hb, Builder.said]

/-- Any other token opens and closes nothing. -/
theorem Tracks.push (h : b.Tracks read) (ht : t.IsOrderly) (hother : t.isParenthesis = false) :
    (b.push (.ofToken t)).Tracks (read ++ [t]) where
  orderly := List.forall_mem_cons.2 ⟨ht, h.orderly⟩
  opened := by
    rw [h.depthAfter_append, Token.depthAfter_of_isParenthesis hother]
    rfl

/-- Entering a new token says what is wrong with it. -/
theorem Tracks.push_enter (h : b.Tracks read) (ht : t.IsOrderly) :
    ((b.push (.ofToken t)).enter (.ofToken t)).Tracks (read ++ [t]) ∧
      ((b.push (.ofToken t)).enter (.ofToken t)).said =
        b.said ++ (t.complaint? read).toList := by
  rcases t.parenthesis_cases with hopen | hclose | hother
  · rw [enter_opening hopen]
    refine ⟨h.pushOpening ht hopen, ?_⟩
    simp [Token.complaint?, hopen, Builder.said, Builder.pushOpening, Builder.push]
  · rw [enter_of_closeParen (by exact hclose)]
    exact h.closeParenthesis hclose _
  · have hpushed := h.push ht hother
    -- Of these tokens only the unknown ones are complained of.
    by_cases hunknown : t.kind = .unknown
    · have henter : (b.push (.ofToken t)).enter (.ofToken t) =
          { b.push (.ofToken t) with
            reasons := .unknownToken t.literal :: (b.push (.ofToken t)).reasons } := by
        simp only [enter, Node.kind_ofToken, hunknown]
        rfl
      have hcomplaint : t.complaint? read =
          some ("found unknown token: " ++ t.literal.display) := by
        rw [Token.complaint?, if_pos hunknown]
      rw [henter, said_cons, hcomplaint]
      exact ⟨⟨hpushed.orderly, hpushed.opened⟩, rfl⟩
    · have hordinary : (Node.ofToken t).kind.isOrdinary = true := by
        rw [Node.kind_ofToken]
        cases hk : t.kind <;> simp_all [Token.isParenthesis, TokenKind.isOrdinary]
      have hclose : t.kind ≠ .closeParen := fun hclose => by
        simp [Token.isParenthesis, hclose] at hother
      rw [enter_of_isOrdinary hordinary]
      refine ⟨hpushed, ?_⟩
      simp [Token.complaint?, hunknown, hclose, Builder.said, Builder.push]

/-- Reading a token says what is wrong with it, and nothing else. -/
theorem Tracks.accept (h : b.Tracks read) (ht : t.IsOrderly) :
    (b.accept t).Tracks (read ++ [t]) ∧
      (b.accept t).said = b.said ++ (t.complaint? read).toList := by
  obtain ⟨hentered, hsaid⟩ := h.push_enter ht
  generalize he : (b.push (.ofToken t)).enter (.ofToken t) = entered at hentered hsaid
  have hexamine : (b.push (.ofToken t)).examine = entered.adoptLeft.adoptRight := by
    rw [← he]
    rfl
  have hsame := (saysAs_adoptLeft entered).trans (saysAs_adoptRight _)
  have horderly := hentered.orderly.adoptLeft
  rw [accept_eq, settle_eq, hexamine]
  split
  · rename_i hagain
    obtain ⟨horderly', hsame'⟩ :=
      horderly.adoptRight.settle (horderly.isOrdinary_of_adoptRight hagain)
    exact ⟨hentered.of_saysAs (hsame.trans hsame') horderly', (hsame.trans hsame').said.trans hsaid⟩
  · exact ⟨hentered.of_saysAs hsame horderly.adoptRight, hsame.said.trans hsaid⟩

/-- Reading tokens says what is wrong with them one by one. -/
theorem Tracks.foldl_accept (h : b.Tracks read) (ht : ∀ t ∈ ts, t.IsOrderly) :
    (ts.foldl Builder.accept b).Tracks (read ++ ts) ∧
      (ts.foldl Builder.accept b).said = b.said ++ complaints read ts := by
  induction ts generalizing b read with
  | nil => simpa [complaints] using h
  | cons t ts ih =>
    obtain ⟨ht, hts⟩ := List.forall_mem_cons.1 ht
    obtain ⟨haccept, hsaid⟩ := h.accept ht
    obtain ⟨htracks, hsaid'⟩ := ih haccept hts
    rw [List.append_assoc] at htracks
    refine ⟨htracks, ?_⟩
    rw [List.foldl_cons, hsaid', hsaid, complaints, List.append_assoc]

/-! ### The whole list -/

/-- When no tokens are left, an open parenthesis is reported after what was said of the tokens. -/
theorem Tracks.map_message (h : b.Tracks ts) (hsaid : b.said = complaints [] ts) :
    (b.reasons.reverse ++ if b.opened.isEmpty then [] else [Diagnostic.unmatchedOpening]).map
      Diagnostic.message =
        complaints [] ts ++ if LeavesOpen ts then ["unmatched opening parenthesis"] else [] := by
  have hopen : LeavesOpen ts ↔ ¬b.opened.isEmpty = true := by
    rw [leavesOpen_iff, ← h.opened, List.length_pos_iff, List.isEmpty_iff]
  rw [List.map_append, ← hsaid]
  congr 1
  by_cases hempty : b.opened.isEmpty = true
  · rw [if_pos hempty, if_neg fun hleaves => hopen.1 hleaves hempty]
    rfl
  · rw [if_neg hempty, if_pos (hopen.2 hempty)]
    rfl

/-- What the builder says in the end. -/
theorem Tracks.finish (h : b.Tracks ts) (hsaid : b.said = complaints [] ts)
    (hlost : b.lost = false) :
    let said := complaints [] ts ++
      (if LeavesOpen ts then ["unmatched opening parenthesis"] else []) ++ leftoverMessages b.stack
    match b.finish with
    | .ok root => said = [] ∧ b.stack = [root]
    | .error e => said ≠ [] ∧ e.messages = said := by
  intro said
  have hreasons := h.map_message hsaid
  rw [Builder.finish, if_neg (by rw [hlost]; exact Bool.false_ne_true)]
  generalize (b.reasons.reverse ++ if b.opened.isEmpty then [] else [Diagnostic.unmatchedOpening]) =
    reasons at hreasons
  -- Without exactly one tree that is all there is to say of the stack.
  have hmany (hleft : leftoverMessages b.stack = [Diagnostic.notOneTree.message]) :
      said ≠ [] ∧ (BuildError.rejected (reasons ++ [.notOneTree])).messages = said := by
    have hall : said = (reasons ++ [Diagnostic.notOneTree]).map Diagnostic.message := by
      rw [List.map_append, hreasons]
      exact congrArg _ hleft
    exact ⟨by simp [hall], hall.symm⟩
  rcases hs : b.stack with _ | ⟨root, _ | ⟨below, rest⟩⟩
  · exact hmany (by rw [hs]; rfl)
  · have hall : said = (reasons ++ faults root).map Diagnostic.message := by
      rw [List.map_append, hreasons, message_faults, ← hs]
    dsimp only
    cases hr : reasons ++ faults root with
    | nil => exact ⟨by rw [hall, hr]; rfl, rfl⟩
    | cons d ds => exact ⟨by rw [hall, hr]; exact List.cons_ne_nil _ _, by rw [hall, hr]; rfl⟩
  · exact hmany (by rw [hs]; rfl)

end Builder

/-- If unknown tokens and parentheses take no operands and have no value, the builder examines a
    node fewer than twice for each token, always finds the parentheses that it removes, and says all
    that is wrong with the tokens, in its order. If nothing is, what is left is their tree. -/
theorem buildTree_messages {ts : List Token}
    (hinert : ∀ t ∈ ts, t.kind = .unknown ∨ t.kind = .openParen ∨ t.kind = .closeParen →
      t.descriptor.IsInert) :
    (∃ k, Builder.Run {} ts k (ts.foldl Builder.accept {}) ∧ (ts ≠ [] → k ≤ 2 * ts.length - 1)) ∧
    (∀ us, us <+: ts → (us.foldl Builder.accept {}).lost = false ∧
      (us.foldl Builder.accept {}).height = (us.foldl Builder.accept {}).stack.length) ∧
    match buildTree ts with
    | .ok root => messages ts = [] ∧ leftover ts = [root]
    | .error e => messages ts ≠ [] ∧ e.messages = messages ts := by
  have horderly : ∀ t ∈ ts, t.IsOrderly := by
    intro t ht
    by_cases hk : t.kind.isOrdinary = true
    · exact .inl hk
    · refine .inr (hinert t ht ?_)
      cases hkind : t.kind <;> simp_all [TokenKind.isOrdinary]
  have hfound : ∀ us, us <+: ts → (us.foldl Builder.accept {}).lost = false ∧
      (us.foldl Builder.accept {}).height = (us.foldl Builder.accept {}).stack.length := by
    intro us hus
    have hrepresents := Builder.represents_nil.foldl_accept fun t (ht : t ∈ us) =>
      (horderly t (hus.subset ht)).isPlain
    exact ⟨hrepresents.found, hrepresents.height⟩
  refine ⟨?_, hfound, ?_⟩
  · obtain ⟨k, hrun, -, hk⟩ := Builder.exists_run {} ts
    refine ⟨k, hrun, fun hne => ?_⟩
    have := hk hne
    simp only [List.length_nil] at this
    omega
  · by_cases hne : ts = []
    · subst hne
      exact ⟨by decide, rfl⟩
    · obtain ⟨htracks, hsaid⟩ := Builder.tracks_empty.foldl_accept horderly
      have hfinish := htracks.finish hsaid (hfound ts List.prefix_rfl).1
      rw [buildTree_of_ne_nil hne, messages, leftover, if_neg hne]
      exact hfinish

/-- What is wrong with `( = ) )`. -/
theorem buildTree_messages_closed_twice :
    let eq : Token := ⟨.comparator "=" .equal, .text "="⟩
    let opening : Token := ⟨{ kind := .openParen }, .text "("⟩
    let closing : Token := ⟨{ kind := .closeParen }, .text ")"⟩
    let tokens := [opening, eq, closing, closing]
    (∀ t ∈ tokens, t.kind = .unknown ∨ t.kind = .openParen ∨ t.kind = .closeParen →
      t.descriptor.IsInert) ∧
      ∃ e, buildTree tokens = .error e ∧
        e.messages = ["unmatched closing parenthesis", "'=' is missing its left operand",
          "'=' is missing its right operand"] := by
  intro eq opening closing tokens
  have hinert : ∀ t ∈ tokens, t.kind = .unknown ∨ t.kind = .openParen ∨ t.kind = .closeParen →
      t.descriptor.IsInert := by
    intro t ht hk
    simp only [tokens, List.mem_cons, List.not_mem_nil, or_false] at ht
    rcases ht with rfl | rfl | rfl | rfl
    · exact ⟨rfl, rfl, rfl⟩
    · rcases hk with hk | hk | hk <;> cases hk
    · exact ⟨rfl, rfl, rfl⟩
    · exact ⟨rfl, rfl, rfl⟩
  have h₁ : Builder.accept {} opening = ⟨[.ofToken opening], 1, [0], [], false⟩ :=
    Builder.settle_of_examine rfl
  have h₂ : Builder.accept ⟨[.ofToken opening], 1, [0], [], false⟩ eq =
      ⟨[.ofToken eq, .ofToken opening], 2, [0], [], false⟩ := Builder.settle_of_examine rfl
  have h₃ : Builder.accept ⟨[.ofToken eq, .ofToken opening], 2, [0], [], false⟩ closing =
      ⟨[.ofToken eq], 1, [], [], false⟩ := Builder.settle_of_examine rfl
  have h₄ : Builder.accept ⟨[.ofToken eq], 1, [], [], false⟩ closing =
      ⟨[.ofToken eq], 1, [], [.unmatchedClosing], false⟩ := Builder.settle_of_examine rfl
  have hleft : leftover tokens = [.ofToken eq] := by
    rw [leftover, if_neg (List.cons_ne_nil _ _), List.foldl_cons, h₁, List.foldl_cons, h₂,
      List.foldl_cons, h₃, List.foldl_cons, h₄, List.foldl_nil]
  have hmessages : messages tokens = ["unmatched closing parenthesis",
      "'=' is missing its left operand", "'=' is missing its right operand"] := by
    rw [messages, hleft]
    decide
  have hall := (buildTree_messages hinert).2.2
  rw [hmessages] at hall
  refine ⟨hinert, ?_⟩
  cases hbuild : buildTree tokens with
  | ok root =>
    rw [hbuild] at hall
    exact absurd hall.1 (List.cons_ne_nil _ _)
  | error e =>
    rw [hbuild] at hall
    exact ⟨e, rfl, hall.2⟩

end RecordQuery
