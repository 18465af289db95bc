import RecordQuery.Proofs.Builder.Outline
import RecordQuery.Proofs.Lexing.Standard

/-!
# The language of the builder

Which lists of tokens the builder accepts. They are not only the conditions of the grammar: since a
pair of parentheses is dropped as soon as it closes, it can stand around anything that makes sense
where it stands, also around nothing. So the builder accepts `a (= 1)`, which is no condition
(`buildTree_operator_in_parentheses`).

Apart from that it accepts the language of the grammar. Reading a list in the sense of `Reads` and
building a tree of it go hand in hand (`Condition.Reads.standsAt`, `Paired.standsAt`), so a list is
accepted exactly if it reads as an operand or a complete phrase, whatever stands in parentheses; and
it is a condition exactly if it does so with nothing but operands and complete phrases in
parentheses (`buildTree_iff_reads`).
-/

namespace RecordQuery

open Condition

variable {ts : List Token} {n : Node} {t : Token}

/-- A token that has a shape by itself, or an inert parenthesis. -/
def Token.IsRegular (t : Token) : Prop := (∃ q, t.HasShape q) ∨ t.IsOpening ∨ t.IsClosing

/-! ### Reading and building -/

theorem Token.HasShape.isParenthesis {q : Shape} (h : t.HasShape q) : t.isParenthesis = false :=
  isParenthesis_of_isOrdinary h.ordinary

namespace Token.IsRegular

theorem isOpening (h : t.IsRegular) (hk : t.kind = .openParen) : t.IsOpening := by
  rcases h with ⟨q, h⟩ | h | h
  · simpa [Token.isParenthesis, hk] using h.isParenthesis
  · exact h
  · cases hk.symm.trans h.kind

theorem isClosing (h : t.IsRegular) (hk : t.kind = .closeParen) : t.IsClosing := by
  rcases h with ⟨q, h⟩ | h | h
  · simpa [Token.isParenthesis, hk] using h.isParenthesis
  · cases hk.symm.trans h.kind
  · exact h

theorem hasShape (h : t.IsRegular) (hp : t.isParenthesis = false) : ∃ q, t.HasShape q := by
  rcases h with h | h | h
  · exact h
  · simp [Token.isParenthesis, h.kind] at hp
  · simp [Token.isParenthesis, h.kind] at hp

theorem isPlain (h : t.IsRegular) : t.IsPlain := by
  intro hp
  rcases h with ⟨q, h⟩ | h | h
  · rw [h.isParenthesis] at hp
    cases hp
  · exact h.inert
  · exact h.inert

end Token.IsRegular

/-- After a list that reads as a shape, the builder stands at this shape. -/
theorem Condition.Reads.standsAt {allowed : Shape → Prop} {p : Shape} (h : Reads allowed ts p) :
    (ts.foldl Builder.accept {}).StandsAt (some p) := by
  induction h with
  | nil => exact Builder.standsAt_empty
  | token _ ht hjoin ih =>
    rw [List.foldl_append, ← hjoin]
    exact ih.accept ht
  | parens _ ho _ hc _ hjoin ih ih' =>
    rw [List.foldl_append, ← hjoin]
    exact ih.foldl_parens ih' ho hc

/-- After a list of pairs, the builder stands somewhere, and if that is a shape, the list reads as
    this shape. -/
theorem Paired.standsAt (h : Paired ts) (hts : ∀ t ∈ ts, t.IsRegular) :
    ∃ p, (ts.foldl Builder.accept {}).StandsAt p ∧
      ∀ q, p = some q → Reads (fun _ => True) ts q := by
  induction h with
  | nil =>
    refine ⟨some .nothing, Builder.standsAt_empty, ?_⟩
    rintro q ⟨⟩
    exact .nil
  | @token ts t _ hp ih =>
    obtain ⟨hts, ht⟩ := List.forall_mem_append.1 hts
    obtain ⟨p, hstands, hreads⟩ := ih hts
    obtain ⟨q, ht⟩ := (ht t (List.mem_singleton_self t)).hasShape hp
    refine ⟨Shape.join? p (some q), ?_, fun r hr => ?_⟩
    · rw [List.foldl_append]
      exact hstands.accept ht
    · obtain ⟨p, q, rfl, ⟨⟩, hr⟩ := Shape.join?_eq_some_iff.1 hr
      exact .token (hreads p rfl) ht hr
  | @parens ts us o c _ ho _ hc ih ih' =>
    obtain ⟨hts, hgroup⟩ := List.forall_mem_append.1 hts
    obtain ⟨ho', hgroup⟩ := List.forall_mem_cons.1 hgroup
    obtain ⟨hus, hc'⟩ := List.forall_mem_append.1 hgroup
    have hc' := (hc' c (List.mem_singleton_self c)).isClosing hc
    obtain ⟨p, hstands, hreads⟩ := ih hts
    obtain ⟨q, hstands', hreads'⟩ := ih' hus
    refine ⟨Shape.join? p q, ?_, fun r hr => ?_⟩
    · rw [List.foldl_append]
      exact hstands.foldl_parens hstands' (ho'.isOpening ho) hc'
    · obtain ⟨p, q, rfl, rfl, hr⟩ := Shape.join?_eq_some_iff.1 hr
      exact .parens (hreads p rfl) (ho'.isOpening ho) (hreads' q rfl) hc' trivial hr

/-! ### What is accepted -/

/-- A list that is accepted reads as a whole stretch. -/
theorem reads_of_finish (hts : ∀ t ∈ ts, t.IsRegular)
    (h : (ts.foldl Builder.accept {}).finish = .ok n) :
    ∃ p : Shape, p.IsWhole ∧ Reads (fun _ => True) ts p := by
  -- Its parentheses come in pairs, so the builder stands somewhere after it.
  have htree := Builder.isTreeOf_of_finish (fun t ht => (hts t ht).isPlain) h
  obtain ⟨p, hstands, hreads⟩ := htree.balanced.paired.standsAt hts
  -- The tree that is left is whole, and its shape is the outline.
  obtain ⟨-, -, -, hstack, hfaults⟩ := Builder.finish_eq_ok_iff.1 h
  have hwhole := Node.isWhole_iff.2 (Builder.faults_eq_nil_iff.1 hfaults).1
  obtain ⟨q, hn⟩ := hstands.shapes n (by rw [hstack]; exact List.mem_singleton_self n)
  obtain ⟨r, hr, hwhole⟩ := (Node.isWhole_iff_shape? hn).1 hwhole
  have houtline := hstands.outline
  rw [hstack, outline_cons] at houtline
  exact ⟨r, hwhole, hreads r (houtline.symm.trans hr)⟩

/-- What is read are tokens with a shape and parentheses. -/
theorem Condition.Reads.isRegular {allowed : Shape → Prop} {p : Shape} (h : Reads allowed ts p) :
    ∀ t ∈ ts, t.IsRegular := by
  induction h with
  | nil => simp
  | token _ ht _ ih =>
    exact List.forall_mem_append.2 ⟨ih, List.forall_mem_singleton.2 (.inl ⟨_, ht⟩)⟩
  | parens _ ho _ hc _ _ ih ih' =>
    refine List.forall_mem_append.2 ⟨ih, List.forall_mem_cons.2 ⟨.inr (.inl ho), ?_⟩⟩
    exact List.forall_mem_append.2 ⟨ih', List.forall_mem_singleton.2 (.inr (.inr hc))⟩

/-- A list that reads as a whole stretch is accepted, unless it mixes both forms of parameters. -/
theorem finish_of_reads {allowed : Shape → Prop} {p : Shape} (hp : p.IsWhole)
    (h : Reads allowed ts p) (hmixed : ¬MixesParameters ts) :
    ∃ n, (ts.foldl Builder.accept {}).finish = .ok n := by
  have hstands := h.standsAt
  obtain ⟨n, hstack, hwhole⟩ := exists_root hstands.settled hstands.shapes hstands.outline hp
  -- The tree has the tokens of the list, so it mixes parameters only if the list does.
  have hrepresents :=
    Builder.represents_nil.foldl_accept fun t ht => (h.isRegular t ht).isPlain
  have htokens : withoutParentheses n.tokens = withoutParentheses ts := by
    have := hrepresents.tokens
    rw [hstack, Builder.stackTokens_cons] at this
    simpa [Builder.stackTokens] using this
  refine ⟨n, Builder.finish_eq_ok_iff.2 ⟨hstands.lost, hstands.reasons, hstands.opened, hstack,
    Builder.faults_eq_nil_iff.2 ⟨Node.isWhole_iff.1 hwhole, ?_⟩⟩⟩
  rw [← Node.mixesParameters_tokens, ← mixesParameters_withoutParentheses, htokens,
    mixesParameters_withoutParentheses]
  exact hmixed

/-- A list reads as one shape only. -/
theorem Condition.Reads.unique {allowed allowed' : Shape → Prop} {p q : Shape}
    (h : Reads allowed ts p) (h' : Reads allowed' ts q) : p = q :=
  Option.some.inj (h.standsAt.outline.symm.trans h'.standsAt.outline)

/-- What is read has balanced parentheses, since the builder closes all that it opens. -/
theorem Condition.Reads.balanced {allowed : Shape → Prop} {p : Shape} (h : Reads allowed ts p) :
    Balanced ts := by
  have hrepresents :=
    Builder.represents_nil.foldl_accept fun t ht => (h.isRegular t ht).isPlain
  have hnested := hrepresents.nested h.standsAt.reasons
  rwa [h.standsAt.opened] at hnested

/-- If all that stands in parentheses is accepted by itself, nothing but whole stretches does. -/
theorem Condition.Reads.whole {p : Shape} (h : Reads (fun _ => True) ts p)
    (hpairs : AllEnclosed (fun us => us ≠ [] ∧ ∃ m, buildTree us = .ok m) ts) :
    Reads Shape.IsWhole ts p := by
  induction h with
  | nil => exact .nil
  | @token ts t _ _ _ _ ht hjoin ih =>
    exact .token (ih (AllEnclosed.within [] [t] hpairs)) ht hjoin
  | @parens ts us o c _ q _ _ ho h' hc _ hjoin ih ih' =>
    have hts := AllEnclosed.within [] (o :: (us ++ [c])) hpairs
    have hus := AllEnclosed.within (ts ++ [o]) [c] (by simpa using hpairs)
    obtain ⟨hne, m, hm⟩ := hpairs ts us [] o c rfl ho.kind hc.kind h'.balanced
    rw [buildTree_of_ne_nil hne] at hm
    -- What stands in this pair is accepted by itself, as a whole stretch, and has one shape only.
    obtain ⟨r, hr, hreads⟩ := reads_of_finish h'.isRegular hm
    obtain rfl := h'.unique hreads
    exact .parens (ih hts) ho (ih' hus) hc hr hjoin

/-! ### The standard grammar -/

/-- A token of the standard grammar, or one that it does not know. -/
def Token.IsStandard (t : Token) : Prop :=
  t.descriptor ∈ Grammar.standard.entries ∨ t.descriptor = .unknown

namespace Grammar

/-- The known tokens of the standard grammar: parentheses, operands, and operators, whose left
    operand, if they take one, has the type of the right one. -/
theorem signature_standard : ∀ d ∈ standard.entries, d.kind ≠ .unknown →
    (d.kind = .openParen ∨ d.kind = .closeParen) ∧
        d.left = none ∧ d.right = none ∧ d.result = none ∨
      d.kind.isOrdinary = true ∧
        (d.left = none ∧ d.right = none ∧ d.result = some .primitive ∨
          d.right.isSome = true ∧ d.result = some .boolean ∧
            (d.left = none ∨ d.left = d.right)) := by
  decide

end Grammar

theorem Token.isStandard_described {id : String} {literal : Literal}
    (h : (Grammar.standard.get? id).isSome = true) :
    Token.IsStandard ⟨Grammar.described id, literal⟩ := by
  obtain ⟨d, hd⟩ := Option.isSome_iff_exists.1 h
  refine .inl ?_
  rw [Grammar.described, hd]
  exact List.mem_of_find?_eq_some hd

/-- The standard tokens are regular, except for those that are unknown. -/
theorem Token.IsStandard.isRegular (h : t.IsStandard) (hk : t.kind ≠ .unknown) :
    t.IsRegular := by
  rcases h with h | h
  · rcases Grammar.signature_standard _ h hk with
      ⟨hkind | hkind, hl, hr, hresult⟩ | ⟨ho, ⟨hl, hr, hresult⟩ | ⟨hr, hresult, hl⟩⟩
    · exact .inr (.inl ⟨hkind, hl, hr, hresult⟩)
    · exact .inr (.inr ⟨hkind, hl, hr, hresult⟩)
    · exact .inl ⟨_, .operand ⟨ho, hl, hr, hresult⟩⟩
    · obtain ⟨ty, hr⟩ := Option.isSome_iff_exists.1 hr
      rw [hr] at hl
      exact .inl ⟨_, .operator ⟨ho, rfl, hr, hresult⟩ hl⟩
  · exact absurd (congrArg Descriptor.kind h) hk

theorem Token.IsStandard.isPlain (h : t.IsStandard) : t.IsPlain := by
  intro hp
  have hk : t.kind ≠ .unknown := by
    intro hk
    simp [Token.isParenthesis, hk] at hp
  exact (h.isRegular hk).isPlain hp

/-- What is accepted has only known tokens. -/
theorem isRegular_of_finish (hts : ∀ t ∈ ts, t.IsStandard)
    (h : (ts.foldl Builder.accept {}).finish = .ok n) : ∀ t ∈ ts, t.IsRegular := by
  have hrepresents := Builder.represents_nil.foldl_accept fun t ht => (hts t ht).isPlain
  obtain ⟨-, hreasons, -⟩ := Builder.finish_eq_ok_iff.1 h
  exact fun t ht => (hts t ht).isRegular (hrepresents.known hreasons t ht)

/-- If a list that is accepted has nothing in parentheses that is not accepted by itself, it is a
    condition with the tree that is built. -/
theorem condition_of_finish (hts : ∀ t ∈ ts, t.IsRegular)
    (h : (ts.foldl Builder.accept {}).finish = .ok n)
    (hpairs : AllEnclosed (fun us => us ≠ [] ∧ ∃ m, buildTree us = .ok m) ts) :
    Condition ts n := by
  obtain ⟨p, hp, hreads⟩ := reads_of_finish hts h
  obtain ⟨m, hm⟩ := exists_condition_iff.2 ⟨p, hp, hreads.whole hpairs⟩
  obtain ⟨-, -, -, hstack, -⟩ := Builder.finish_eq_ok_iff.1 h
  rw [hm.foldl_accept] at hstack
  obtain rfl : m = n := List.head_eq_of_cons_eq hstack
  exact hm

/-- Of the standard grammar the builder accepts what reads as an operand or a complete phrase with
    any stretches in parentheses, and does not mix wildcards and named parameters. The conditions
    are what reads so with only operands and complete phrases in parentheses. So a list that is
    accepted is a condition if all that it has in parentheses is accepted by itself. -/
theorem buildTree_iff_reads {ts : List Token} (hne : ts ≠ []) (hts : ∀ t ∈ ts, t.IsStandard) :
    ((∃ n, buildTree ts = .ok n) ↔
      ¬MixesParameters ts ∧ ∃ p : Shape, p.IsWhole ∧ Reads (fun _ => True) ts p) ∧
    ((∃ n, Condition ts n) ↔ ∃ p : Shape, p.IsWhole ∧ Reads Shape.IsWhole ts p) ∧
    (∀ n, buildTree ts = .ok n →
      AllEnclosed (fun us => us ≠ [] ∧ ∃ m, buildTree us = .ok m) ts → Condition ts n) := by
  rw [buildTree_of_ne_nil hne]
  refine ⟨?_, exists_condition_iff,
    fun n h hpairs => condition_of_finish (isRegular_of_finish hts h) h hpairs⟩
  constructor
  · rintro ⟨n, h⟩
    have hregular := isRegular_of_finish hts h
    have htree := Builder.isTreeOf_of_finish (fun t ht => (hregular t ht).isPlain) h
    refine ⟨?_, reads_of_finish hregular h⟩
    rw [← mixesParameters_withoutParentheses, ← htree.tokens, Node.mixesParameters_tokens]
    exact htree.parameters
  · rintro ⟨hmixed, p, hp, h⟩
    exact finish_of_reads hp h hmixed

/-- A negation takes `(a =) 1` as its operand. -/
theorem buildTree_iff_reads_half_comparison :
    let token (id : String) (literal : Literal) : Token := ⟨Grammar.described id, literal⟩
    let tokens :=
      [token "not" (.text "NOT"), token "open_parenthesis" (.text "("),
        token "record_property" (.text "a"), token "equals" (.text "="),
        token "close_parenthesis" (.text ")"), token "number" (.integer 1)]
    tokens ≠ [] ∧ (∀ t ∈ tokens, t.IsStandard) ∧ ¬MixesParameters tokens ∧
      ∃ n, buildTree tokens = .ok n := by
  intro token tokens
  have hne : tokens ≠ [] := List.cons_ne_nil _ _
  have hstandard : ∀ t ∈ tokens, t.IsStandard := by
    simp only [tokens, List.forall_mem_cons]
    refine ⟨?_, ?_, ?_, ?_, ?_, ?_, List.forall_mem_nil _⟩
    all_goals exact Token.isStandard_described rfl
  have hmixed : ¬MixesParameters tokens := by
    rintro ⟨⟨t, ht, hk⟩, -⟩
    simp only [tokens, List.mem_cons, List.not_mem_nil, or_false] at ht
    rcases ht with rfl | rfl | rfl | rfl | rfl | rfl <;> cases hk
  have hreads : Reads (fun _ => True) tokens (.phrase none .complete) := by
    let everything : Shape → Prop := fun _ => True
    have hnot : Reads everything [token "not" (.text "NOT")] (.phrase none (.awaits .boolean)) :=
      .token .nil (.operator ⟨rfl, rfl, rfl, rfl⟩ (.inl rfl)) rfl
    have ha : Reads everything [token "record_property" (.text "a")] .operand :=
      .token .nil (.operand ⟨rfl, rfl, rfl, rfl⟩) rfl
    have hequals : Reads everything
        [token "record_property" (.text "a"), token "equals" (.text "=")]
        (.phrase none (.awaits .primitive)) :=
      .token ha (.operator ⟨rfl, rfl, rfl, rfl⟩ (.inr rfl)) rfl
    have hgroup := hnot.parens (o := token "open_parenthesis" (.text "("))
      (c := token "close_parenthesis" (.text ")")) ⟨rfl, rfl, rfl, rfl⟩ hequals
      ⟨rfl, rfl, rfl, rfl⟩ trivial rfl
    exact .token hgroup (.operand ⟨rfl, rfl, rfl, rfl⟩) rfl
  exact ⟨hne, hstandard, hmixed,
    (buildTree_iff_reads hne hstandard).1.2 ⟨hmixed, _, .inr rfl, hreads⟩⟩

/-! ### A list that is no condition -/

namespace Condition

variable {u o : Token} {us rest : List Token}

/-- Of the first two tokens the first is a parenthesis, or one of them is an operator. -/
def HasOperatorFirst (t u : Token) : Prop :=
  t.IsOpening ∨ t.descriptor.right ≠ none ∨ u.descriptor.right ≠ none

/-- An operator behind a list is among the first two tokens, unless these are already in the list.
    -/
theorem hasOperatorFirst_of_append (h : ts ++ o :: us = t :: u :: rest)
    (ho : o.descriptor.right ≠ none) (hts : ∀ rest, ts = t :: u :: rest → HasOperatorFirst t u) :
    HasOperatorFirst t u := by
  rcases ts with _ | ⟨x, _ | ⟨y, ts⟩⟩
  · cases h
    exact .inr (.inl ho)
  · cases h
    exact .inr (.inr ho)
  · cases h
    exact hts ts rfl

/-- An operand of several tokens starts with a parenthesis. -/
theorem Operand.hasOperatorFirst (h : Operand ts n) (hts : ts = t :: u :: rest) :
    HasOperatorFirst t u := by
  rcases h with _ | ⟨ho, -, -⟩
  · cases hts
  · obtain ⟨rfl, -⟩ := List.cons.inj hts
    exact .inl ho

/-- A clause of several tokens starts with a parenthesis, or has an operator among its first two
    tokens. -/
theorem Clause.hasOperatorFirst (h : Clause ts n) (hts : ts = t :: u :: rest) :
    HasOperatorFirst t u := by
  rcases h with ⟨hl, ho, -⟩ | ⟨ho, -⟩ | ⟨ho, -⟩ | ⟨ho, -, -⟩
  · exact hasOperatorFirst_of_append hts (by simp [ho.right]) fun rest h => hl.hasOperatorFirst h
  · obtain ⟨rfl, -⟩ := List.cons.inj hts
    exact .inr (.inl (by simp [ho.right]))
  · obtain ⟨rfl, -⟩ := List.cons.inj hts
    exact .inr (.inl (by simp [ho.right]))
  · obtain ⟨rfl, -⟩ := List.cons.inj hts
    exact .inl ho

/-- So does a chain, which starts with a clause. -/
theorem Chain.hasOperatorFirst {ts : List Token} {n : Node} {t u : Token} {rest : List Token}
    (h : Chain ts n) (hts : ts = t :: u :: rest) : HasOperatorFirst t u := by
  match h with
  | .clause h => exact h.hasOperatorFirst hts
  | .connection hl ho _ =>
    exact hasOperatorFirst_of_append hts (by simp [ho.right]) fun rest h => hl.hasOperatorFirst h

/-- A condition of several tokens starts with a parenthesis, or has an operator among its first two
    tokens. -/
theorem hasOperatorFirst (h : Condition (t :: u :: rest) n) : HasOperatorFirst t u := by
  rcases h with h | h
  · exact h.hasOperatorFirst rfl
  · exact h.hasOperatorFirst rfl

end Condition

/-- The builder reads `a (= 1)`, which is no condition of the grammar, as `a = 1`. -/
theorem buildTree_operator_in_parentheses :
    let token (id : String) (literal : Literal) : Token := ⟨Grammar.described id, literal⟩
    let tokens :=
      [token "record_property" (.text "a"), token "open_parenthesis" (.text "("),
        token "equals" (.text "="), token "number" (.integer 1),
        token "close_parenthesis" (.text ")")]
    tokens ≠ [] ∧ (∀ t ∈ tokens, t.IsStandard) ∧ (∃ n, buildTree tokens = .ok n) ∧
      ¬∃ n, Condition tokens n := by
  intro token tokens
  have hne : tokens ≠ [] := List.cons_ne_nil _ _
  have hstandard : ∀ t ∈ tokens, t.IsStandard := by
    simp only [tokens, List.forall_mem_cons]
    refine ⟨?_, ?_, ?_, ?_, ?_, List.forall_mem_nil _⟩
    all_goals exact Token.isStandard_described rfl
  have hmixed : ¬MixesParameters tokens := by
    rintro ⟨⟨t, ht, hk⟩, -⟩
    simp only [tokens, List.mem_cons, List.not_mem_nil, or_false] at ht
    rcases ht with rfl | rfl | rfl | rfl | rfl <;> cases hk
  have hreads : Reads (fun _ => True) tokens (.phrase none .complete) := by
    let everything : Shape → Prop := fun _ => True
    have ha : Reads everything [token "record_property" (.text "a")] .operand :=
      .token .nil (.operand ⟨rfl, rfl, rfl, rfl⟩) rfl
    have hequals : Reads everything [token "equals" (.text "=")]
        (.phrase (some .primitive) (.awaits .primitive)) :=
      .token .nil (.operator ⟨rfl, rfl, rfl, rfl⟩ (.inr rfl)) rfl
    have hone : Reads everything [token "equals" (.text "="), token "number" (.integer 1)]
        (.phrase (some .primitive) .complete) :=
      .token hequals (.operand ⟨rfl, rfl, rfl, rfl⟩) rfl
    exact ha.parens (o := token "open_parenthesis" (.text "("))
      (c := token "close_parenthesis" (.text ")")) ⟨rfl, rfl, rfl, rfl⟩ hone
      ⟨rfl, rfl, rfl, rfl⟩ trivial rfl
  refine ⟨hne, hstandard, ?_, ?_⟩
  · rw [buildTree_of_ne_nil hne]
    exact finish_of_reads (.inr rfl) hreads hmixed
  · rintro ⟨n, h⟩
    rcases h.hasOperatorFirst with h | h | h
    · cases h.kind
    · exact h rfl
    · exact h rfl

end RecordQuery
