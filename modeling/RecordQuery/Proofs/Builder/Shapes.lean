import RecordQuery.Proofs.Builder.Derivation

/-!
# Shapes of stretches

What a stretch of tokens can be when it is no condition yet: nothing, an operand, or a phrase, which
may lack the left operand of its first operator and may want something more in the end. Two
stretches after each other make another one, or nothing that makes sense (`Shape.join`).

A list of tokens has a shape token by token, where a pair of parentheses stands for the stretch
inside (`Reads`). Which shapes may stand in parentheses is left open. If only operands and complete
phrases may, what reads as one of these is a condition of the grammar, and conversely
(`exists_condition_iff`); so shapes say the same as the grammar, except for what parentheses
enclose.
-/

namespace RecordQuery

/-! ### Shapes -/

namespace Condition

/-- How a phrase ends. -/
inductive Ending where
  /-- Nothing more is wanted. -/
  | complete
  /-- The last operator wants an operand of a type. -/
  | awaits (ty : EvalType)
  /-- The last operator wants a boolean, and an operand for a comparison stands after it. -/
  | pending
deriving DecidableEq

/-- What a stretch of tokens is. -/
inductive Shape where
  /-- No tokens that matter. -/
  | nothing
  /-- An operand of a comparison. -/
  | operand
  /-- Operators with their operands, but perhaps without the left operand of the first. -/
  | phrase (lacks : Option EvalType) (ending : Ending)
deriving DecidableEq

/-- How a phrase ends with a stretch after it, if that can stand there. Only a phrase that lacks
    nothing can be an operand itself. -/
def Ending.join (lacks : Option EvalType) : Ending → Shape → Option Ending
  | ending, .nothing => some ending
  -- A connective takes the whole phrase before it as its left operand.
  | .complete, .phrase (some .boolean) ending => if lacks = none then some ending else none
  | .awaits .primitive, .operand => some .complete
  -- An operand where a boolean is wanted must be the left operand of a comparison.
  | .awaits .boolean, .operand => some .pending
  | .pending, .phrase (some .primitive) ending => some ending
  | .awaits .boolean, .phrase none ending => some ending
  | _, _ => none

@[simp] theorem Ending.join_nothing (lacks : Option EvalType) (ending : Ending) :
    ending.join lacks .nothing = some ending := by
  rcases ending with _ | ⟨_ | _⟩ | _ <;> rfl

namespace Shape

/-- The shape of two stretches after each other, if the second can stand there. -/
def join : Shape → Shape → Option Shape
  | nothing, q => some q
  | operand, nothing => some operand
  | operand, phrase (some .primitive) ending => some (phrase none ending)
  | operand, _ => none
  | phrase lacks ending, q => (ending.join lacks q).map (phrase lacks)

/-- An operand, or a phrase in which nothing is missing. -/
def IsWhole (p : Shape) : Prop := p = operand ∨ p = phrase none .complete

instance : DecidablePred IsWhole := fun p =>
  inferInstanceAs (Decidable (p = operand ∨ p = phrase none .complete))

@[simp] theorem join_nothing (p : Shape) : p.join nothing = some p := by
  rcases p with _ | _ | ⟨lacks, ending⟩
  · rfl
  · rfl
  · rw [join, Ending.join_nothing, Option.map_some]

/-- A complete phrase stands at the start, or after an operator that wants a boolean. -/
theorem join_complete {p q : Shape} (h : p.join (phrase none .complete) = some q) :
    p = nothing ∧ q = phrase none .complete ∨
      ∃ lacks, p = phrase lacks (.awaits .boolean) ∧ q = phrase lacks .complete := by
  rcases p with _ | _ | ⟨lacks, _ | ⟨_ | _⟩ | _⟩ <;> cases h
  · exact .inl ⟨rfl, rfl⟩
  · exact .inr ⟨lacks, rfl, rfl⟩

end Shape

end Condition

open Condition

/-- The shape of a token by itself: an operand, or an operator that wants operands. If it wants two,
    they have one type. -/
inductive Token.HasShape (t : Token) : Shape → Prop
  | operand : t.HasSignature none none .primitive → t.HasShape .operand
  | operator {lacks : Option EvalType} {ty : EvalType} :
    t.HasSignature lacks (some ty) .boolean → (lacks = none ∨ lacks = some ty) →
      t.HasShape (.phrase lacks (.awaits ty))

namespace Condition

variable {ts us : List Token} {t o c : Token} {n : Node} {p q r : Shape} {allowed : Shape → Prop}

/-- The tokens of a shape. Only stretches of allowed shapes stand in parentheses. -/
inductive Reads (allowed : Shape → Prop) : List Token → Shape → Prop
  /-- No tokens. -/
  | nil : Reads allowed [] .nothing
  /-- One more token. -/
  | token {ts : List Token} {t : Token} {p q r : Shape} :
    Reads allowed ts p → t.HasShape q → p.join q = some r → Reads allowed (ts ++ [t]) r
  /-- One more pair of parentheses, with what it encloses. -/
  | parens {ts us : List Token} {o c : Token} {p q r : Shape} :
    Reads allowed ts p → o.IsOpening → Reads allowed us q → c.IsClosing → allowed q →
      p.join q = some r → Reads allowed (ts ++ o :: (us ++ [c])) r

/-! ### What is read of a condition -/

/-- Where an operand can stand, one is read. -/
theorem Operand.reads (h : Operand us n) (hts : Reads Shape.IsWhole ts p)
    (hjoin : p.join .operand = some q) : Reads Shape.IsWhole (ts ++ us) q := by
  induction h generalizing ts p q with
  | leaf ht => exact .token hts (.operand ht) hjoin
  | parens ho _ hc ih => exact .parens hts ho (ih .nil rfl) hc (.inl rfl) hjoin

mutual

/-- Where a complete phrase can stand, a clause is read as one. -/
theorem Clause.reads {ts us : List Token} {n : Node} {p q : Shape} (h : Clause us n)
    (hts : Reads Shape.IsWhole ts p) (hjoin : p.join (.phrase none .complete) = some q) :
    Reads Shape.IsWhole (ts ++ us) q := by
  match h with
  | @Clause.comparison o us vs _ _ hl ho hr =>
    have ho : o.HasShape (.phrase (some .primitive) (.awaits .primitive)) := .operator ho (.inr rfl)
    rw [← List.singleton_append, ← List.append_assoc, ← List.append_assoc]
    -- The left operand waits beside an operator that wants a boolean until it is taken.
    rcases Shape.join_complete hjoin with ⟨rfl, rfl⟩ | ⟨lacks, rfl, rfl⟩
    · exact hr.reads (.token (hl.reads hts rfl) ho rfl) rfl
    · exact hr.reads (.token (hl.reads hts rfl) ho rfl) rfl
  | @Clause.test o us _ ho hr =>
    have ho : o.HasShape (.phrase none (.awaits .primitive)) := .operator ho (.inl rfl)
    rw [← List.singleton_append, ← List.append_assoc]
    rcases Shape.join_complete hjoin with ⟨rfl, rfl⟩ | ⟨lacks, rfl, rfl⟩
    · exact hr.reads (.token hts ho rfl) rfl
    · exact hr.reads (.token hts ho rfl) rfl
  | @Clause.negation o us _ ho hr =>
    have ho : o.HasShape (.phrase none (.awaits .boolean)) := .operator ho (.inl rfl)
    rw [← List.singleton_append, ← List.append_assoc]
    rcases Shape.join_complete hjoin with ⟨rfl, rfl⟩ | ⟨lacks, rfl, rfl⟩
    · exact hr.reads (.token hts ho rfl) rfl
    · exact hr.reads (.token hts ho rfl) rfl
  | .parens ho h hc => exact .parens hts ho h.reads hc (.inr rfl) hjoin

/-- A chain is read as a complete phrase. -/
theorem Chain.reads {us : List Token} {n : Node} (h : Chain us n) :
    Reads Shape.IsWhole us (.phrase none .complete) := by
  match h with
  | .clause h => exact h.reads .nil rfl
  | @Chain.connection o us vs _ _ hl ho hr =>
    rw [← List.singleton_append, ← List.append_assoc]
    exact hr.reads (.token hl.reads (.operator ho (.inr rfl)) rfl) rfl

end

/-! ### What is meant by a shape -/

/-- What the tokens of a shape are in terms of the grammar, if no operand is lacking at the start:
    the tokens of an operand or a chain, or of a chain but for what is awaited. -/
def Shape.Means : Shape → List Token → Prop
  | nothing, ts => ts = []
  | operand, ts => ∃ n, Operand ts n
  | phrase none .complete, ts => ∃ n, Chain ts n
  | phrase none (.awaits .primitive), ts => ∀ us n, Operand us n → ∃ m, Chain (ts ++ us) m
  | phrase none (.awaits .boolean), ts => ∀ us n, Clause us n → ∃ m, Chain (ts ++ us) m
  | phrase none .pending, ts => ∃ vs ws n, ts = vs ++ ws ∧
      (∀ us n, Clause us n → ∃ m, Chain (vs ++ us) m) ∧ Operand ws n
  | phrase (some _) _, _ => True

namespace Shape

/-- What a shape means is kept when the tokens of an operand are put after it. -/
theorem Means.join_operand (h : p.Means ts) (hus : Operand us n)
    (hjoin : p.join .operand = some q) : q.Means (ts ++ us) := by
  rcases p with _ | _ | ⟨_ | lacks, _ | ⟨_ | _⟩ | _⟩ <;> cases hjoin
  · obtain rfl : ts = [] := h
    exact ⟨n, hus⟩
  · exact h us n hus
  · exact ⟨ts, us, n, rfl, h, hus⟩
  all_goals trivial

/-- What a shape means is kept when the tokens of a clause are put after it. -/
theorem Means.join_clause (h : p.Means ts) (hus : Clause us n)
    (hjoin : p.join (.phrase none .complete) = some q) : q.Means (ts ++ us) := by
  rcases join_complete hjoin with ⟨rfl, rfl⟩ | ⟨_ | lacks, rfl, rfl⟩
  · obtain rfl : ts = [] := h
    exact ⟨n, .clause hus⟩
  · exact h us n hus
  · trivial

/-- An operator without a left operand begins a clause. -/
theorem Means.join_unary {ty : EvalType} (h : p.Means ts)
    (ht : t.HasSignature none (some ty) .boolean)
    (hjoin : p.join (.phrase none (.awaits ty)) = some q) : q.Means (ts ++ [t]) := by
  -- The clause stands alone, or after an operator that wants a boolean.
  have hclause : (∀ us n, Clause us n → ∃ m, Chain (ts ++ us) m) →
      (Shape.phrase none (.awaits ty)).Means (ts ++ [t]) := by
    intro h
    cases ty with
    | primitive =>
      intro us n hus
      rw [List.append_assoc]
      exact h _ _ (.test ht hus)
    | boolean =>
      intro us n hus
      rw [List.append_assoc]
      exact h _ _ (.negation ht hus)
  rcases p with _ | _ | ⟨_ | lacks, _ | ⟨_ | _⟩ | _⟩ <;> cases hjoin
  · obtain rfl : ts = [] := h
    exact hclause fun us n hus => ⟨n, .clause hus⟩
  · exact hclause h
  · trivial

/-- An operator with a left operand continues what stands before it. -/
theorem Means.join_binary {ty : EvalType} (h : p.Means ts)
    (ht : t.HasSignature (some ty) (some ty) .boolean)
    (hjoin : p.join (.phrase (some ty) (.awaits ty)) = some q) : q.Means (ts ++ [t]) := by
  rcases p with _ | _ | ⟨_ | lacks, _ | ⟨_ | _⟩ | _⟩ <;> cases ty <;> cases hjoin
  · trivial
  · trivial
  · intro us n hus
    obtain ⟨m, hts⟩ := h
    rw [List.append_assoc]
    exact ⟨_, .clause (.comparison hts ht hus)⟩
  · intro us n hus
    obtain ⟨m, hts⟩ := h
    rw [List.append_assoc]
    exact ⟨_, .connection hts ht hus⟩
  · intro us n hus
    obtain ⟨vs, ws, m, rfl, hvs, hws⟩ := h
    rw [List.append_assoc, List.append_assoc]
    exact hvs _ _ (.comparison hws ht hus)
  · trivial

end Shape

/-- If only whole stretches stand in parentheses, shapes mean what the grammar says. -/
theorem Reads.means (h : Reads Shape.IsWhole ts p) : p.Means ts := by
  induction h with
  | nil => rfl
  | token _ ht hjoin ih =>
    rcases ht with ht | ⟨ht, rfl | rfl⟩
    · exact ih.join_operand (.leaf ht) hjoin
    · exact ih.join_unary ht hjoin
    · exact ih.join_binary ht hjoin
  | parens _ ho _ hc hq hjoin ih ih' =>
    rcases hq with rfl | rfl
    · obtain ⟨n, hus⟩ := ih'
      exact ih.join_operand (.parens ho hus hc) hjoin
    · obtain ⟨n, hus⟩ := ih'
      exact ih.join_clause (.parens ho hus hc) hjoin

end Condition

/-- The conditions of the grammar are what is read as an operand or a complete phrase if only these
    stand in parentheses. -/
theorem exists_condition_iff {ts : List Token} :
    (∃ n, Condition ts n) ↔ ∃ p : Shape, p.IsWhole ∧ Reads Shape.IsWhole ts p := by
  constructor
  · rintro ⟨n, h | h⟩
    · exact ⟨.operand, .inl rfl, h.reads .nil rfl⟩
    · exact ⟨.phrase none .complete, .inr rfl, h.reads⟩
  · rintro ⟨p, rfl | rfl, h⟩
    · obtain ⟨n, hn⟩ := h.means
      exact ⟨n, .operand hn⟩
    · obtain ⟨n, hn⟩ := h.means
      exact ⟨n, .chain hn⟩

end RecordQuery
