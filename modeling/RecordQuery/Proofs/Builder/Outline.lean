import RecordQuery.Proofs.Builder.Enclosed
import RecordQuery.Proofs.Builder.Shapes

/-!
# Outlines of stacks

What the builder has on its stack has the shape of a stretch of a condition, or nothing can make a
condition of it any more. A node has a shape unless one of its operands is not whole
(`Node.shape?`), and the outline of a stack is the shape of its nodes after each other (`outline`).
Combining two nodes does not change the outline; so reading a token puts its shape after the
outline, and reading a list in parentheses puts the outline of the list there
(`Builder.StandsAt.accept`, `Builder.StandsAt.foldl_parens`).

Joining shapes is not associative: a complete phrase can be taken from the left and from the right.
But the builder combines before it reads on. So below the top of a stack that has settled there is
no complete phrase that could be taken (`Shape.Rests`), and the order of joining does not matter
there (`outline_append`).
-/

namespace RecordQuery

open Condition

namespace Condition

/-! ### Joining -/

/-- Whether a phrase can stand after an ending does not depend on how the phrase itself ends. -/
theorem Ending.join_phrase (ending : Ending) (l lacks : Option EvalType) :
    (∀ e, ending.join l (.phrase lacks e) = none) ∨
      ∀ e, ending.join l (.phrase lacks e) = some e := by
  rcases ending with _ | ⟨_ | _⟩ | _ <;> rcases lacks with _ | _ | _
  case complete.some.boolean =>
    by_cases h : l = none
    · exact .inr fun _ => if_pos h
    · exact .inl fun _ => if_neg h
  case awaits.boolean.none => exact .inr fun _ => rfl
  case pending.some.primitive => exact .inr fun _ => rfl
  all_goals exact .inl fun _ => rfl

/-- Only a complete ending depends on what its phrase lacks. -/
theorem Ending.join_congr {ending : Ending} (h : ending ≠ .complete) (l l' : Option EvalType)
    (q : Shape) : ending.join l q = ending.join l' q := by
  rcases ending with _ | ⟨_ | _⟩ | _
  case complete => exact absurd rfl h
  all_goals rcases q with _ | _ | ⟨_ | _ | _, _⟩ <;> rfl

namespace Shape

/-- Nor does whether it can stand after a stretch, and it keeps its ending there. -/
theorem join_phrase (p : Shape) (lacks : Option EvalType) :
    (∀ e, p.join (phrase lacks e) = none) ∨
      ∃ lacks', ∀ e, p.join (phrase lacks e) = some (phrase lacks' e) := by
  rcases p with _ | _ | ⟨lacks', ending⟩
  · exact .inr ⟨lacks, fun _ => rfl⟩
  · rcases lacks with _ | _ | _
    · exact .inl fun _ => rfl
    · exact .inr ⟨none, fun _ => rfl⟩
    · exact .inl fun _ => rfl
  · rcases ending.join_phrase lacks' lacks with h | h
    · exact .inl fun e => by rw [join, h, Option.map_none]
    · exact .inr ⟨lacks', fun e => by rw [join, h, Option.map_some]⟩

/-- The shape of two stretches after each other, if both have one. -/
def join? (p q : Option Shape) : Option Shape := p.bind fun p => q.bind p.join

@[simp] theorem join?_some (p q : Shape) : join? (some p) (some q) = p.join q := rfl

@[simp] theorem join?_none_left (q : Option Shape) : join? none q = none := rfl

@[simp] theorem join?_none_right (p : Option Shape) : join? p none = none := by
  rcases p with _ | p <;> rfl

@[simp] theorem join?_nothing (p : Option Shape) : join? p (some nothing) = p := by
  rcases p with _ | p
  · rfl
  · exact p.join_nothing

@[simp] theorem nothing_join? (q : Option Shape) : join? (some nothing) q = q := by
  rcases q with _ | q <;> rfl

/-- Two stretches have a shape together if both have one and the second can stand after the first.
    -/
theorem join?_eq_some_iff {p q : Option Shape} {r : Shape} :
    join? p q = some r ↔ ∃ p' q', p = some p' ∧ q = some q' ∧ p'.join q' = some r := by
  simp only [join?, Option.bind_eq_some_iff, exists_and_left]

/-- The shape of whole stretches with a value of the given type. -/
def whole : EvalType → Shape
  | .primitive => operand
  | .boolean => phrase none .complete

/-- A phrase that awaits a value is complete once a whole stretch of that type follows. -/
theorem awaits_join_whole (lacks : Option EvalType) (ty : EvalType) :
    (phrase lacks (.awaits ty)).join (whole ty) = some (phrase lacks .complete) := by
  cases ty <;> rfl

/-- The shape of a phrase that is not complete, or none. -/
def OpenOrNone (p : Option Shape) : Prop :=
  ∀ q, p = some q → ∃ lacks ending, q = phrase lacks ending ∧ ending ≠ .complete

variable {p q : Option Shape}

theorem openOrNone_none : OpenOrNone none := fun _ h => nomatch h

/-- A whole stretch is not open. -/
theorem IsWhole.not_openOrNone {p : Shape} (h : p.IsWhole) : ¬OpenOrNone (some p) := by
  intro hopen
  obtain ⟨lacks, ending, rfl, hne⟩ := hopen p rfl
  rcases h with h | h
  · cases h
  · cases h
    exact hne rfl

/-- An open phrase stays open behind another stretch. -/
theorem OpenOrNone.join? (h : OpenOrNone q) (p : Option Shape) : OpenOrNone (join? p q) := by
  rcases p with _ | p
  · exact openOrNone_none
  rcases q with _ | q
  · exact openOrNone_none
  obtain ⟨lacks, ending, rfl, hne⟩ := h q rfl
  intro r hr
  rw [join?_some] at hr
  rcases p.join_phrase lacks with hp | ⟨lacks', hp⟩
  · rw [hp] at hr
    cases hr
  · rw [hp] at hr
    exact ⟨lacks', ending, (Option.some.inj hr).symm, hne⟩

/-- Around an open phrase the order of joining does not matter: what stands before it sees only what
    the phrase lacks, and what stands after it only how the phrase ends. -/
theorem OpenOrNone.join?_assoc (h : OpenOrNone q) (p r : Option Shape) :
    Shape.join? p (Shape.join? q r) = Shape.join? (Shape.join? p q) r := by
  rcases p with _ | p
  · rfl
  rcases q with _ | q
  · rfl
  rcases r with _ | r
  · simp
  obtain ⟨lacks, ending, rfl, hne⟩ := h q rfl
  have hr : (phrase lacks ending).join r = (ending.join lacks r).map (phrase lacks) := rfl
  rw [join?_some, join?_some, hr]
  rcases p.join_phrase lacks with hp | ⟨lacks', hp⟩
  · rw [hp, join?_none_left]
    rcases ending.join lacks r with _ | e
    · rfl
    · exact hp e
  · rw [hp, join?_some, join, Ending.join_congr hne lacks' lacks]
    rcases ending.join lacks r with _ | e
    · rfl
    · exact hp e

/-- The second shape can lie on the first: together they are open or have none, and what is read
    after them can be joined in any order. -/
structure Rests (p q : Option Shape) : Prop where
  openOrNone : OpenOrNone (join? p q)
  assoc : ∀ r, join? p (join? q r) = join? (join? p q) r

theorem OpenOrNone.rests (h : OpenOrNone q) (p : Option Shape) : Rests p q :=
  ⟨h.join? p, h.join?_assoc p⟩

/-- Anything can lie on what has no shape, since nothing gives it one again. -/
theorem rests_none (q : Option Shape) : Rests none q where
  openOrNone := openOrNone_none
  assoc _ := rfl

/-- A phrase that cannot stand after a stretch cannot do so whatever follows. -/
theorem rests_phrase {p : Shape} {lacks : Option EvalType}
    (h : ∀ e, p.join (phrase lacks e) = none) (ending : Ending) :
    Rests (some p) (some (phrase lacks ending)) := by
  refine ⟨fun r hr => ?_, fun r => ?_⟩
  · rw [join?_some, h] at hr
    cases hr
  · rw [join?_some, h, join?_none_left]
    rcases r with _ | r
    · rfl
    rw [join?_some, join]
    rcases ending.join lacks r with _ | e
    · rfl
    · exact h e

/-- An operand lies on an operator that wants a boolean, and on nothing else. -/
theorem rests_operand {p : Shape} (h : p = operand ∨
      ∃ lacks, p = phrase lacks .complete ∨ p = phrase lacks (.awaits .boolean)) :
    Rests (some p) (some operand) := by
  -- The operand cannot stand after the first two. The third is left pending, which is open.
  rcases h with rfl | ⟨lacks, rfl | rfl⟩
  · refine ⟨nofun, fun r => ?_⟩
    rcases r with _ | _ | _ | ⟨_ | _ | _, _⟩ <;> rfl
  · refine ⟨nofun, fun r => ?_⟩
    rcases r with _ | _ | _ | ⟨_ | _ | _, _⟩ <;> rfl
  · refine ⟨fun r hr => ⟨lacks, .pending, (Option.some.inj hr).symm, nofun⟩, fun r => ?_⟩
    rcases r with _ | _ | _ | ⟨_ | _ | _, _⟩ <;> rfl

end Shape

end Condition

theorem Token.HasShape.ordinary {t : Token} {q : Shape} (h : t.HasShape q) :
    t.kind.isOrdinary = true := by
  rcases h with h | ⟨h, -⟩ <;> exact h.ordinary

/-! ### Nodes -/

namespace Node

variable {n m : Node} {t : Token} {l r : Option Node} {p q : Shape} {lacks : Option EvalType}
  {ty : EvalType}

/-- No operand is missing anywhere in a tree. -/
def isWhole (n : Node) : Bool := n.inorder.all (!·.isIncomplete)

theorem isWhole_iff : n.isWhole = true ↔ ∀ m ∈ n.inorder, m.isIncomplete = false := by
  simp [isWhole]

/-- No operand is missing anywhere in the operands of a node. -/
def hasWholeOperands (n : Node) : Bool := n.left.all isWhole && n.right.all isWhole

/-- A tree is whole if nothing is missing at its root and its operands are whole. -/
theorem isWhole_eq (n : Node) : n.isWhole = (!n.isIncomplete && n.hasWholeOperands) := by
  have hoperand (o : Option Node) : (inorder? o).all (!·.isIncomplete) = o.all isWhole := by
    rcases o with _ | o
    · rfl
    · rw [inorder?_some]
      rfl
  rw [isWhole, inorder_eq, List.all_append, List.all_cons, hoperand, hoperand, hasWholeOperands,
    Bool.and_left_comm]

/-- The shape of a node whose operands are whole. -/
def rootShape (n : Node) : Shape :=
  if n.result = some .primitive then .operand
  else
    .phrase (if n.isMissing .left then n.descriptor.left else none)
      (match n.descriptor.right, n.right with
      | some ty, none => .awaits ty
      | _, _ => .complete)

/-- The shape of a node, if it can still become whole. -/
def shape? (n : Node) : Option Shape := if n.hasWholeOperands then some n.rootShape else none

theorem shape?_eq (n : Node) :
    n.shape? = if n.hasWholeOperands then some n.rootShape else none := rfl

theorem rootShape_operand (h : t.HasSignature none none .primitive) :
    rootShape ⟨t, l, r⟩ = .operand :=
  if_pos h.result

/-- The shape of an operator: it lacks its left operand and awaits its right one until they are
    there. -/
theorem rootShape_operator (h : t.HasSignature lacks (some ty) .boolean) :
    rootShape ⟨t, l, r⟩ = .phrase (if l.isNone then lacks else none)
      (if r.isNone then .awaits ty else .complete) := by
  have hresult : Node.result ⟨t, l, r⟩ = some .boolean := h.result
  rw [rootShape, if_neg (by rw [hresult]; decide), isMissing_left]
  simp only [descriptor_mk, h.left, h.right]
  congr 1
  · rcases lacks with _ | _ <;> simp
  · rcases r with _ | _ <;> rfl

/-- The node of a token has the shape of the token. -/
theorem shape?_ofToken (h : t.HasShape q) : (ofToken t).shape? = some q := by
  have hshape : (ofToken t).shape? = some (ofToken t).rootShape := if_pos rfl
  rw [hshape, ofToken]
  rcases h with h | ⟨h, -⟩
  · rw [rootShape_operand h]
  · rw [rootShape_operator h]
    rfl

theorem isIncomplete_operand (h : t.HasSignature none none .primitive) :
    isIncomplete ⟨t, l, r⟩ = false := by
  simp [isIncomplete, isMissing_left, isMissing_right, h.left, h.right]

/-- An operator lacks an operand as long as one that it takes is not there. -/
theorem isIncomplete_operator (h : t.HasSignature lacks (some ty) .boolean) :
    isIncomplete ⟨t, l, r⟩ = (lacks.isSome && l.isNone || r.isNone) := by
  simp [isIncomplete, isMissing_left, isMissing_right, h.left, h.right]

/-- A node is complete if its shape is whole. -/
theorem isWhole_rootShape (hn : n.token.HasShape q) : n.rootShape.IsWhole ↔ n.isIncomplete = false := by
  obtain ⟨t, l, r⟩ := n
  rcases hn with h | ⟨h, -⟩
  · rw [rootShape_operand h, isIncomplete_operand h]
    simp [Shape.IsWhole]
  · rw [rootShape_operator h, isIncomplete_operator h]
    rcases l with _ | l <;> rcases r with _ | r <;> simp [Shape.IsWhole]

/-- A tree is whole exactly if it has the shape of a whole stretch. -/
theorem isWhole_iff_shape? (hn : n.token.HasShape q) :
    n.isWhole = true ↔ ∃ p, n.shape? = some p ∧ p.IsWhole := by
  rw [isWhole_eq, shape?, Bool.and_eq_true, Bool.not_eq_true', ← isWhole_rootShape hn]
  by_cases h : n.hasWholeOperands = true <;> simp [h]

/-- A node wants the node before it as its left operand. -/
def adoptsLeft (n before : Node) : Bool := n.isMissing .left && n.fits .left before

/-- A node is wanted as its right operand by the node before it. -/
def isAdoptedRight (n before : Node) : Bool :=
  !n.isIncomplete && before.isMissing .right && before.fits .right n

/-- A phrase that lacks its left operand takes it from a node of that type, if this is whole. -/
theorem join?_phrase (hm : m.token.HasShape q) (hresult : m.result = some ty) (e : Ending) :
    Shape.join? m.shape? (some (.phrase (some ty) e)) =
      if m.isWhole then some (.phrase none e) else none := by
  obtain ⟨t, l, r⟩ := m
  rw [isWhole_eq, shape?]
  by_cases hwhole : hasWholeOperands ⟨t, l, r⟩ = true
  · simp only [hwhole, if_true, Bool.and_true]
    rcases hm with h | @⟨lacks, ty', h, -⟩
    · obtain rfl : EvalType.primitive = ty := Option.some.inj (h.result.symm.trans hresult)
      rw [rootShape_operand h, isIncomplete_operand h]
      rfl
    · obtain rfl : EvalType.boolean = ty := Option.some.inj (h.result.symm.trans hresult)
      rw [rootShape_operator h, isIncomplete_operator h]
      -- An operator is taken as an operand only when it has both of its own.
      rcases r with _ | r
      · cases ty' <;> simp [Shape.join, Ending.join]
      · rcases l with _ | l <;> rcases lacks with _ | lacks <;> simp [Shape.join, Ending.join]
  · simp [hwhole]

/-- The shape of a node that is complete, by the type of its value. -/
theorem shape?_of_complete (hn : n.token.HasShape p) (hresult : n.result = some ty)
    (hcomplete : n.isIncomplete = false) :
    n.shape? = if n.isWhole then some (.whole ty) else none := by
  have hroot : n.rootShape = .whole ty := by
    cases ty with
    | primitive => exact if_pos hresult
    | boolean =>
      -- What is complete has the shape of a whole stretch, and its value tells which one.
      rcases (isWhole_rootShape hn).2 hcomplete with h | h
      · simp [rootShape, hresult] at h
      · exact h
  rw [isWhole_eq, hcomplete, shape?, hroot]
  rfl

/-- Taking the node before it as left operand joins the shapes. -/
theorem shape?_withChild_left (hn : n.token.HasShape p) (hm : m.token.HasShape q)
    (h : n.adoptsLeft m = true) :
    (n.withChild .left (some m)).shape? = Shape.join? m.shape? n.shape? := by
  obtain ⟨t, l, r⟩ := n
  obtain ⟨hmissing, hfits⟩ := Bool.and_eq_true_iff.1 h
  obtain ⟨ty, hexpected, hresult⟩ := fits_iff.1 hfits
  obtain rfl : l = none := Option.isNone_iff_eq_none.1 (Bool.and_eq_true_iff.1 hmissing).2
  -- Only an operator lacks a left operand, and the other node has the type that it expects.
  rcases hn with ht | ⟨ht, -⟩
  · cases ht.left.symm.trans hexpected
  obtain rfl : _ = some ty := ht.left.symm.trans hexpected
  have hwhole : hasWholeOperands ⟨t, some m, r⟩ =
      (m.isWhole && hasWholeOperands ⟨t, none, r⟩) := by
    simp [hasWholeOperands]
  show shape? ⟨t, some m, r⟩ = _
  rw [shape?, hwhole, shape?_eq ⟨t, none, r⟩, rootShape_operator ht, rootShape_operator ht]
  by_cases hr : hasWholeOperands ⟨t, none, r⟩ = true
  · simp only [hr, Bool.and_true, if_true]
    exact (join?_phrase hm hresult _).symm
  · simp [hr]

/-- Becoming the right operand of the node before it joins the shapes. -/
theorem shape?_withChild_right (hn : n.token.HasShape p) (hm : m.token.HasShape q)
    (h : n.isAdoptedRight m = true) :
    (m.withChild .right (some n)).shape? = Shape.join? m.shape? n.shape? := by
  obtain ⟨t, l, r⟩ := m
  obtain ⟨hmissing, hfits⟩ := Bool.and_eq_true_iff.1 h
  obtain ⟨hcomplete, hmissing⟩ := Bool.and_eq_true_iff.1 hmissing
  obtain ⟨ty, hexpected, hresult⟩ := fits_iff.1 hfits
  obtain rfl : r = none := Option.isNone_iff_eq_none.1 (Bool.and_eq_true_iff.1 hmissing).2
  -- Only an operator awaits a right operand.
  rcases hm with ht | ⟨ht, -⟩
  · cases ht.right.symm.trans hexpected
  obtain rfl : _ = ty := Option.some.inj (ht.right.symm.trans hexpected)
  have hwhole : hasWholeOperands ⟨t, l, some n⟩ =
      (hasWholeOperands ⟨t, l, none⟩ && n.isWhole) := by
    simp [hasWholeOperands]
  show shape? ⟨t, l, some n⟩ = _
  rw [shape?, hwhole, shape?_eq ⟨t, l, none⟩, rootShape_operator ht, rootShape_operator ht,
    shape?_of_complete hn hresult (Bool.not_eq_true' _ ▸ hcomplete)]
  -- If an operand that is there already is not whole, there is no shape on either side.
  by_cases hl : hasWholeOperands ⟨t, l, none⟩ = true
  · rcases n.isWhole with _ | _
    · simp [hl]
    · simp only [hl, Bool.and_true, if_true]
      exact (Shape.awaits_join_whole _ _).symm
  · simp [hl]

/-- A node whose right operand a complete node does not become awaits nothing, or another type. -/
theorem rootShape_of_not_isAdoptedRight (hm : m.token.HasShape q) (hresult : n.result = some ty)
    (hcomplete : n.isIncomplete = false) (h : n.isAdoptedRight m = false) :
    m.rootShape = .operand ∨ ∃ lacks, m.rootShape = .phrase lacks .complete ∨
      ∃ ty', ty' ≠ ty ∧ m.rootShape = .phrase lacks (.awaits ty') := by
  obtain ⟨t, l, r⟩ := m
  rcases hm with ht | @⟨lacks, ty', (ht : t.HasSignature _ _ _), -⟩
  · exact .inl (rootShape_operand ht)
  rw [rootShape_operator ht]
  rcases r with _ | r
  · refine .inr ⟨_, .inr ⟨ty', ?_, rfl⟩⟩
    rintro rfl
    have hfits : fits ⟨t, l, none⟩ .right n = true := fits_iff.2 ⟨ty', ht.right, hresult⟩
    simp [isAdoptedRight, hcomplete, hfits, isMissing_right, ht.right] at h
  · exact .inr ⟨_, .inl rfl⟩

/-- A node that is not taken as the left operand that another lacks cannot stand before a phrase
    that lacks it. -/
theorem join_phrase_of_not_adoptsLeft (hm : m.token.HasShape q)
    (hmissing : n.isMissing .left = true) (hexpected : n.descriptor.left = some ty)
    (h : n.adoptsLeft m = false) (e : Ending) : m.rootShape.join (.phrase (some ty) e) = none := by
  have hfits : n.fits .left m ≠ true := by simpa [adoptsLeft, hmissing] using h
  have hresult : m.result ≠ some ty := fun hresult => hfits (fits_iff.2 ⟨ty, hexpected, hresult⟩)
  obtain ⟨t, l, r⟩ := m
  rcases hm with ht | @⟨lacks, ty', ht, -⟩
  · rw [rootShape_operand ht]
    cases ty with
    | primitive => exact absurd ht.result hresult
    | boolean => rfl
  · rw [rootShape_operator ht]
    cases ty with
    | primitive => rcases r with _ | r <;> rcases ty' with _ | _ <;> rfl
    | boolean => exact absurd ht.result hresult

/-- An operator that has its right operand and is not combined with the node before it cannot stand
    after that. -/
theorem join_phrase_of_not_combined {r : Node}
    (ht : t.HasSignature lacks (some ty) .boolean) (hm : m.token.HasShape q)
    (hleft : adoptsLeft ⟨t, l, some r⟩ m = false)
    (hright : isAdoptedRight ⟨t, l, some r⟩ m = false) (e : Ending) :
    m.rootShape.join (.phrase (if l.isNone then lacks else none) e) = none := by
  by_cases hmissing : lacks.isSome = true ∧ l = none
  · obtain ⟨hlacks, rfl⟩ := hmissing
    obtain ⟨ty', rfl⟩ := Option.isSome_iff_exists.1 hlacks
    have hmissing : isMissing ⟨t, none, some r⟩ .left = true := by simp [isMissing_left, ht.left]
    exact join_phrase_of_not_adoptsLeft hm hmissing ht.left hleft e
  -- The operator lacks nothing. It would be taken where a boolean is awaited, and only there could
  -- it stand.
  have hnone : (if l.isNone then lacks else none) = none := by
    rcases l with _ | l <;> simp_all
  have hcomplete : isIncomplete ⟨t, l, some r⟩ = false := by
    rw [isIncomplete_operator ht]
    rcases l with _ | l <;> simp_all
  have hresult : Node.result ⟨t, l, some r⟩ = some .boolean := ht.result
  rw [hnone]
  rcases rootShape_of_not_isAdoptedRight hm hresult hcomplete hright with
    h | ⟨lacks', h | ⟨ty', hne, h⟩⟩
  · rw [h]
    rfl
  · rw [h]
    rfl
  · cases ty' with
    | primitive =>
      rw [h]
      rfl
    | boolean => exact absurd rfl hne

/-- A node that is not combined with the node before it lies on it. -/
theorem rests (hn : n.token.HasShape p) (hm : m.token.HasShape q)
    (hleft : n.adoptsLeft m = false) (hright : n.isAdoptedRight m = false) :
    Shape.Rests m.shape? n.shape? := by
  rw [shape?_eq m, shape?_eq n]
  split
  case isFalse => exact Shape.rests_none _
  split
  case isFalse => exact Shape.openOrNone_none.rests _
  obtain ⟨t, l, r⟩ := n
  rcases hn with ht | @⟨lacks, ty, (ht : t.HasSignature _ _ _), -⟩
  · rw [rootShape_operand ht]
    refine Shape.rests_operand ?_
    rcases rootShape_of_not_isAdoptedRight hm ht.result (isIncomplete_operand ht) hright with
      h | ⟨lacks, h | ⟨ty', hne, h⟩⟩
    · exact .inl h
    · exact .inr ⟨lacks, .inl h⟩
    · cases ty' with
      | primitive => exact absurd rfl hne
      | boolean => exact .inr ⟨lacks, .inr h⟩
  · rw [rootShape_operator ht]
    rcases r with _ | r
    · refine Shape.OpenOrNone.rests (fun r hr => ?_) _
      exact ⟨_, _, (Option.some.inj hr).symm, Ending.noConfusion⟩
    · exact Shape.rests_phrase (join_phrase_of_not_combined ht hm hleft hright) _

end Node

/-! ### Stacks -/

section

open Shape

variable {n : Node} {stack above : List Node} {p q : Option Shape}

/-- The shape of the nodes of a stack after each other, and of what stands after them. The stack has
    the last node first. -/
def outlineBefore (stack : List Node) (after : Option Shape) : Option Shape :=
  stack.foldl (fun after n => join? n.shape? after) after

/-- The shape of the nodes of a stack after each other. -/
def outline (stack : List Node) : Option Shape := outlineBefore stack (some .nothing)

/-- The node on top of a stack is not combined with the one before it. -/
def IsSettled : List Node → Prop
  | n :: m :: _ => n.adoptsLeft m = false ∧ n.isAdoptedRight m = false
  | _ => True

/-- The nodes of a stack are tokens with a shape, with their operands. -/
def HaveShapes (stack : List Node) : Prop := ∀ n ∈ stack, ∃ q, n.token.HasShape q

@[simp] theorem outlineBefore_cons (n : Node) (stack : List Node) (after : Option Shape) :
    outlineBefore (n :: stack) after = outlineBefore stack (join? n.shape? after) := rfl

/-- The outline of a stack starts from the shape of its top. -/
theorem outline_cons (n : Node) (stack : List Node) :
    outline (n :: stack) = outlineBefore stack n.shape? := by
  rw [outline, outlineBefore_cons, join?_nothing]

/-- Below an open phrase the order of joining does not matter. -/
theorem outlineBefore_join? (h : OpenOrNone p) (q : Option Shape) :
    OpenOrNone (outlineBefore stack p) ∧
      outlineBefore stack (join? p q) = join? (outlineBefore stack p) q := by
  induction stack generalizing p with
  | nil => exact ⟨h, rfl⟩
  | cons n stack ih =>
    rw [outlineBefore_cons, outlineBefore_cons, h.join?_assoc]
    exact ih (h.join? n.shape?)

/-- Nodes before the top of a stack that has settled leave it open. -/
theorem openOrNone_outline {m : Node} (hs : IsSettled (n :: m :: stack))
    (hshapes : HaveShapes (n :: m :: stack)) : OpenOrNone (outline (n :: m :: stack)) := by
  obtain ⟨⟨p, hn⟩, ⟨q, hm⟩, -⟩ := List.forall_mem_cons.1 hshapes |>.imp_right List.forall_mem_cons.1
  rw [outline_cons, outlineBefore_cons]
  exact (outlineBefore_join? (Node.rests hn hm hs.1 hs.2).openOrNone (some .nothing)).1

/-- What stands after a stack that has settled is joined with its outline. -/
theorem outlineBefore_of_isSettled (hs : IsSettled stack) (hshapes : HaveShapes stack)
    (q : Option Shape) : outlineBefore stack q = join? (outline stack) q := by
  match stack with
  | [] => exact (nothing_join? q).symm
  | [n] => rw [outline_cons]; rfl
  | n :: m :: stack =>
    obtain ⟨⟨p, hn⟩, ⟨p', hm⟩, -⟩ :=
      List.forall_mem_cons.1 hshapes |>.imp_right List.forall_mem_cons.1
    -- The two nodes on top are joined first; what they leave is open, all the way down.
    have hrests := Node.rests hn hm hs.1 hs.2
    rw [outline_cons, outlineBefore_cons, outlineBefore_cons, outlineBefore_cons, hrests.assoc]
    exact (outlineBefore_join? hrests.openOrNone q).2

/-- The outline of a stack on one that has settled is joined to the outline of the latter. -/
theorem outline_append (hs : IsSettled stack) (hshapes : HaveShapes stack) (above : List Node) :
    outline (above ++ stack) = join? (outline stack) (outline above) := by
  rw [← outlineBefore_of_isSettled hs hshapes, outline, outlineBefore, List.foldl_append]
  rfl

/-- A stack that has settled with the outline of a whole stretch is a single whole tree. -/
theorem exists_root {p : Shape} (hs : IsSettled stack) (hshapes : HaveShapes stack)
    (houtline : outline stack = some p) (hp : p.IsWhole) :
    ∃ n, stack = [n] ∧ n.isWhole = true := by
  match stack with
  | [] =>
    obtain rfl : Shape.nothing = p := Option.some.inj houtline
    rcases hp with hp | hp <;> cases hp
  | [n] =>
    obtain ⟨q, hn⟩ := hshapes n (List.mem_singleton_self n)
    rw [outline_cons] at houtline
    exact ⟨n, rfl, (Node.isWhole_iff_shape? hn).2 ⟨p, houtline, hp⟩⟩
  | n :: m :: stack =>
    -- Two nodes that are not combined leave the outline open, which is not whole.
    have hopen := openOrNone_outline hs hshapes
    rw [houtline] at hopen
    exact absurd hopen hp.not_openOrNone

end

namespace Builder

variable {b : Builder} {t o c : Token} {p q : Option Shape} {us : List Token}

/-- The builder has no parenthesis open and has found nothing wrong, and its stack has the given
    outline. -/
structure IsLevel (b : Builder) (p : Option Shape) : Prop where
  height : b.height = b.stack.length
  opened : b.opened = []
  reasons : b.reasons = []
  lost : b.lost = false
  shapes : HaveShapes b.stack
  outline : outline b.stack = p

/-- It has settled besides. -/
structure StandsAt (b : Builder) (p : Option Shape) : Prop extends b.IsLevel p where
  settled : IsSettled b.stack

/-- Before the first token the builder stands at the empty stretch. -/
theorem standsAt_empty : StandsAt {} (some .nothing) where
  height := rfl
  opened := rfl
  reasons := rfl
  lost := rfl
  shapes := nofun
  outline := rfl
  settled := trivial

/-! ### Settling -/

/-- A node in place of two whose shapes it joins keeps the outline. -/
theorem IsLevel.combine {n m k : Node} {rest : List Node} (h : b.IsLevel p)
    (hs : b.stack = n :: m :: rest) (hk : ∃ q, k.token.HasShape q)
    (hshape : k.shape? = Shape.join? m.shape? n.shape?) :
    IsLevel { b with stack := k :: rest, height := b.height - 1 } p where
  height := by simp [h.height, hs]
  opened := h.opened
  reasons := h.reasons
  lost := h.lost
  shapes := by
    have hshapes := h.shapes
    rw [hs] at hshapes
    exact List.forall_mem_cons.2 ⟨hk, fun x hx => hshapes x (by simp [hx])⟩
  outline := by
    rw [← h.outline, hs, outline_cons, outline_cons, outlineBefore_cons, hshape]

/-- The two nodes on top are tokens with a shape, with their operands. -/
theorem IsLevel.haveShapes {n m : Node} {rest : List Node} (h : b.IsLevel p)
    (hs : b.stack = n :: m :: rest) :
    (∃ q, n.token.HasShape q) ∧ ∃ q, m.token.HasShape q :=
  ⟨h.shapes n (by simp [hs]), h.shapes m (by simp [hs])⟩

/-- Taking the node before it as left operand keeps the outline. Then the top wants none. -/
theorem IsLevel.adoptLeft (h : b.IsLevel p) : b.adoptLeft.IsLevel p ∧
    ∀ n m rest, b.adoptLeft.stack = n :: m :: rest → n.adoptsLeft m = false := by
  rw [Builder.adoptLeft]
  split
  · rename_i n m rest hs
    obtain ⟨⟨q, hn⟩, q', hm⟩ := h.haveShapes hs
    split
    · rename_i hadopts
      refine ⟨h.combine hs ⟨q, hn⟩ (Node.shape?_withChild_left hn hm hadopts), ?_⟩
      -- The top has its left operand now, so it wants none.
      rintro n' m' rest' ⟨⟩
      simp [Node.adoptsLeft, Node.isMissing, Node.withChild, Node.child?]
    · rename_i hadopts
      refine ⟨h, fun n' m' rest' hs' => ?_⟩
      rw [hs] at hs'
      cases hs'
      exact Bool.eq_false_iff.2 hadopts
  · rename_i hshort
    exact ⟨h, fun n m rest hs => absurd hs (hshort n m rest)⟩

/-- Becoming the right operand of the node before it keeps the outline. If this is not done, the
    node before it does not want the top. -/
theorem IsLevel.adoptRight (h : b.IsLevel p) : b.adoptRight.1.IsLevel p ∧
    (b.adoptRight.2 = false → b.adoptRight.1 = b ∧
      ∀ n m rest, b.stack = n :: m :: rest → n.isAdoptedRight m = false) := by
  rw [Builder.adoptRight]
  split
  · rename_i n m rest hs
    obtain ⟨⟨q, hn⟩, q', hm⟩ := h.haveShapes hs
    split
    · rename_i hadopted
      exact ⟨h.combine hs ⟨q', hm⟩ (Node.shape?_withChild_right hn hm hadopted),
        Bool.noConfusion⟩
    · rename_i hadopted
      refine ⟨h, fun _ => ⟨rfl, fun n' m' rest' hs' => ?_⟩⟩
      rw [hs] at hs'
      cases hs'
      exact Bool.eq_false_iff.2 hadopted
  · rename_i hshort
    exact ⟨h, fun _ => ⟨rfl, fun n m rest hs => absurd hs (hshort n m rest)⟩⟩

/-- On a stack of nodes with a shape, entering the top has no effect. -/
theorem examine_of_haveShapes (h : HaveShapes b.stack) :
    b.examine = b.adoptLeft.adoptRight := by
  rw [examine]
  split
  · rename_i hs
    simp [Builder.adoptLeft, Builder.adoptRight, hs]
  · rename_i n rest hs
    obtain ⟨q, hn⟩ := h n (by simp [hs])
    rw [enter_of_isOrdinary hn.ordinary]

/-- Examining the top keeps the outline, and if it is not to be repeated, the stack has settled. -/
theorem IsLevel.examine (h : b.IsLevel p) : b.examine.1.IsLevel p ∧
    (b.examine.2 = false → IsSettled b.examine.1.stack) := by
  rw [examine_of_haveShapes h.shapes]
  obtain ⟨hlevel, hleft⟩ := h.adoptLeft
  obtain ⟨hlevel', hright⟩ := hlevel.adoptRight
  refine ⟨hlevel', fun hdone => ?_⟩
  obtain ⟨hsame, hright⟩ := hright hdone
  rw [hsame]
  match hs : b.adoptLeft.stack with
  | [] => trivial
  | [_] => trivial
  | n :: m :: rest => exact ⟨hleft n m rest hs, hright n m rest hs⟩

/-- Settling keeps the outline. -/
theorem IsLevel.settle (h : b.IsLevel p) : b.settle.StandsAt p := by
  fun_induction Builder.settle b with
  | case1 b _ ih => exact ih h.examine.1
  | case2 b hdone => exact { h.examine.1 with settled := h.examine.2 (Bool.eq_false_iff.2 hdone) }

/-! ### Reading -/

/-- A token that is no parenthesis puts its shape after the outline. -/
theorem StandsAt.accept {q : Shape} (h : b.StandsAt p) (ht : t.HasShape q) :
    (b.accept t).StandsAt (Shape.join? p (some q)) := by
  refine IsLevel.settle (b := b.push (.ofToken t)) ⟨?_, h.opened, h.reasons, h.lost, ?_, ?_⟩
  · exact congrArg (· + 1) h.height
  · exact List.forall_mem_cons.2 ⟨⟨q, ht⟩, h.shapes⟩
  · have houtline := outline_append h.settled h.shapes [.ofToken t]
    rwa [h.outline, outline_cons, Node.shape?_ofToken ht] at houtline

/-- A closing parenthesis on top of what was read inside goes, and the opening one below goes with
    it. -/
theorem enter_closing_above {b' : Builder} (hopened : b'.opened = [])
    (hheight : b'.height = b'.stack.length) (hc : c.kind = .closeParen) :
    ((b'.above (b.pushOpening o)).push (.ofToken c)).enter (.ofToken c) = b'.above b := by
  obtain ⟨stack, height, opened, reasons, lost⟩ := b'
  obtain rfl : opened = [] := hopened
  obtain rfl : height = stack.length := hheight
  have hlt : b.height < stack.length + (b.height + 1) := by omega
  have hplace : (stack ++ .ofToken o :: b.stack).eraseIdx stack.length = stack ++ b.stack := by
    rw [List.eraseIdx_append_of_length_le (Nat.le_refl _), Nat.sub_self, List.eraseIdx_cons_zero]
  simp [enter, hc, closeParenthesis, removeAbove, above, pushOpening, push, hlt, hplace]

/-- When a pair of parentheses closes, what was read inside is on top of what was there before, and
    settles. -/
theorem foldl_accept_parens (h : b.StandsAt p) (hus : (us.foldl accept {}).StandsAt q)
    (ho : o.IsOpening) (hc : c.IsClosing) :
    (o :: (us ++ [c])).foldl accept b = ((us.foldl accept {}).above b).settle := by
  -- Nothing combines with the opening parenthesis, so the tokens inside are read above it as they
  -- are by themselves.
  have hinside : us.foldl accept (b.accept o) =
      (us.foldl accept {}).above (b.pushOpening o) := by
    rw [accept_opening ho.kind ho.inert, ← foldl_accept_above (isShut_pushOpening ho.inert)
      isMeasured_empty hus.reasons, above_empty]
  rw [List.foldl_cons, List.foldl_append, hinside]
  generalize us.foldl accept {} = b' at hus
  have hshapes : HaveShapes (b'.above b).stack := List.forall_mem_append.2 ⟨hus.shapes, h.shapes⟩
  -- The examination that closes the pair goes on as the one of the stack without it.
  refine settle_congr ?_
  rw [examine_of_haveShapes hshapes]
  show (((b'.above (b.pushOpening o)).push (.ofToken c)).enter
    (.ofToken c)).adoptLeft.adoptRight = _
  rw [enter_closing_above hus.opened hus.height hc.kind]

/-- A list in parentheses puts its outline after the outline. -/
theorem StandsAt.foldl_parens (h : b.StandsAt p) (hus : (us.foldl Builder.accept {}).StandsAt q)
    (ho : o.IsOpening) (hc : c.IsClosing) :
    ((o :: (us ++ [c])).foldl Builder.accept b).StandsAt (Shape.join? p q) := by
  rw [foldl_accept_parens h hus ho hc]
  refine IsLevel.settle ⟨?_, ?_, ?_, ?_, ?_, ?_⟩
  · simp [above, h.height, hus.height]
  · simp [above, h.opened, hus.opened]
  · simp [above, h.reasons, hus.reasons]
  · simp [above, h.lost, hus.lost]
  · exact List.forall_mem_append.2 ⟨hus.shapes, h.shapes⟩
  · have houtline := outline_append h.settled h.shapes (us.foldl Builder.accept {}).stack
    rwa [h.outline, hus.outline] at houtline

end Builder

end RecordQuery
