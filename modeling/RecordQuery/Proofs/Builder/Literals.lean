import Mathlib.Data.List.InsertIdx
import RecordQuery.Proofs.Builder.Enclosed

/-!
# Other literals

The builder looks at the descriptors of tokens, and not at their literals, which it only reports. So
tokens with other literals, but the same descriptors, are built into the same tree with the other
tokens in it (`IsAccepted.map`).

* `Node.mapTokens`: a tree with other tokens.
* `Builder.mapTokens`: a builder with other tokens in its trees.
* `Builder.foldl_accept_map`: reading tokens with other literals.
-/

namespace RecordQuery

/-- A change of tokens that keeps their descriptors, and leaves alone those that are unknown. -/
structure Token.ChangesLiterals (f : Token → Token) : Prop where
  descriptor : ∀ t, (f t).descriptor = t.descriptor
  unknown : ∀ t, t.kind = .unknown → f t = t

namespace Node

/-! ### Trees -/

mutual

/-- A tree with other tokens. -/
def mapTokens (f : Token → Token) : Node → Node
  | ⟨t, l, r⟩ => ⟨f t, mapTokens? f l, mapTokens? f r⟩

/-- An operand with other tokens. -/
def mapTokens? (f : Token → Token) : Option Node → Option Node
  | none => none
  | some n => some (n.mapTokens f)

end

variable {f : Token → Token}

/-- An operand with other tokens is the tree with other tokens, if there is one. -/
theorem mapTokens?_eq_map (o : Option Node) : mapTokens? f o = o.map (mapTokens f) := by
  cases o <;> simp [mapTokens?]

theorem mapTokens_mk (t : Token) (l r : Option Node) :
    mapTokens f ⟨t, l, r⟩ = ⟨f t, l.map (mapTokens f), r.map (mapTokens f)⟩ := by
  rw [mapTokens, mapTokens?_eq_map, mapTokens?_eq_map]

@[simp] theorem mapTokens_ofToken (t : Token) : (ofToken t).mapTokens f = ofToken (f t) :=
  mapTokens_mk t none none

@[simp] theorem token_mapTokens (n : Node) : (n.mapTokens f).token = f n.token := by
  obtain ⟨t, l, r⟩ := n
  rw [mapTokens_mk]

@[simp] theorem child?_mapTokens (n : Node) (side : Side) :
    (n.mapTokens f).child? side = (n.child? side).map (mapTokens f) := by
  obtain ⟨t, l, r⟩ := n
  rw [mapTokens_mk]
  cases side <;> rfl

/-- Giving a node an operand commutes with changing the tokens. -/
theorem mapTokens_withChild (n : Node) (side : Side) (c : Node) :
    (n.withChild side (some c)).mapTokens f =
      (n.mapTokens f).withChild side (some (c.mapTokens f)) := by
  obtain ⟨t, l, r⟩ := n
  cases side <;> simp [withChild, mapTokens_mk]

/-- The nodes of a tree with other tokens, in order, are those of the tree. -/
theorem inorder_mapTokens (n : Node) : (n.mapTokens f).inorder = n.inorder.map (mapTokens f) := by
  induction n with
  | node t l r hl hr =>
    have hoperand {o : Option Node}
        (ho : ∀ c, o = some c → (c.mapTokens f).inorder = c.inorder.map (mapTokens f)) :
        inorder? (o.map (mapTokens f)) = (inorder? o).map (mapTokens f) := by
      cases o with
      | none => simp
      | some c => simpa using ho c rfl
    rw [mapTokens_mk, inorder, inorder, hoperand hl, hoperand hr, List.map_append, List.map_cons,
      mapTokens_mk]

section

variable (hf : Token.ChangesLiterals f)
include hf

@[simp] theorem descriptor_mapTokens (n : Node) : (n.mapTokens f).descriptor = n.descriptor := by
  rw [descriptor, token_mapTokens, hf.descriptor]
  rfl

@[simp] theorem kind_mapTokens (n : Node) : (n.mapTokens f).kind = n.kind :=
  congrArg Descriptor.kind (n.descriptor_mapTokens hf)

@[simp] theorem result_mapTokens (n : Node) : (n.mapTokens f).result = n.result :=
  congrArg Descriptor.result (n.descriptor_mapTokens hf)

@[simp] theorem isMissing_mapTokens (n : Node) (side : Side) :
    (n.mapTokens f).isMissing side = n.isMissing side := by
  simp [isMissing, hf]

@[simp] theorem isIncomplete_mapTokens (n : Node) :
    (n.mapTokens f).isIncomplete = n.isIncomplete := by
  simp [isIncomplete, hf]

@[simp] theorem fits_mapTokens (n c : Node) (side : Side) :
    (n.mapTokens f).fits side (c.mapTokens f) = n.fits side c := by
  simp [fits, hf]

end

end Node

/-! ### Builders -/

namespace Builder

/-- A builder with other tokens in its trees. -/
def mapTokens (f : Token → Token) (b : Builder) : Builder :=
  { b with stack := b.stack.map (Node.mapTokens f) }

variable {f : Token → Token} (hf : Token.ChangesLiterals f)

/-- Putting a token on the stack commutes with changing the tokens. -/
theorem mapTokens_push (b : Builder) (t : Token) :
    (b.push (.ofToken t)).mapTokens f = (b.mapTokens f).push (.ofToken (f t)) := by
  simp [mapTokens, push]

/-- Removing a node from the stack does not look at the nodes. -/
theorem mapTokens_removeAbove (b : Builder) (below : Nat) :
    (b.removeAbove below).mapTokens f = (b.mapTokens f).removeAbove below := by
  by_cases h : below < b.height
  · simp [removeAbove, mapTokens, h, List.eraseIdx_map]
  · simp [removeAbove, mapTokens, h]

/-- Nor does closing a pair, which goes by the places remembered. -/
theorem mapTokens_closeParenthesis (b : Builder) :
    b.closeParenthesis.mapTokens f = (b.mapTokens f).closeParenthesis := by
  obtain ⟨stack, height, opened, reasons, lost⟩ := b
  cases opened with
  | nil => simp [closeParenthesis, mapTokens]
  | cons below opened =>
    simp only [closeParenthesis, mapTokens_removeAbove]
    simp [mapTokens]

section

include hf

/-- What is entered depends on the class of the token. The literal is reported only of unknown
    tokens, which are not changed. -/
theorem mapTokens_enter (b : Builder) (n : Node) :
    (b.enter n).mapTokens f = (b.mapTokens f).enter (n.mapTokens f) := by
  rw [enter, enter, n.kind_mapTokens hf]
  split
  · rename_i hk
    have hliteral : (n.mapTokens f).literal = n.literal := by
      rw [Node.literal, Node.token_mapTokens, hf.unknown _ hk]
      rfl
    rw [hliteral]
    rfl
  · rfl
  · exact mapTokens_closeParenthesis b
  · rfl

/-- Whether a node takes a left operand depends on the descriptors only. -/
theorem mapTokens_adoptLeft (b : Builder) :
    b.adoptLeft.mapTokens f = (b.mapTokens f).adoptLeft := by
  obtain ⟨stack, height, opened, reasons, lost⟩ := b
  match stack with
  | [] => rfl
  | [n] => rfl
  | n :: before :: rest =>
    simp only [adoptLeft, mapTokens, List.map_cons, Node.isMissing_mapTokens hf,
      Node.fits_mapTokens hf]
    split <;> simp [Node.mapTokens_withChild]

/-- Whether a node becomes a right operand depends on the descriptors only. -/
theorem mapTokens_adoptRight (b : Builder) :
    (b.mapTokens f).adoptRight = (b.adoptRight.1.mapTokens f, b.adoptRight.2) := by
  obtain ⟨stack, height, opened, reasons, lost⟩ := b
  match stack with
  | [] => rfl
  | [n] => rfl
  | n :: before :: rest =>
    simp only [adoptRight, mapTokens, List.map_cons, Node.isIncomplete_mapTokens hf,
      Node.isMissing_mapTokens hf, Node.fits_mapTokens hf]
    split <;> simp [Node.mapTokens_withChild]

/-- So an examination is the same for all literals, and asks for another one alike. -/
theorem mapTokens_examine (b : Builder) :
    (b.mapTokens f).examine = (b.examine.1.mapTokens f, b.examine.2) := by
  have hmapped : (b.mapTokens f).stack = b.stack.map (Node.mapTokens f) := rfl
  cases hs : b.stack with
  | nil =>
    rw [hs] at hmapped
    simp [examine, hs, hmapped]
  | cons n rest =>
    rw [hs, List.map_cons] at hmapped
    have hsteps : ((b.mapTokens f).enter (n.mapTokens f)).adoptLeft =
        (b.enter n).adoptLeft.mapTokens f := by
      rw [mapTokens_adoptLeft hf, mapTokens_enter hf]
    simp only [examine, hs, hmapped, hsteps, mapTokens_adoptRight hf]

/-- Stacks with other tokens settle alike. -/
theorem mapTokens_settle (b : Builder) : b.settle.mapTokens f = (b.mapTokens f).settle := by
  fun_induction settle b with
  | case1 b hagain ih =>
    rw [ih]
    exact (settle_of_examine_again ((mapTokens_examine hf b).trans (by rw [hagain]))).symm
  | case2 b hlast =>
    rw [Bool.not_eq_true] at hlast
    exact (settle_of_examine ((mapTokens_examine hf b).trans (by rw [hlast]))).symm

/-- Reading tokens with other literals. -/
theorem foldl_accept_map (ts : List Token) (b : Builder) :
    (ts.map f).foldl accept (b.mapTokens f) = (ts.foldl accept b).mapTokens f := by
  induction ts generalizing b with
  | nil => rfl
  | cons t ts ih =>
    rw [List.map_cons, List.foldl_cons, List.foldl_cons, ← ih, accept_eq, accept_eq,
      mapTokens_settle hf, mapTokens_push]

end

end Builder

/-! ### Lists that are accepted -/

namespace Token.ChangesLiterals

variable {f : Token → Token} (hf : Token.ChangesLiterals f)
include hf

theorem kind (t : Token) : (f t).kind = t.kind := congrArg Descriptor.kind (hf.descriptor t)

/-- The parentheses of a list with other literals are at the same places. -/
theorem withoutParentheses_map (ts : List Token) :
    withoutParentheses (ts.map f) = (withoutParentheses ts).map f := by
  have hparenthesis : (fun t => !t.isParenthesis) ∘ f = fun t => !t.isParenthesis :=
    funext fun t => by simp [Token.isParenthesis, hf.kind t]
  rw [withoutParentheses, withoutParentheses, List.filter_map, hparenthesis]

/-- A list with other literals mixes both forms of parameters exactly if the list does. -/
theorem mixesParameters_map (ts : List Token) :
    MixesParameters (ts.map f) ↔ MixesParameters ts := by
  simp [MixesParameters, hf.kind]

end Token.ChangesLiterals

/-- Tokens with other literals are accepted with the same tree, but for the literals. -/
theorem IsAccepted.map {f : Token → Token} (hf : Token.ChangesLiterals f) {ts : List Token}
    {n : Node} (h : IsAccepted ts n) : IsAccepted (ts.map f) (n.mapTokens f) := by
  have htokens : (n.mapTokens f).tokens = n.tokens.map f := by
    simp [Node.tokens, Node.inorder_mapTokens]
  have hcomplete : ∀ m ∈ (n.mapTokens f).inorder, m.isIncomplete = false := by
    simpa [Node.inorder_mapTokens, hf] using h.complete
  have hunmixed : ¬MixesParameters (n.mapTokens f).tokens := by
    rw [htokens, hf.mixesParameters_map]
    exact h.unmixed
  have hread : (ts.map f).foldl Builder.accept {} = Builder.push {} (n.mapTokens f) := by
    rw [show ({} : Builder) = Builder.mapTokens f {} from rfl, Builder.foldl_accept_map hf,
      Builder.foldl_accept_of_finish h.finish]
    rfl
  exact {
    finish := hread ▸ (Builder.finish_push_empty hcomplete).1 hunmixed
    tokens := by rw [htokens, h.tokens, hf.withoutParentheses_map]
    ordinary := (n.kind_mapTokens hf) ▸ h.ordinary
    complete := hcomplete
    unmixed := hunmixed }

end RecordQuery
