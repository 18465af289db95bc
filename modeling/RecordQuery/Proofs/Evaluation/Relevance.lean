import RecordQuery.Proofs.Evaluation.Safety

/-!
# What a condition looks at

A condition sees nothing of a record but the properties that it names, and the type if it asks for
it, and nothing of the parameters but those that it mentions. Whether a record matches, and what
goes wrong, is therefore the same for any two records and any two sets of parameters that agree on
this (`test_of_agreeOn`). The identifier of a record, for one, is never looked at.

The operators say what they read (`Operator.ReadsAlike`), one lemma says that they read nothing else
(`Operator.apply_of_readsAlike`), and the tokens of a condition are the nodes of its tree.

* `propertyNames`, `MentionsType`: what a list of tokens mentions of a record.
* `Record.AgreeOn`, `Params.AgreeOn`: records and parameters that do not differ in this.
-/

namespace RecordQuery

/-- The names of the properties. -/
def propertyNames (ts : List Token) : List String :=
  (ts.filter (·.kind == .property)).map (·.literal.display)

/-- The type of the record is asked for. -/
def MentionsType (ts : List Token) : Prop := ∃ t ∈ ts, t.descriptor.reservedWord = some "TYPE_IS"

instance (ts : List Token) : Decidable (MentionsType ts) :=
  inferInstanceAs (Decidable (∃ t ∈ ts, t.descriptor.reservedWord = some "TYPE_IS"))

/-- Two records do not differ in what a list of tokens mentions. -/
structure Record.AgreeOn (ts : List Token) (r s : Record) : Prop where
  properties : ∀ x ∈ propertyNames ts, r.get x = s.get x
  type : MentionsType ts → r.type? = s.type?

/-- Parameters of one form do not differ in what a list of tokens mentions: a value is the same in
    both, or missing in both. -/
inductive Params.AgreeOn (ts : List Token) : Params → Params → Prop
  /-- No parameters. -/
  | none : AgreeOn ts .none .none
  /-- By position, as many as there are wildcards. -/
  | positional {us vs : List Value} : (∀ i < wildCards ts, us[i]? = vs[i]?) →
    AgreeOn ts (.positional us) (.positional vs)
  /-- By name, those that occur. -/
  | named {us vs : Properties} :
    (∀ x ∈ parameterNames ts, Members.find? us x = Members.find? vs x) →
      AgreeOn ts (.named us) (.named vs)

variable {ts : List Token} {p q : Params} {ctx ctx' : Context}

theorem Params.AgreeOn.wildCard (h : p.AgreeOn ts q) {i : Nat} (hi : i < wildCards ts) :
    p.wildCard i = q.wildCard i := by
  cases h with
  | none => rfl
  | positional hvalues => rw [Params.wildCard, Params.wildCard, hvalues i hi]
  | named => rfl

theorem Params.AgreeOn.parameter (h : p.AgreeOn ts q) {x : String} (hx : x ∈ parameterNames ts) :
    p.parameter x = q.parameter x := by
  cases h with
  | none => rfl
  | positional => rfl
  | named hvalues => rw [Params.parameter, Params.parameter, hvalues x hx]

/-! ### Operators -/

/-- An operator with a literal reads the same in two contexts. -/
structure Operator.ReadsAlike (op : Operator) (literal : Literal) (ctx ctx' : Context) : Prop where
  patterns : ctx.patterns = ctx'.patterns
  property : op = .property → ctx.record.get literal.display = ctx'.record.get literal.display
  type : op = .typeIs → ctx.record.type? = ctx'.record.type?
  wildCard : op = .wildCard → ∀ i, literal = .position i →
    ctx.params.wildCard i = ctx'.params.wildCard i
  parameter : op = .namedParameter →
    ctx.params.parameter literal.display = ctx'.params.parameter literal.display

/-- The operators of the language read nothing else. -/
theorem Operator.apply_of_readsAlike {op : Operator} {literal : Literal}
    (hop : op.isBuiltIn = true) (h : op.ReadsAlike literal ctx ctx') (left right : Option Value) :
    op.apply literal left right ctx = op.apply literal left right ctx' := by
  cases op with
  | extension => cases hop
  | property => simp only [apply, value, h.property rfl, h.patterns]
  | typeIs => simp only [apply, value, typeTest, h.type rfl, h.patterns]
  | namedParameter => simp only [apply, value, h.parameter rfl, h.patterns]
  | wildCard =>
    cases literal with
    | position i => simp only [apply, value, h.wildCard rfl i rfl, h.patterns]
    | _ => simp only [apply, value, h.patterns]
  | _ => simp only [apply, value, h.patterns]

/-! ### Trees -/

open Grammar

/-- Whether an operator reads a property. -/
def Operator.isProperty : Operator → Bool
  | property => true
  | _ => false

theorem Grammar.kind_of_isProperty : ∀ d ∈ standard.entries, ∀ op ∈ d.operator,
    op.isProperty = true → d.kind = .property := by
  decide

namespace Node

variable {tree m : Node} {text : String} {r s : Record}

/-- What a node of a tree reads is mentioned by its token. -/
theorem readsAlike (htree : tree.IsTreeOf (standard.tokenize text)) (hm : m ∈ tree.inorder)
    (hrecord : r.AgreeOn (standard.tokenize text) s)
    (hparams : p.AgreeOn (standard.tokenize text) q) {op : Operator}
    (hop : op ∈ m.descriptor.operator) (patterns : Option PatternCache) :
    op.ReadsAlike m.literal ⟨r, p, patterns⟩ ⟨s, q, patterns⟩ := by
  have hd := descriptor_mem_standard htree hm
  have ht := token_mem_tokenize htree hm
  have hkind := kind_of_parameterKind? _ hd op hop
  refine ⟨rfl, ?_, ?_, ?_, ?_⟩
  · rintro rfl
    have hk : (m.token.kind == .property) = true :=
      beq_iff_eq.2 (kind_of_isProperty _ hd _ hop rfl)
    exact hrecord.properties _ (List.mem_map_of_mem (List.mem_filter.2 ⟨ht, hk⟩))
  · rintro rfl
    exact hrecord.type ⟨m.token, ht, reservedWord_of_word? _ hd _ hop _ rfl⟩
  · rintro rfl i hi
    obtain ⟨j, hj, hposition⟩ := exists_position htree hm (hkind _ rfl)
    obtain rfl := Literal.position.inj (hi.symm.trans hposition)
    exact hparams.wildCard hj
  · rintro rfl
    have hk : (m.token.kind == .parameter) = true := beq_iff_eq.2 (hkind _ rfl)
    exact hparams.parameter (List.mem_map_of_mem (List.mem_filter.2 ⟨ht, hk⟩))

/-- Evaluating a tree has the same outcome in two contexts if its nodes read the same in both. -/
theorem evaluate_of_readsAlike {patterns : Option PatternCache}
    (h : ∀ m ∈ tree.inorder, ∃ op ∈ m.descriptor.operator, op.isBuiltIn = true ∧
      ∀ patterns, op.ReadsAlike m.literal ⟨r, p, patterns⟩ ⟨s, q, patterns⟩) :
    tree.evaluate ⟨r, p, patterns⟩ = tree.evaluate ⟨s, q, patterns⟩ := by
  have hagree : Agree Eq (tree.fold (combine ⟨r, p, patterns⟩) patterns)
      (tree.fold (combine ⟨s, q, patterns⟩) patterns) := by
    refine fold_simulates ?_ rfl
    rintro m hm left right kept _ rfl
    obtain ⟨op, hop, hbuiltIn, hreads⟩ := h m hm
    have happly := Operator.apply_of_readsAlike hbuiltIn (hreads kept) left right
    rw [combine, combine, Option.mem_def.1 hop]
    exact ⟨congrArg Prod.fst happly, congrArg Prod.snd happly⟩
  exact Prod.ext hagree.1 hagree.2

end Node

/-- Whether a record matches a condition, and which error it ends in, depends only on what the
    condition mentions: the properties that it names, the type of the record if it asks for it, as
    many parameters by position as it has wildcards, and the named parameters that occur. -/
theorem test_of_agreeOn {text : String} {clause : Option String} {r s : Record} {p q : Params}
    (hrecord : r.AgreeOn (standard.tokenize text) s)
    (hparams : p.AgreeOn (standard.tokenize text) q) (patterns : Option PatternCache) :
    (Compiled.ofText .standard text clause).test ⟨r, p, patterns⟩ =
      (Compiled.ofText .standard text clause).test ⟨s, q, patterns⟩ := by
  rw [Compiled.test, Compiled.test]
  cases hcompiled : (Compiled.ofText .standard text clause).tree with
  | error e => rfl
  | ok tree =>
    have hevaluate : tree.evaluate ⟨r, p, patterns⟩ = tree.evaluate ⟨s, q, patterns⟩ := by
      refine Node.evaluate_of_readsAlike fun m hm => ?_
      by_cases hne : standard.tokenize text = []
      · obtain rfl := eq_alwaysTrue_of_ofText hcompiled hne
        obtain rfl := List.mem_singleton.1 hm
        refine ⟨.boolean true, rfl, rfl, fun _ => ⟨rfl, ?_, ?_, ?_, ?_⟩⟩ <;>
          · intro hop
            cases hop
      · have htree := isTreeOf_of_ofText hcompiled hne
        obtain ⟨op, hop, hbuiltIn⟩ := Node.exists_operator htree hm
        exact ⟨op, hop, hbuiltIn, Node.readsAlike htree hm hrecord hparams hop⟩
    simp only [Node.holds, hevaluate]

/-- Two records with nothing in common but one property cannot be told apart by a condition that
    names only this property. -/
theorem test_of_agreeOn_name :
    let text := "name = \x7bwanted\x7d"
    let r : Record := ⟨fun x => if x = "name" then .string "a" else .null, .integer 1, some "A"⟩
    let s : Record := ⟨fun _ => .string "a", .integer 2, none⟩
    let p : Params := .named [("wanted", .string "b")]
    let q : Params := .named [("other", .null), ("wanted", .string "b")]
    r.AgreeOn (standard.tokenize text) s ∧ p.AgreeOn (standard.tokenize text) q ∧
      (Compiled.ofText .standard text none).test ⟨r, p, none⟩ =
        (Compiled.ofText .standard text none).test ⟨s, q, none⟩ := by
  intro text r s p q
  let tokens : List Token := [⟨described "record_property", .text "name"⟩,
    ⟨described "equals", .text "="⟩, ⟨described "parameter", .text "wanted"⟩]
  have htokens : standard.tokenize "name = \x7bwanted\x7d" = tokens :=
    (Lexer.ReadsTo.cons rfl (.cons rfl (.cons rfl .nil))).tokens_of_end rfl
  have hproperties : propertyNames tokens = ["name"] := rfl
  have hparameters : parameterNames tokens = ["wanted"] := rfl
  have htype : ¬MentionsType tokens := by decide
  have hrecord : r.AgreeOn (standard.tokenize text) s := by
    rw [htokens]
    refine ⟨fun x hx => ?_, fun hmentions => absurd hmentions htype⟩
    rw [hproperties, List.mem_singleton] at hx
    subst hx
    rfl
  have hparams : p.AgreeOn (standard.tokenize text) q := by
    rw [htokens]
    refine .named fun x hx => ?_
    rw [hparameters, List.mem_singleton] at hx
    subst hx
    rfl
  exact ⟨hrecord, hparams, test_of_agreeOn hrecord hparams none⟩

end RecordQuery
