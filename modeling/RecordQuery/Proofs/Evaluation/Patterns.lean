import RecordQuery.Proofs.Folding
import RecordQuery.Query

/-!
# Keeping patterns

A pattern in a cache is what its text is read as, since only patterns that were read are kept. So it
makes no difference to a condition which patterns are kept, or whether any are: values and errors are
the same (`Node.evaluate_agree`), as long as the operators that a caller adds do not look at the
cache themselves.

* `PatternCache.IsSound`: every pattern kept is that of its text.
* `Operator.IgnoresPatterns`: an operator does not look at the cache.
* `Compiled.test_agree`: whether a record matches does not depend on the cache.
-/

namespace RecordQuery

variable {s t : Option PatternCache} {text : String} {pattern : Pattern}

/-! ### Caches -/

/-- Every pattern kept is what its text is read as. -/
def PatternCache.IsSound (cache : PatternCache) : Prop :=
  ∀ text pattern, cache.find? text = some pattern → readPattern text = .ok pattern

/-- The patterns kept, if any are, are what their texts are read as. -/
def AreSound (patterns : Option PatternCache) : Prop := ∀ cache ∈ patterns, cache.IsSound

theorem areSound_none : AreSound none := by simp [AreSound]

theorem areSound_empty : AreSound (some {}) := by
  rintro _ ⟨⟩ text pattern h
  cases h

namespace PatternCache

/-- A cache stays sound when a pattern that was read is kept. -/
theorem IsSound.insert {cache : PatternCache} (h : cache.IsSound)
    (hread : readPattern text = .ok pattern) : (cache.insert text pattern).IsSound := by
  intro text' pattern' hfind
  rw [find?, PatternCache.insert, List.lookup_cons] at hfind
  split at hfind
  · rename_i heq
    cases hfind
    rwa [beq_iff_eq.1 heq]
  · exact h text' pattern' hfind

/-- Looking a pattern up gives what its text is read as. -/
theorem resolve_eq_readPattern (h : AreSound s) (text : String) :
    (resolve s text).1 = readPattern text ∧ AreSound (resolve s text).2 := by
  cases s with
  | none => exact ⟨rfl, h⟩
  | some cache =>
    have hsound := h cache rfl
    rw [resolve]
    cases hfind : cache.find? text with
    | some pattern => exact ⟨(hsound text pattern hfind).symm, h⟩
    | none =>
      cases hread : readPattern text with
      | error e => exact ⟨rfl, h⟩
      | ok pattern =>
        refine ⟨rfl, ?_⟩
        rintro _ ⟨⟩
        exact hsound.insert hread

/-- A text that can be read is not refused, whatever is kept. -/
theorem exists_resolve_eq_ok (h : ∃ pattern, readPattern text = .ok pattern)
    (patterns : Option PatternCache) : ∃ pattern, (resolve patterns text).1 = .ok pattern := by
  obtain ⟨pattern, hread⟩ := h
  cases patterns with
  | none => exact ⟨pattern, hread⟩
  | some cache =>
    rw [resolve, hread]
    cases cache.find? text with
    | none => exact ⟨pattern, rfl⟩
    | some kept => exact ⟨kept, rfl⟩

end PatternCache

/-! ### Evaluation -/

/-- An operator does not look at the patterns kept. -/
def Operator.IgnoresPatterns : Operator → Prop
  | extension meaning => ∀ operands ctx patterns,
      meaning operands { ctx with patterns := patterns } = meaning operands ctx
  | _ => True

/-- No operator of a tree looks at the patterns kept. -/
def Node.IgnoresPatterns (n : Node) : Prop :=
  ∀ m ∈ n.inorder, ∀ op ∈ m.descriptor.operator, op.IgnoresPatterns

/-- Both caches are sound. -/
def BothSound (s t : Option PatternCache) : Prop := AreSound s ∧ AreSound t

/-- Matching gives the same with both caches. -/
theorem Operator.matchPattern_agree (h : BothSound s t) (l r : Value) :
    Node.Agree BothSound (matchPattern s l r) (matchPattern t l r) := by
  unfold matchPattern
  split
  · rename_i subject text
    obtain ⟨hs, hs'⟩ := PatternCache.resolve_eq_readPattern h.1 text
    obtain ⟨ht, ht'⟩ := PatternCache.resolve_eq_readPattern h.2 text
    exact ⟨by simp only [hs, ht], hs', ht'⟩
  · exact ⟨rfl, h⟩

/-- So does every operator that does not look at the patterns kept. -/
theorem Operator.apply_agree {op : Operator} (hop : op.IgnoresPatterns) (h : BothSound s t)
    (literal : Literal) (left right : Option Value) (ctx : Context) :
    Node.Agree BothSound (op.apply literal left right { ctx with patterns := s })
      (op.apply literal left right { ctx with patterns := t }) := by
  cases op with
  | matchesPattern => exact matchPattern_agree h _ _
  | extension meaning => exact ⟨(hop _ ctx s).trans (hop _ ctx t).symm, h⟩
  | _ => exact ⟨rfl, h⟩

namespace Node

variable {n : Node}

/-- The patterns kept do not affect the value of a tree, and stay sound. -/
theorem evaluate_agree (hn : n.IgnoresPatterns) (h : BothSound s t) (ctx : Context) :
    Agree BothSound (n.evaluate { ctx with patterns := s })
      (n.evaluate { ctx with patterns := t }) := by
  refine fold_simulates (fun m hm left right s t h => ?_) h
  rw [combine, combine]
  cases hop : m.descriptor.operator with
  | none => exact ⟨rfl, h⟩
  | some op => exact Operator.apply_agree (hn m hm op hop) h m.literal left right ctx

/-- The patterns kept do not affect whether a condition holds, and stay sound. -/
theorem holds_agree (hn : n.IgnoresPatterns) (h : BothSound s t) (ctx : Context) :
    Agree BothSound (n.holds { ctx with patterns := s }) (n.holds { ctx with patterns := t }) := by
  obtain ⟨hvalue, hsound⟩ := evaluate_agree hn h ctx
  exact ⟨by simp only [holds, hvalue], hsound⟩

end Node

/-! ### Queries -/

/-- No operator of the condition looks at the patterns kept. -/
def Compiled.IgnoresPatterns (c : Compiled) : Prop :=
  ∀ tree, c.tree = .ok tree → tree.IgnoresPatterns

/-- The patterns kept do not affect whether a record matches, and stay sound. -/
theorem Compiled.test_agree {c : Compiled} (hc : c.IgnoresPatterns) (h : BothSound s t)
    (ctx : Context) :
    Node.Agree BothSound (c.test { ctx with patterns := s }) (c.test { ctx with patterns := t }) := by
  rw [test, test]
  cases htree : c.tree with
  | error e => exact ⟨rfl, h⟩
  | ok tree => exact Node.holds_agree (hc tree htree) h ctx

end RecordQuery
