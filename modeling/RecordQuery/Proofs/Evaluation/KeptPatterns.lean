import Mathlib.Data.List.Dedup
import Mathlib.Data.List.Perm.Basic
import RecordQuery.Proofs.Evaluation.Errors
import RecordQuery.Proofs.Evaluation.Patterns

/-!
# Which patterns are kept

An evaluation adds to a cache the patterns that it applies and nothing else: the texts on the right of
`MATCHES`, of the nodes that are reached and have strings on both sides, as far as they are patterns.
What is reached does not depend on the cache, so this can be said of the evaluation that keeps
nothing; it is compared with the one that keeps patterns call by call (`Node.fold_simulates`).

* `Node.calls`, `Node.textsApplied`: what an evaluation calls, and the texts that it applies.
* `PatternCache.Gains`: a cache has gained the patterns among some texts.
* `PatternCache.Gains.resolve`, `Node.combine_gains`: one text, one node.
* `patterns_gained`: one evaluation, and several that share a cache.
-/

namespace RecordQuery

/-- Whether a text is a pattern. -/
def isPattern (text : String) : Bool := (readPattern text).isOk

/-- The texts whose patterns are kept. -/
def PatternCache.texts (cache : PatternCache) : List String := cache.entries.map (·.1)

/-- A cache holds what it held at the start and the patterns among some texts. -/
structure PatternCache.Gains (start : PatternCache) (applied : List String)
    (cache : PatternCache) : Prop where
  /-- Every pattern kept is that of its text. -/
  sound : cache.IsSound
  /-- No text is kept twice. -/
  nodup : start.texts.Nodup → cache.texts.Nodup
  /-- Nothing was dropped, and nothing but the patterns applied was added. -/
  texts : ∀ text, text ∈ cache.texts ↔
    text ∈ start.texts ∨ text ∈ applied ∧ isPattern text = true

namespace PatternCache

variable {start cache middle : PatternCache} {applied later : List String} {text : String}

theorem mem_texts_iff : text ∈ cache.texts ↔ ∃ pattern, cache.find? text = some pattern := by
  rw [texts, find?, ← Option.isSome_iff_exists, List.lookup_eq_findSome?]
  simp [List.findSome?_isSome_iff]

theorem Gains.refl (h : cache.IsSound) : Gains cache [] cache where
  sound := h
  nodup := id
  texts := by simp

theorem Gains.trans (h : Gains start applied middle) (h' : Gains middle later cache) :
    Gains start (applied ++ later) cache where
  sound := h'.sound
  nodup hstart := h'.nodup (h.nodup hstart)
  texts text := by
    rw [h'.texts, h.texts, List.mem_append, or_and_right, or_assoc]

/-- Looking a text up gains its pattern, if it is one. -/
theorem gains_resolve (h : cache.IsSound) (text : String) :
    ∃ after, resolve (some cache) text = (readPattern text, some after) ∧
      Gains cache [text] after := by
  rw [resolve]
  cases hfind : cache.find? text with
  | some pattern =>
    have htext : text ∈ cache.texts := mem_texts_iff.2 ⟨pattern, hfind⟩
    refine ⟨cache, by simp only [h text pattern hfind], h, id, fun other => ?_⟩
    rw [List.mem_singleton]
    exact ⟨.inl, fun hother => hother.elim id fun hnew => hnew.1 ▸ htext⟩
  | none =>
    have htext : text ∉ cache.texts := fun hmem => by
      obtain ⟨pattern, hsome⟩ := mem_texts_iff.1 hmem
      rw [hfind] at hsome
      cases hsome
    cases hread : readPattern text with
    | error e =>
      -- A text that is no pattern is not kept.
      refine ⟨cache, rfl, h, id, fun other => ?_⟩
      rw [List.mem_singleton]
      refine ⟨.inl, fun hother => hother.elim id ?_⟩
      rintro ⟨rfl, hpattern⟩
      rw [isPattern, hread] at hpattern
      cases hpattern
    | ok pattern =>
      refine ⟨cache.insert text pattern, rfl, h.insert hread, fun hnodup => ?_, fun other => ?_⟩
      · exact List.nodup_cons.2 ⟨htext, hnodup⟩
      · have hpattern : isPattern text = true := by
          rw [isPattern, hread]
          rfl
        show other ∈ text :: cache.texts ↔ _
        rw [List.mem_cons, List.mem_singleton, or_comm]
        refine or_congr_right ⟨fun heq => ⟨heq, heq ▸ hpattern⟩, And.left⟩

/-- A cache whose texts were distinct has as many patterns as there are distinct ones among those it
    started with and those applied. -/
theorem Gains.size_eq (h : Gains start applied cache) (hstart : start.texts.Nodup) :
    cache.size = (start.texts ++ applied.filter isPattern).dedup.length := by
  have hperm : cache.texts.Perm (start.texts ++ applied.filter isPattern).dedup := by
    refine (List.perm_ext_iff_of_nodup (h.nodup hstart) (List.nodup_dedup _)).2 fun text => ?_
    rw [h.texts, List.mem_dedup, List.mem_append, List.mem_filter]
  rw [← hperm.length_eq, PatternCache.texts, List.length_map]
  rfl

end PatternCache

/-! ### One node -/

/-- The text that is applied as a pattern to what is on its left, if both are strings. -/
def Operator.textMatched? (l r : Value) : Option String :=
  match l, r with
  | .string _, .string text => some text
  | _, _ => none

/-- The text that a call applies as a pattern. -/
def Node.Call.text? {σ : Type} (c : Call Value σ) : Option String :=
  match c.node.descriptor.operator with
  | some .matchesPattern => Operator.textMatched? (c.left.getD .null) (c.right.getD .null)
  | _ => none

namespace Operator

variable {op : Operator} {cache : PatternCache}

/-- The operators of the language do not look at the cache, except through the patterns kept. -/
theorem ignoresPatterns_of_isBuiltIn (h : op.isBuiltIn = true) : op.IgnoresPatterns := by
  cases op with
  | extension => cases h
  | _ => trivial

/-- Only matching looks at the cache. -/
theorem apply_of_ignoresPatterns (hop : op.IgnoresPatterns) (h : op ≠ .matchesPattern)
    (literal : Literal) (left right : Option Value) (ctx : Context)
    (patterns : Option PatternCache) :
    op.apply literal left right { ctx with patterns := patterns } =
      (op.value literal left right ctx, patterns) := by
  cases op with
  | matchesPattern => exact absurd rfl h
  | extension meaning => exact congrArg (·, patterns) (hop _ ctx patterns)
  | _ => rfl

/-- Matching has the value that it has without a cache, and the cache gains what is matched. -/
theorem matchPattern_gains (h : cache.IsSound) (l r : Value) :
    ∃ after, matchPattern (some cache) l r = ((matchPattern none l r).1, some after) ∧
      cache.Gains (textMatched? l r).toList after := by
  unfold textMatched?
  split
  · rename_i subject text
    obtain ⟨after, hresolve, hgains⟩ := PatternCache.gains_resolve h text
    refine ⟨after, ?_, hgains⟩
    simp only [matchPattern, hresolve]
    rfl
  · rename_i hstrings
    refine ⟨cache, ?_, .refl h⟩
    unfold matchPattern
    split
    · exact absurd rfl (hstrings _ _ rfl)
    · rfl

end Operator

/-! ### Whole trees -/

namespace Node

variable {n m : Node} {ctx : Context} {start cache : PatternCache}

/-- A tree of operators of the language leaves the cache to `MATCHES`. -/
theorem ignoresPatterns_of_isBuiltIn
    (h : ∀ m ∈ n.inorder, ∀ op ∈ m.descriptor.operator, op.isBuiltIn = true) :
    n.IgnoresPatterns :=
  fun m hm op hop => Operator.ignoresPatterns_of_isBuiltIn (h m hm op hop)

/-- A node has the value that it has without a cache, and the cache gains what the node matches. -/
theorem combine_gains (hm : ∀ op ∈ m.descriptor.operator, op.IgnoresPatterns)
    (h : cache.IsSound) (ctx : Context) (left right : Option Value) :
    (combine ctx m left right none).2 = none ∧
      ∃ after, combine ctx m left right (some cache) =
          ((combine ctx m left right none).1, some after) ∧
        cache.Gains (Call.text? ⟨m, left, right, (none : Option PatternCache)⟩).toList after := by
  simp only [combine, Call.text?]
  cases hop : m.descriptor.operator with
  | none => exact ⟨rfl, cache, rfl, .refl h⟩
  | some op =>
    by_cases hmatches : op = .matchesPattern
    · subst hmatches
      refine ⟨?_, Operator.matchPattern_gains h _ _⟩
      show (Operator.matchPattern none _ _).2 = none
      unfold Operator.matchPattern
      split <;> rfl
    · have hvalue (patterns : Option PatternCache) :
          op.apply m.literal left right { ctx with patterns := patterns } =
            (op.value m.literal left right ctx, patterns) :=
        Operator.apply_of_ignoresPatterns (hm op hop) hmatches ..
      simp only [hvalue]
      refine ⟨trivial, cache, rfl, ?_⟩
      split
      · rename_i heq
        exact absurd (Option.some.inj heq) hmatches
      · exact .refl h

/-- The calls that evaluating a tree makes when no patterns are kept. -/
def calls (n : Node) (ctx : Context) : List (Call Value (Option PatternCache)) :=
  (n.fold (recording (combine ctx)) (none, [])).2.2

/-- The texts that evaluating a tree applies as patterns. -/
def textsApplied (n : Node) (ctx : Context) : List String :=
  (n.calls ctx).filterMap Call.text?

/-- The value of a tree when no patterns are kept. -/
def plainValue (n : Node) (ctx : Context) : Except EvalError Value :=
  (n.evaluate { ctx with patterns := none }).1

/-- Recording calls does not change the value. The calls are made for the nodes in their order, up to
    the first that fails. -/
theorem fold_recording_eq (n : Node) (ctx : Context) :
    (n.fold (recording (combine ctx)) (none, [])).1 = n.plainValue ctx ∧
      Follows (combine ctx) n.postorder (n.calls ctx) (n.plainValue ctx) := by
  obtain ⟨-, ⟨calls, hcalls, hfollows⟩, -⟩ :=
    fold_eq_recurse_in_postorder (combine ctx) n (none : Option PatternCache)
  rw [Node.calls, hcalls]
  exact ⟨rfl, hfollows⟩

/-- A cache has gained the patterns among the texts that the calls recorded applied. -/
def GainsFrom (start : PatternCache) (patterns : Option PatternCache)
    (recorded : Option PatternCache × List (Call Value (Option PatternCache))) : Prop :=
  recorded.1 = none ∧
    ∃ cache, patterns = some cache ∧ start.Gains (recorded.2.filterMap Call.text?) cache

theorem filterMap_text?_concat {σ : Type} (calls : List (Call Value σ)) (c : Call Value σ) :
    (calls ++ [c]).filterMap Call.text? = calls.filterMap Call.text? ++ c.text?.toList := by
  rw [List.filterMap_append, List.filterMap_cons]
  cases c.text? <;> rfl

/-- An evaluation has the value that it has without a cache, and the cache gains what it applies. -/
theorem evaluate_gains (hn : n.IgnoresPatterns) (h : cache.IsSound) (ctx : Context) :
    ∃ after, n.evaluate { ctx with patterns := some cache } = (n.plainValue ctx, some after) ∧
      cache.Gains (n.textsApplied ctx) after := by
  -- The evaluation that keeps patterns and the one that records calls take the same steps.
  have hcalls : Agree (GainsFrom cache) (n.fold (combine ctx) (some cache))
      (n.fold (recording (combine ctx)) (none, [])) := by
    refine fold_simulates ?_ ⟨rfl, cache, rfl, .refl h⟩
    rintro m hm left right patterns ⟨recorded, calls⟩ ⟨hnone, before, rfl, hbefore⟩
    obtain rfl : recorded = none := hnone
    obtain ⟨hnone, after, hafter, hgains⟩ := combine_gains (hn m hm) hbefore.sound ctx left right
    rw [hafter]
    refine ⟨rfl, hnone, after, rfl, ?_⟩
    exact filterMap_text?_concat calls _ ▸ hbefore.trans hgains
  obtain ⟨hvalue, -, after, hafter, hgains⟩ := hcalls
  refine ⟨after, Prod.ext ?_ hafter, hgains⟩
  exact hvalue.trans (n.fold_recording_eq ctx).1

/-! ### Several trees -/

/-- Evaluates several trees, which keep their patterns in one cache. -/
def evaluateAll (cache : PatternCache) :
    List (Node × Context) → List (Except EvalError Value) × PatternCache
  | [] => ([], cache)
  | (n, ctx) :: rest =>
    let (value, after) := n.evaluate { ctx with patterns := some cache }
    let (values, last) := evaluateAll (after.getD {}) rest
    (value :: values, last)

/-- Each evaluation has the value that it has on its own, and together they gain what they apply. -/
theorem evaluateAll_gains {evaluations : List (Node × Context)}
    (hn : ∀ e ∈ evaluations, e.1.IgnoresPatterns) (h : cache.IsSound) :
    ∃ after, evaluateAll cache evaluations =
        (evaluations.map fun (n, ctx) => n.plainValue ctx, after) ∧
      cache.Gains (evaluations.flatMap fun (n, ctx) => n.textsApplied ctx) after := by
  induction evaluations generalizing cache with
  | nil => exact ⟨cache, rfl, .refl h⟩
  | cons e rest ih =>
    obtain ⟨n, ctx⟩ := e
    obtain ⟨hfirst, hrest⟩ := List.forall_mem_cons.1 hn
    obtain ⟨middle, hevaluate, hgains⟩ := evaluate_gains hfirst h ctx
    -- The later evaluations start with what the first one kept.
    obtain ⟨after, hall, hgains'⟩ := ih hrest hgains.sound
    refine ⟨after, ?_, hgains.trans hgains'⟩
    rw [evaluateAll, hevaluate]
    simp only [Option.getD_some, hall, List.map_cons]

end Node

/-- A cache whose patterns are those of their texts makes no difference to an evaluation, and is such
    a cache afterwards. It has kept its texts and gained exactly those that were applied by the nodes
    reached, up to the first that failed, and that are patterns. So when several evaluations share
    a cache, it holds as many patterns as there are distinct ones among those that were in it and
    those that were applied. -/
theorem patterns_gained {cache : PatternCache} (hcache : cache.IsSound) :
    (∀ (n : Node) (ctx : Context), n.IgnoresPatterns →
      ∃ after, n.evaluate { ctx with patterns := some cache } =
          ((n.evaluate { ctx with patterns := none }).1, some after) ∧ after.IsSound ∧
        Node.Follows (Node.combine ctx) n.postorder (n.calls ctx)
          (n.evaluate { ctx with patterns := none }).1 ∧
        ∀ text, text ∈ after.texts ↔ text ∈ cache.texts ∨
          text ∈ (n.calls ctx).filterMap Node.Call.text? ∧ isPattern text = true) ∧
    ∀ evaluations : List (Node × Context), (∀ e ∈ evaluations, e.1.IgnoresPatterns) →
      cache.texts.Nodup →
        ∃ after, Node.evaluateAll cache evaluations =
            (evaluations.map fun (n, ctx) => (n.evaluate { ctx with patterns := none }).1, after) ∧
          after.IsSound ∧ after.texts.Nodup ∧
          after.size = (cache.texts ++ (evaluations.flatMap fun (n, ctx) =>
            n.textsApplied ctx).filter isPattern).dedup.length := by
  constructor
  · intro n ctx hn
    obtain ⟨after, hevaluate, hgains⟩ := n.evaluate_gains hn hcache ctx
    exact ⟨after, hevaluate, hgains.sound, (n.fold_recording_eq ctx).2, hgains.texts⟩
  · intro evaluations hn hnodup
    obtain ⟨after, hall, hgains⟩ := Node.evaluateAll_gains hn hcache
    exact ⟨after, hall, hgains.sound, hgains.nodup hnodup, hgains.size_eq hnodup⟩

/-- The conjunction of three matches fails at the second, whose text is no pattern. However often it
    is evaluated, only the pattern of the first is kept. -/
theorem patterns_gained_up_to_failure :
    let token (op : Operator) (text : String) : Token :=
      ⟨{ kind := .string, operator := some op }, .text text⟩
    let leaf (text : String) : Node := .ofToken (token .literal text)
    let matching (text : String) : Node :=
      ⟨token .matchesPattern "MATCHES", some (leaf "abc"), some (leaf text)⟩
    let both (l r : Node) : Node := ⟨token .and "AND", some l, some r⟩
    let n := both (both (matching "b") (matching "(")) (matching "c")
    PatternCache.IsSound {} ∧ n.IgnoresPatterns ∧
      ∀ ctx, ∃ after : PatternCache, Node.evaluateAll {} [(n, ctx), (n, ctx)] =
        ([.error (.invalidPattern "("), .error (.invalidPattern "(")], after) ∧ after.size = 1 := by
  intro token leaf matching both n
  have hsound : PatternCache.IsSound {} := areSound_empty _ rfl
  have hn : n.IgnoresPatterns := Node.ignoresPatterns_of_isBuiltIn (by
    intro m hm op hop
    have hm : m ∈ [leaf "abc", matching "b", leaf "b", both (matching "b") (matching "("),
      leaf "abc", matching "(", leaf "(", n, leaf "abc", matching "c", leaf "c"] := hm
    simp only [List.mem_cons, List.not_mem_nil, or_false] at hm
    rcases hm with rfl | rfl | rfl | rfl | rfl | rfl | rfl | rfl | rfl | rfl | rfl <;>
      · cases hop
        rfl)
  refine ⟨hsound, hn, fun ctx => ?_⟩
  have hvalue : (n.evaluate { ctx with patterns := none }).1 = .error (.invalidPattern "(") := by
    simp only [Node.evaluate, Node.fold_eq_recurse, Node.recurse_eq]
    rfl
  have htexts : n.textsApplied ctx = ["b", "("] := by
    simp only [Node.textsApplied, Node.calls, Node.fold_eq_recurse, Node.recurse_eq]
    rfl
  obtain ⟨after, hall, -, -, hsize⟩ := (patterns_gained hsound).2 [(n, ctx), (n, ctx)]
    (by simpa using hn) List.nodup_nil
  refine ⟨after, ?_, ?_⟩
  · rw [hall]
    simp only [List.map_cons, List.map_nil, hvalue]
  · rw [hsize]
    simp only [List.flatMap_cons, List.flatMap_nil, htexts]
    rfl

end RecordQuery
