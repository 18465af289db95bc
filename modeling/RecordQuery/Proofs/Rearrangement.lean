import RecordQuery.Proofs.Batch
import RecordQuery.Proofs.Lexing.Concatenation

/-!
# Candidates in another order

A collection may list its records in any order, and this is not seen in an ordered batch: if no two
records that match are equal in its order, the result is the same
(`Query.filterAndSort_rearranged`). Whether the batch fails does not depend on the order of the
candidates either, but where it fails first does.

An operator that a caller added may look at the patterns kept, and so learn whether there were
candidates before. With such an operator the keys found may depend on the order
(`Query.filterAndSort_counting`).

* `Query.Rearranges`: the same keys, given or listed in another order.
* `Query.filterAndSort_fails_iff`: a batch fails if the condition does so somewhere.
-/

namespace RecordQuery

variable {κ : Type}

namespace Query

/-! ### Candidates -/

/-- The same keys in another order: either those that are given, or those that the collection lists
    if none are. -/
inductive Rearranges : Option (List κ) → Source κ → Option (List κ) → Source κ → Prop
  /-- Keys that are given. -/
  | given {keys keys' : List κ} {source : Source κ} : keys.Perm keys' →
    Rearranges (some keys) source (some keys') source
  /-- The keys of a collection. -/
  | listed {source source' : Source κ} : source.find? = source'.find? →
    source.keys.Perm source'.keys → Rearranges none source none source'

variable {q : Query} {env : Environment} {keys? keys'? : Option (List κ)}
  {source source' : Source κ} {params : Params}

theorem candidates_perm (h : Rearranges keys? source keys'? source') :
    (q.candidates keys? source).Perm (q.candidates keys'? source') := by
  cases h with
  | given hkeys => exact hkeys.filterMap _
  | listed hfind hkeys =>
    rw [candidates, candidates, hfind]
    exact (hkeys.filterMap _).filter _

/-! ### Batches -/

/-- A batch fails if the condition does so on some candidate, wherever it stands. -/
theorem filterAndSort_fails_iff (hq : (q.compiledIn env).IgnoresPatterns) :
    (∃ e, q.filterAndSort env keys? source params = .error e) ↔
      ∃ item ∈ q.candidates keys? source, ∃ e,
        (q.compiledIn env).holdsOn params item.2 = .error e := by
  have hfailure : ((q.compiledIn env).firstFailure? params (q.candidates keys? source)).isSome ↔
      ∃ item ∈ q.candidates keys? source, ∃ e,
        (q.compiledIn env).holdsOn params item.2 = .error e := by
    rw [Compiled.firstFailure?, List.findSome?_isSome_iff]
    simp only [Option.isSome_iff_exists, Compiled.failure?_eq_some_iff]
  rw [← hfailure, filterAndSort_eq hq]
  cases (q.compiledIn env).firstFailure? params (q.candidates keys? source) <;> simp

/-- The order of the candidates does not matter to an ordered batch whose condition does not look at
    the patterns kept. If the condition fails on none of them, the order of the clause is a preorder
    on those that match, and no two different ones among these are equal in it, then the keys found
    are the same. If the batch fails, then it does so in either order. -/
theorem filterAndSort_rearranged (hq : (q.compiledIn env).IgnoresPatterns)
    (h : Rearranges keys? source keys'? source') (params : Params) :
    let c := q.compiledIn env
    let candidates := q.candidates keys? source
    let kept := candidates.filter fun item => c.accepts params item.2
    (c.entries ≠ [] → (∀ item ∈ candidates, ∃ holds, c.holdsOn params item.2 = .ok holds) →
      IsPreorderOn (c.order env.comparisons) (kept.map (·.2)) →
      (∀ a ∈ kept, ∀ b ∈ kept, c.order env.comparisons a.2 b.2 = .eq → a = b) →
      ∃ result, q.filterAndSort env keys? source params = .ok result ∧
        q.filterAndSort env keys'? source' params = .ok result) ∧
    ((∃ e, q.filterAndSort env keys? source params = .error e) ↔
      ∃ e, q.filterAndSort env keys'? source' params = .error e) := by
  intro c candidates kept
  have hcandidates : candidates.Perm (q.candidates keys'? source') := candidates_perm h
  constructor
  · intro hentries hall horder hties
    have hkept : kept.Perm (c.kept params (q.candidates keys'? source')) := hcandidates.filter _
    have horder : IsPreorderOn (c.orderItems env.comparisons) kept := horder.map
    have hsorted := IsStableSort.eq_of_perm horder hties
      (Compiled.isStableSort_sort hentries horder)
      (Compiled.isStableSort_sort hentries (horder.of_perm hkept)) hkept
    have hall' : ∀ item ∈ q.candidates keys'? source', ∃ holds,
        c.holdsOn params item.2 = .ok holds :=
      fun item hitem => hall item (hcandidates.mem_iff.2 hitem)
    refine ⟨(c.sort (c.orderItems env.comparisons) kept).map (·.1), ?_, ?_⟩
    · rw [filterAndSort_eq hq, Compiled.firstFailure?_eq_none hall]
      rfl
    · rw [filterAndSort_eq hq, Compiled.firstFailure?_eq_none hall', hsorted]
  · rw [filterAndSort_fails_iff hq, filterAndSort_fails_iff hq]
    simp only [hcandidates.mem_iff, candidates]

/-- The query `n` with the clause `n` finds the same keys in three records, two of which match,
    whichever is listed first. -/
theorem filterAndSort_rearranged_three :
    let n : Token :=
      ⟨{ kind := .property, result := some .primitive, operator := some .property }, .text "n"⟩
    let c : Compiled := ⟨.ok (.ofToken n), [⟨"n", false⟩]⟩
    let q : Query := { conditions := "n", clause := some "n", compiled := some c }
    let record (value : Int64) : Record :=
      { get := fun _ => .integer value, id := .integer value, type? := none }
    let source := Source.ofArray #[record 2, record 1, record 0]
    let other := { source with keys := [2, 1, 0] }
    let kept := [(0, record 2), (1, record 1)]
    c.IgnoresPatterns ∧ Rearranges none source none other ∧ c.entries ≠ [] ∧
      (∀ item ∈ q.candidates none source, ∃ holds, c.holdsOn .none item.2 = .ok holds) ∧
      (q.candidates none source).filter (fun item => c.accepts .none item.2) = kept ∧
      IsPreorderOn (c.order {}) (kept.map (·.2)) ∧
      (∀ a ∈ kept, ∀ b ∈ kept, c.order {} a.2 b.2 = .eq → a = b) ∧
      q.filterAndSort {} none source .none = .ok [1, 0] ∧
      q.filterAndSort {} none other .none = .ok [1, 0] := by
  intro n c q record source other kept
  have hignores : c.IgnoresPatterns := by
    rintro _ ⟨⟩ m hm op hop
    rw [Node.inorder_ofToken, List.mem_singleton] at hm
    subst hm
    cases hop
    trivial
  have hrearranges : Rearranges none source none other := .listed rfl (by decide)
  have hholds (record : Record) : c.holdsOn .none record = .ok (record.get "n").isTruthy := by
    rw [Compiled.holdsOn]
    simp only [Compiled.test, c, Node.holds, Node.evaluate, Node.fold_eq_recurse, Node.recurse_eq]
    rfl
  have hall : ∀ item ∈ q.candidates none source, ∃ holds, c.holdsOn .none item.2 = .ok holds :=
    fun item _ => ⟨_, hholds item.2⟩
  have hkept : (q.candidates none source).filter (fun item => c.accepts .none item.2) = kept := by
    simp only [Compiled.accepts, hholds]
    rfl
  have horder : IsPreorderOn (c.order {}) (kept.map (·.2)) :=
    .pair (by decide) (by decide) (by decide)
  have hties : ∀ a ∈ kept, ∀ b ∈ kept, c.order {} a.2 b.2 = .eq → a = b := by
    intro a ha b hb
    simp only [kept, List.mem_cons, List.not_mem_nil, or_false] at ha hb
    rcases ha with rfl | rfl <;> rcases hb with rfl | rfl <;>
      first | exact fun _ => rfl | exact fun h => absurd h (by decide)
  have hne : c.entries ≠ [] := List.cons_ne_nil _ _
  have hfound : q.filterAndSort {} none source .none = .ok [1, 0] := by
    rw [@filterAndSort_eq _ q {} hignores, show q.compiledIn {} = c from rfl,
      Compiled.firstFailure?_eq_none hall, Compiled.kept, hkept]
    rfl
  obtain ⟨hsame, -⟩ :=
    @filterAndSort_rearranged _ q {} none none source other hignores hrearranges .none
  rw [show q.compiledIn {} = c from rfl, hkept] at hsame
  obtain ⟨result, hresult, hother⟩ := hsame hne hall horder hties
  obtain rfl : result = [1, 0] := Except.ok.inj (hresult.symm.trans hfound)
  exact ⟨hignores, hrearranges, hne, hall, hkept, horder, hties, hfound, hother⟩

/-- An operator that counts the patterns kept is true for all candidates but the first, since that
    is when the pattern beside it is read. So the key that a batch leaves out is the one that it is
    given first, although the condition fails on no record, whichever patterns are kept, and the
    order is a preorder in which the records are not equal. -/
theorem filterAndSort_counting :
    let count : Extension := fun _ ctx => .ok (.ofInt (ctx.patterns.elim 0 (·.size)))
    let g := Grammar.standard.register "cached" (.comparator "CACHED" (.extension count))
    let q : Query :=
      { conditions := "name CACHED name AND name MATCHES 'a'", clause := some "name"
        grammar := some g }
    let record (name : String) : Record :=
      { get := fun _ => .string name, id := .string name, type? := none }
    let source := Source.ofArray #[record "a", record "ab"]
    let c := q.compiledIn {}
    [0, 1].Perm [1, 0] ∧ q.candidates (some [0, 1]) source = [(0, record "a"), (1, record "ab")] ∧
      c.entries ≠ [] ∧
      (∀ patterns, ∀ r ∈ [record "a", record "ab"],
        ∃ holds, (c.test { record := r, patterns := patterns }).1 = .ok holds) ∧
      IsPreorderOn (c.order {}) [record "a", record "ab"] ∧
      c.order {} (record "a") (record "ab") ≠ .eq ∧
      q.filterAndSort {} (some [0, 1]) source .none = .ok [1] ∧
      q.filterAndSort {} (some [1, 0]) source .none = .ok [0] := by
  intro count g q record source c
  let name : Token := ⟨Grammar.described "record_property", .text "name"⟩
  let cached : Token :=
    ⟨{ Descriptor.comparator "CACHED" (.extension count) with id := "cached" }, .text "CACHED"⟩
  let both : Token := ⟨Grammar.described "and", .text "AND"⟩
  let matching : Token := ⟨Grammar.described "matches", .text "MATCHES"⟩
  let pattern : Token := ⟨Grammar.described "string", .text "a"⟩
  let tree : Node := ⟨both, some ⟨cached, some (.ofToken name), some (.ofToken name)⟩,
    some ⟨matching, some (.ofToken name), some (.ofToken pattern)⟩⟩
  have htokens : g.tokenize "name CACHED name AND name MATCHES 'a'" =
      [name, cached, name, both, name, matching, pattern] :=
    (Lexer.ReadsTo.cons rfl (.cons rfl (.cons rfl (.cons rfl (.cons rfl (.cons rfl
      (.cons rfl .nil))))))).tokens_of_end rfl
  have hcondition : Condition [name, cached, name, both, name, matching, pattern] tree :=
    .chain (.connection
      (.clause (.comparison (.leaf ⟨rfl, rfl, rfl, rfl⟩) ⟨rfl, rfl, rfl, rfl⟩
        (.leaf ⟨rfl, rfl, rfl, rfl⟩))) ⟨rfl, rfl, rfl, rfl⟩
      (.comparison (.leaf ⟨rfl, rfl, rfl, rfl⟩) ⟨rfl, rfl, rfl, rfl⟩
        (.leaf ⟨rfl, rfl, rfl, rfl⟩)))
  have htree : c.tree = .ok tree := by
    rw [show c.tree = buildTree (g.tokenize q.conditions) from rfl, htokens]
    exact hcondition.buildTree_eq (by decide)
  have htest (s : String) (patterns : Option PatternCache) :
      c.test { record := record s, patterns := patterns } =
        ((PatternCache.resolve patterns "a").1.map fun p =>
          (Value.ofInt (patterns.elim 0 (·.size))).isTruthy && p.isMatch s.toList,
          (PatternCache.resolve patterns "a").2) := by
    rw [Compiled.test, htree]
    simp only [Node.holds, Node.evaluate, Node.fold_eq_recurse, Node.recurse_eq]
    let combine := Node.combine { record := record s, patterns := patterns }
    have hleft : Node.recurse? combine tree.left patterns =
        (.ok (some (.ofInt (patterns.elim 0 (·.size)))), patterns) := rfl
    have hright : Node.recurse? combine tree.right patterns =
        andThen (Operator.matchPattern patterns (.string s) (.string "a"))
          fun value state => (.ok (some value), state) := rfl
    rw [hleft, andThen_ok, hright, Operator.matchPattern]
    rcases PatternCache.resolve patterns "a" with ⟨_ | p, after⟩ <;> rfl
  have hentries : c.entries = [⟨"name", false⟩] := by decide
  have hcompare : c.order {} = Comparisons.order {} [⟨"name", false⟩] := by
    funext r s
    rw [Compiled.order, htree, hentries]
  have hread : ∃ p, readPattern "a" = .ok p := ⟨_, rfl⟩
  let after := (PatternCache.resolve (some {}) "a").2
  have hfirst (s : String) :
      c.test { record := record s, patterns := some {} } = (.ok false, after) :=
    (htest s _).trans rfl
  have hsecond (s : String) (hs : s = "a" ∨ s = "ab") :
      c.test { record := record s, patterns := after } = (.ok true, after) := by
    rw [htest]
    rcases hs with rfl | rfl <;> rfl
  have hrun (keys : List Nat) : q.filterAndSort {} (some keys) source .none =
      c.filterAndSort {} (source.findTyped? none) .none keys := rfl
  have hsource : source.findTyped? none 0 = some (record "a") ∧
      source.findTyped? none 1 = some (record "ab") := ⟨rfl, rfl⟩
  refine ⟨.swap _ _ _, rfl, by simp [hentries], fun patterns r hr => ?_, ?_, ?_, ?_, ?_⟩
  · obtain ⟨p, hp⟩ := PatternCache.exists_resolve_eq_ok hread patterns
    simp only [List.mem_cons, List.not_mem_nil, or_false] at hr
    rcases hr with rfl | rfl <;> exact ⟨_, by rw [htest, hp]; rfl⟩
  · rw [hcompare]
    exact .pair (by decide) (by decide) (by decide)
  · rw [hcompare]
    decide
  · rw [hrun, Compiled.filterAndSort]
    simp only [Compiled.select, hsource, hfirst, hsecond "ab" (.inr rfl)]
    rfl
  · rw [hrun, Compiled.filterAndSort]
    simp only [Compiled.select, hsource, hfirst, hsecond "a" (.inl rfl)]
    rfl

end Query

end RecordQuery
