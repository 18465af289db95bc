import RecordQuery.Proofs.Batch
import RecordQuery.Proofs.Compilation
import RecordQuery.Proofs.Lexing.Concatenation

/-!
# Queries that do not compile

A query whose condition is no tree can still be used everywhere, and says the same wherever it is
used: no record matches, all records are equal, and no batch finds anything. It cannot fail, since it
looks neither at records nor at parameters, and it leaves the patterns that are kept as they are.

It stays so. When it is first used it keeps that its condition is no tree, and why, and only
replacing it touches that. A shared grammar in which the condition would be a tree comes too late.

* `Query.FailsIn`: a query whose condition is no tree.
* `Query.IsInert`, `Session.AnswersInertly`: what such a query says, by itself and in a session.
* `Session.inert_of_failsIn`: it does say that, now and after every run that does not replace it.
-/

namespace RecordQuery

open Grammar

variable {α : Type} {e : BuildError} {entries : List OrderEntry}

/-! ### Conditions that are no tree -/

namespace Compiled

variable {c : Compiled}

theorem test_of_error (h : c.tree = .error e) (ctx : Context) :
    c.test ctx = (.ok false, ctx.patterns) := by
  rw [test, h]

theorem order_of_error (h : c.tree = .error e) (cs : Comparisons) (a b : Record) :
    c.order cs a b = .eq := by
  rw [order, h]

/-- A batch finds nothing by a condition that is no tree. -/
theorem filterAndSort_of_error (h : c.tree = .error e) (cs : Comparisons)
    (find? : α → Option Record) (params : Params) (items : List α) :
    c.filterAndSort cs find? params items = .ok [] := by
  have hholds (record : Record) : c.holdsOn params record = .ok false :=
    congrArg Prod.fst (test_of_error h _)
  have hignores : c.IgnoresPatterns := by
    intro tree htree
    rw [h] at htree
    cases htree
  have hkept : c.kept params (withRecords find? items) = [] :=
    List.filter_eq_nil_iff.2 fun item _ => by simp [accepts, hholds]
  rw [filterAndSort_eq hignores, firstFailure?_eq_none fun item _ => ⟨_, hholds item.2⟩, hkept,
    List.perm_nil.1 (c.sort_perm (c.orderItems cs) [])]
  rfl

end Compiled

/-! ### Queries -/

namespace Query

variable {q : Query} {env : Environment}

/-- The condition of a query is no tree in the grammar that the query is compiled in. This is its own
    one or else the shared one, of the environment or, if it has been compiled, of the moment at
    which it was. -/
def FailsIn (q : Query) (env : Environment) (e : BuildError) : Prop :=
  ∃ g, (q.compiled = none → g = env.grammar) ∧ q.IsCurrentIn g ∧
    buildTree ((q.grammar.getD g).tokenize q.conditions) = .error e

/-- A query that is not compiled fails in the grammar that it would be compiled in. -/
theorem FailsIn.of_none (h : q.compiled = none)
    (he : buildTree ((q.grammar.getD env.grammar).tokenize q.conditions) = .error e) :
    q.FailsIn env e :=
  ⟨env.grammar, fun _ => rfl, .of_none h, he⟩

/-- What such a query compiles to, or has compiled to, is the reason and the entries of its clause.
    -/
theorem FailsIn.compiledIn_eq (h : q.FailsIn env e) :
    q.compiledIn env = ⟨.error e, OrderEntry.ofClause q.clause⟩ := by
  obtain ⟨g, hnone, hcurrent, he⟩ := h
  have hcompiled : q.compiledIn env = .ofText (q.grammar.getD g) q.conditions q.clause := by
    obtain hc | ⟨c, hc⟩ := Option.eq_none_or_eq_some q.compiled
    · rw [compiledIn_of_none hc, hnone hc]
    · rw [compiledIn_of_some hc, hcurrent c hc]
  rw [hcompiled, Compiled.ofText, he]

/-- A query for which no record matches and all records are equal, whatever it is given: patterns
    that are kept stay as they are, and batches find nothing. It still says why it does not compile,
    and has the entries of its clause. -/
structure IsInert (q : Query) (env : Environment) (e : BuildError) (entries : List OrderEntry) :
    Prop where
  test : ∀ ctx, (q.compiledIn env).test ctx = (.ok false, ctx.patterns)
  order : ∀ cs a b, (q.compiledIn env).order cs a b = .eq
  filterAndSort : ∀ {κ : Type} (keys? : Option (List κ)) (source : Source κ) (params : Params),
    q.filterAndSort env keys? source params = .ok []
  filterRecords : ∀ {α : Type} (view : α → Record) (items : List α) (params : Params),
    q.filterRecords env view items params = .ok []
  buildError? : q.buildError? env = some e
  entries : (q.compiledIn env).entries = entries

/-- A query that compiles to a reason is inert. -/
theorem isInert_of_compiledIn (h : q.compiledIn env = ⟨.error e, entries⟩) :
    q.IsInert env e entries := by
  have htree : (q.compiledIn env).tree = .error e := by rw [h]
  exact {
    test := Compiled.test_of_error htree
    order := Compiled.order_of_error htree
    filterAndSort := fun keys? _ _ => by
      cases keys? <;> exact Compiled.filterAndSort_of_error htree _ _ _ _
    filterRecords := fun _ _ _ => Compiled.filterAndSort_of_error htree _ _ _ _
    buildError? := by rw [Query.buildError?, htree]
    entries := by rw [h] }

end Query

/-! ### Sessions -/

namespace Session

variable {s : Session} {name : String} {q : Query}

/-- In a session that a run has reached it is enough that the condition is no tree, in the query's
    own grammar or else in the shared one, of now or of the moment at which it was compiled. -/
theorem failsIn_after {environment : Environment} {before : String → Grammar}
    {requests : List Request} (hfresh : ∀ r ∈ requests, r.IsFresh) :
    let start : Session := { environment := environment }
    let s := start.after requests
    let shared := if q.compiled.isNone then s.environment.grammar else
      start.moments before requests name
    s.query? name = some q → buildTree ((q.grammar.getD shared).tokenize q.conditions) = .error e →
      q.FailsIn s.environment e := by
  intro start s shared hq he
  refine ⟨shared, fun hnone => by simp [shared, hnone], ?_, he⟩
  obtain hnone | ⟨c, hc⟩ := Option.eq_none_or_eq_some q.compiled
  · exact .of_none hnone
  · have hcurrent := ((isCurrent_init environment before).after hfresh) name q hq
    simpa [shared, hc] using hcurrent

/-- Keeping the patterns that a cache has already changes no cache. -/
theorem cache_withCache (s : Session) (target? : Option String) (name : String) :
    (s.withCache target? (target?.map s.cache)).cache name = s.cache name := by
  cases target? with
  | none => rfl
  | some target =>
    simp only [Option.map_some, withCache, cache, Members.find?_insert]
    split
    · rename_i hname
      rw [hname, Option.getD_some]
    · rfl

/-- The answers of a query that matches no record and orders none. No request that uses it changes
    a cache. -/
structure AnswersInertly (s : Session) (name : String) (e : BuildError)
    (entries : List OrderEntry) : Prop where
  compile : (s.step (.compile name)).1 = .compiled ⟨.error e, entries⟩
  test : ∀ record params cache?,
    (s.step (.test name record params cache?)).1 = .tested (.ok false) (cache?.map s.cache)
  compare : ∀ a b, (s.step (.compare name a b)).1 = .ordering .eq
  cache : ∀ r cache, r.used? = some name → (s.step r).2.cache cache = s.cache cache

/-- In a session, too, such a query is inert. -/
theorem answersInertly_of_compiledIn (hq : s.query? name = some q)
    (h : q.compiledIn s.environment = ⟨.error e, entries⟩) : s.AnswersInertly name e entries := by
  have htree : (q.compiledIn s.environment).tree = .error e := by rw [h]
  have hanswer {r : Request} (hr : r.used? = some name) :
      some (s.step r).1 = r.answerFrom s ⟨.error e, entries⟩ := by
    rw [answer_of_used hr hq, h]
  refine ⟨?_, fun record params cache? => ?_, fun a b => ?_, fun r cache hr => ?_⟩
  · exact Option.some.inj (hanswer rfl)
  · exact Option.some.inj (hanswer rfl)
  · exact Option.some.inj (hanswer rfl)
  · cases r with
    | compile target | compare target _ _ =>
      obtain rfl : target = name := Option.some.inj hr
      rw [step, use, hq]
      rfl
    | test target record params cache? =>
      obtain rfl : target = name := Option.some.inj hr
      have hsession : (s.step (.test target record params cache?)).2 =
          (s.withQuery target (q.compileIn s.environment)).withCache cache? (cache?.map s.cache) := by
        have hcompiled : (q.compileIn s.environment).compiledIn s.environment =
            ⟨.error e, entries⟩ := h
        rw [step, Session.test, hq]
        dsimp only
        rw [hcompiled]
        rfl
      rw [hsession]
      exact cache_withCache _ _ _
    | _ => cases hr

/-- A query whose condition is no tree is inert. Once it has been used it stays so, for the same reason
    and with the same entries, through every run that does not replace it, whatever happens to the
    shared grammar and to the comparisons. -/
theorem inert_of_failsIn (hq : s.query? name = some q) (he : q.FailsIn s.environment e) :
    let entries := OrderEntry.ofClause q.clause
    (q.IsInert s.environment e entries ∧ s.AnswersInertly name e entries) ∧
    ∀ use more, use.used? = some name → (∀ r ∈ more, r.replaced? ≠ some name) →
      let s' := (s.step use).2.after more
      ∃ q', s'.query? name = some q' ∧ q'.IsInert s'.environment e entries ∧
        s'.AnswersInertly name e entries := by
  intro entries
  have hcompiled := he.compiledIn_eq
  refine ⟨⟨Query.isInert_of_compiledIn hcompiled, answersInertly_of_compiledIn hq hcompiled⟩, ?_⟩
  intro use more huse hmore s'
  -- The use keeps what was compiled, and after that only a replacement touches it.
  have hused := query?_step_of_used (s := s) huse
  rw [hq, Option.map_some] at hused
  have hkept : (q.compileIn s.environment).compiled = some ⟨.error e, entries⟩ :=
    congrArg some hcompiled
  obtain ⟨q', hq', hc'⟩ := kept_after hmore hused hkept
  have hcompiled' := Query.compiledIn_of_some hc' s'.environment
  exact ⟨q', hq', Query.isInert_of_compiledIn hcompiled',
    answersInertly_of_compiledIn hq' hcompiled'⟩

/-- A condition with a word that the grammar does not have as an operator. When it is added, the
    condition would be a tree, but the query has been compiled before. -/
theorem inert_of_failsIn_extended :
    let q : Query := { conditions := "flag IS 1", clause := some "flag" }
    let s : Session := { queries := [("q", q)] }
    let more : List Request := [.extend "is" (.comparator "IS" .equal), .ofType "q" "t"]
    let s' := (s.step (.compile "q")).2.after more
    let record (n : Int64) : Record :=
      { get := fun _ => .integer n, id := .integer n, type? := none }
    s.query? "q" = some q ∧ q.FailsIn s.environment (.rejected [.notOneTree]) ∧
      (∀ r ∈ more, r.replaced? ≠ some "q") ∧
      (∃ tree, buildTree (s'.environment.grammar.tokenize q.conditions) = .ok tree) ∧
      (∃ q', s'.query? "q" = some q' ∧
        q'.filterAndSort s'.environment none (.ofArray #[record 1, record 2]) .none = .ok []) ∧
      (s'.step (.test "q" (record 1) .none (some "cache"))).1 = .tested (.ok false) (some {}) ∧
      (s'.step (.compare "q" (record 1) (record 2))).1 = .ordering .eq := by
  intro q s more s' record
  let extended := standard.register "is" (.comparator "IS" .equal)
  let token (id : String) (literal : Literal) : Token := ⟨described id, literal⟩
  let flag := token "record_property" (.text "flag")
  let is := token "record_property" (.text "IS")
  let one := token "number" (.integer 1)
  let equal : Token := ⟨{ Descriptor.comparator "IS" .equal with id := "is" }, .text "IS"⟩
  have htokens : standard.tokenize "flag IS 1" = [flag, is, one] :=
    (Lexer.ReadsTo.cons rfl (.cons rfl (.cons rfl .nil))).tokens_of_end rfl
  have h₁ : Builder.accept {} flag = ⟨[.ofToken flag], 1, [], [], false⟩ :=
    Builder.settle_of_examine rfl
  have h₂ : Builder.accept ⟨[.ofToken flag], 1, [], [], false⟩ is =
      ⟨[.ofToken is, .ofToken flag], 2, [], [], false⟩ := Builder.settle_of_examine rfl
  have h₃ : Builder.accept ⟨[.ofToken is, .ofToken flag], 2, [], [], false⟩ one =
      ⟨[.ofToken one, .ofToken is, .ofToken flag], 3, [], [], false⟩ :=
    Builder.settle_of_examine rfl
  have hfails : q.FailsIn s.environment (.rejected [.notOneTree]) := by
    refine .of_none rfl ?_
    show buildTree (standard.tokenize "flag IS 1") = _
    rw [htokens, buildTree_of_ne_nil (List.cons_ne_nil _ _), List.foldl_cons, h₁, List.foldl_cons,
      h₂, List.foldl_cons, h₃]
    rfl
  have hgrammar : s'.environment.grammar = extended := by
    simp only [s', more, after_cons, after_nil, environment_step]
    rfl
  have hextended : extended.tokenize "flag IS 1" = [flag, equal, one] :=
    (Lexer.ReadsTo.cons rfl (.cons rfl (.cons rfl .nil))).tokens_of_end rfl
  let tree : Node := ⟨equal, some (.ofToken flag), some (.ofToken one)⟩
  have hcondition : Condition [flag, equal, one] tree :=
    .chain (.clause (.comparison (.leaf ⟨rfl, rfl, rfl, rfl⟩) ⟨rfl, rfl, rfl, rfl⟩
      (.leaf ⟨rfl, rfl, rfl, rfl⟩)))
  have hbuild : buildTree (s'.environment.grammar.tokenize q.conditions) = .ok tree := by
    rw [hgrammar, hextended]
    exact hcondition.buildTree_eq (by decide)
  have hmore : ∀ r ∈ more, r.replaced? ≠ some "q" := by simp [more, Request.replaced?]
  obtain ⟨-, hrun⟩ := @inert_of_failsIn _ s "q" q rfl hfails
  obtain ⟨q', hq', hinert, hanswers⟩ := hrun (.compile "q") more rfl hmore
  exact ⟨rfl, hfails, hmore, ⟨tree, hbuild⟩, ⟨q', hq', hinert.filterAndSort _ _ _⟩,
    hanswers.test _ _ _, hanswers.compare _ _⟩

end Session

end RecordQuery
