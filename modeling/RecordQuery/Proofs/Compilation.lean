import Mathlib.Logic.Function.Basic
import RecordQuery.Proofs.Folding
import RecordQuery.Session

/-!
# Compiling once

A query keeps what it compiled to. Over every run of a session, whatever it does to which query and
in what order, what is kept is what the query as it stands compiles to, in its own grammar or in the
shared grammar of the moment at which it was compiled.

* `Request.effect`: all that a request can do to the query of a name (`Session.query?_step`).
* `Session.moments`: the shared grammar of the moment at which the query of each name was compiled.
  It is no part of a session, and follows a run beside it.
* `Session.IsCurrent`: what is kept is what compiling at those moments gives. Every step keeps this
  (`IsCurrent.step`), and so does every run (`IsCurrent.after`).
* `Session.kept_after`: only a request that replaces a query can touch what it keeps.
* `Session.compiled_never_stale`: all of this, and that a query with another clause or another
  grammar compiles anew when it is next used.
-/

namespace RecordQuery

theorem Compiled.copy_eq (c : Compiled) : c.copy = c := by
  obtain ⟨tree, entries⟩ := c
  cases tree with
  | ok n => simp only [Compiled.copy, Except.map, Node.copy_eq]
  | error e => rfl

namespace Query

theorem copy_eq (q : Query) : q.copy = q := by
  obtain ⟨conditions, clause, recordType, grammar, compiled⟩ := q
  cases compiled with
  | none => rfl
  | some c => simp only [Query.copy, Option.map_some, Compiled.copy_eq]

theorem compiledIn_of_some {q : Query} {c : Compiled} (h : q.compiled = some c)
    (env : Environment) : q.compiledIn env = c := by
  rw [compiledIn, h, Option.getD_some]

/-- A query that is not compiled is compiled from its texts, in its own grammar or the shared one.
    -/
theorem compiledIn_of_none {q : Query} (h : q.compiled = none) (env : Environment) :
    q.compiledIn env = .ofText (q.grammar.getD env.grammar) q.conditions q.clause := by
  rw [compiledIn, h, Option.getD_none]

/-- What a query keeps, if anything, is what it compiles to as it stands, in its own grammar or in
    the given one. -/
def IsCurrentIn (q : Query) (g : Grammar) : Prop :=
  ∀ c, q.compiled = some c → c = .ofText (q.grammar.getD g) q.conditions q.clause

theorem IsCurrentIn.of_none {q : Query} {g : Grammar} (h : q.compiled = none) :
    q.IsCurrentIn g := by
  intro c hc
  rw [h] at hc
  cases hc

/-- Compiling a query that is not compiled takes the grammar of the environment. -/
theorem IsCurrentIn.compileIn {q : Query} {g : Grammar} (h : q.IsCurrentIn g)
    (env : Environment) :
    (q.compileIn env).IsCurrentIn (if q.compiled.isNone then env.grammar else g) := by
  intro c hc
  obtain rfl : q.compiledIn env = c := Option.some.inj hc
  obtain hnone | ⟨c, hc⟩ := Option.eq_none_or_eq_some q.compiled
  · rw [compiledIn_of_none hnone, hnone]
    rfl
  · rw [compiledIn_of_some hc, hc]
    exact h c hc

end Query

/-! ### What a request does -/

namespace Request

/-- The query that is given up for another: a new one, a copy, or itself with another clause or
    grammar. -/
def replaced? : Request → Option String
  | .create name _ | .orderBy name _ | .withGrammar name _ => some name
  | .copy _ target => some target
  | _ => none

/-- The query that has to be compiled to answer. -/
def used? : Request → Option String
  | .compile name | .test name _ _ _ | .compare name _ _ => some name
  | _ => none

/-- A query that is created has not been compiled. -/
def IsFresh : Request → Prop
  | .create _ q => q.compiled = none
  | _ => True

instance : DecidablePred IsFresh := fun r =>
  match r with
  | .create _ q => decidable_of_iff (q.compiled.isNone = true) Option.isNone_iff_eq_none
  | .orderBy .. | .ofType .. | .withGrammar .. | .copy .. | .extend .. | .compareBy .. | .look ..
  | .compile .. | .test .. | .compare .. => .isTrue trivial

/-- A request that gives the query of a name another clause or another grammar, and the query
    afterwards. -/
inductive Revises (name : String) (q : Query) : Request → Query → Prop
  | orderBy (clause : String) : Revises name q (.orderBy name clause) (q.orderBy clause)
  | withGrammar (grammar : Grammar) :
    Revises name q (.withGrammar name grammar) (q.withGrammar grammar)

/-- The query of a name after a request. -/
def effect (s : Session) (name : String) : Request → Option Query
  | .create target q => if name = target then some q else s.query? name
  | .orderBy target clause =>
    if name = target then (s.query? name).map (·.orderBy clause) else s.query? name
  | .ofType target recordType =>
    if name = target then (s.query? name).map (·.ofType recordType) else s.query? name
  | .withGrammar target grammar =>
    if name = target then (s.query? name).map (·.withGrammar grammar) else s.query? name
  | .copy source target =>
    if name = target then (s.query? source).or (s.query? name) else s.query? name
  | .compile target | .test target _ _ _ | .compare target _ _ =>
    if name = target then (s.query? name).map (·.compileIn s.environment) else s.query? name
  | .extend .. | .compareBy .. | .look .. => s.query? name

/-- What a compiled query says to a request that uses it. -/
def answerFrom (s : Session) (c : Compiled) : Request → Option Answer
  | .compile _ => some (.compiled c)
  | .test _ record params cache =>
    let (holds, patterns) :=
      c.test { record := record, params := params, patterns := cache.map s.cache }
    some (.tested holds patterns)
  | .compare _ a b => some (.ordering (c.order s.environment.comparisons a b))
  | _ => none

end Request

namespace Session

variable {s : Session} {r : Request} {name : String} {q : Query} {c : Compiled}

/-- The session after several requests. -/
def after (s : Session) (requests : List Request) : Session := (s.run requests).2

@[simp] theorem after_nil : s.after [] = s := rfl

@[simp] theorem after_cons (rest : List Request) :
    s.after (r :: rest) = (s.step r).2.after rest := rfl

@[simp] theorem query?_withQuery (s : Session) (target : String) (q : Query) (name : String) :
    (s.withQuery target q).query? name = if name = target then some q else s.query? name :=
  Members.find?_insert target name q s.queries

@[simp] theorem query?_withCache (s : Session) (cache : Option String)
    (patterns : Option PatternCache) (name : String) :
    (s.withCache cache patterns).query? name = s.query? name := by
  obtain - | cache := cache
  · rfl
  · obtain - | patterns := patterns <;> rfl

theorem environment_withCache (s : Session) (cache : Option String)
    (patterns : Option PatternCache) :
    (s.withCache cache patterns).environment = s.environment := by
  obtain - | cache := cache
  · rfl
  · obtain - | patterns := patterns <;> rfl

/-- Changing one query leaves the others. -/
theorem query?_change (s : Session) (target : String) (f : Query → Query) (name : String) :
    (s.change target f).2.query? name =
      if name = target then (s.query? name).map f else s.query? name := by
  rw [change]
  split
  · rename_i q hq
    rw [query?_withQuery]
    split
    · rename_i htarget
      rw [htarget, hq, Option.map_some]
    · rfl
  · rename_i hq
    split
    · rename_i htarget
      rw [htarget, hq, Option.map_none]
    · rfl

theorem query?_use (s : Session) (target : String) (f : Compiled → Answer) (name : String) :
    (s.use target f).2.query? name =
      if name = target then (s.query? name).map (·.compileIn s.environment)
      else s.query? name := by
  rw [← query?_change, use, change]
  split <;> rfl

theorem query?_test (s : Session) (target : String) (record : Record) (params : Params)
    (cache : Option String) (name : String) :
    (s.test target record params cache).2.query? name =
      if name = target then (s.query? name).map (·.compileIn s.environment)
      else s.query? name := by
  rw [← query?_change, test, change]
  obtain - | q := s.query? target
  · rfl
  · exact query?_withCache _ _ _ _

/-- What a request does to the query of a name, and there is nothing else that it does. -/
theorem query?_step (s : Session) (r : Request) (name : String) :
    (s.step r).2.query? name = r.effect s name := by
  cases r with
  | create target q => exact query?_withQuery s target q name
  | orderBy target clause => exact query?_change s target _ name
  | ofType target recordType => exact query?_change s target _ name
  | withGrammar target grammar => exact query?_change s target _ name
  | copy source target =>
    rw [step, Request.effect]
    split
    · rename_i q hq
      rw [query?_withQuery, Query.copy_eq, hq, Option.some_or]
    · rename_i hq
      rw [hq, Option.none_or, ite_self]
  | extend id descriptor => rfl
  | compareBy property comparison => rfl
  | look target =>
    rw [step]
    split <;> rfl
  | compile target => exact query?_use s target _ name
  | test target record params cache => exact query?_test s target record params cache name
  | compare target a b => exact query?_use s target _ name

/-- A request that uses a query does nothing to it but compile it. -/
theorem query?_step_of_used (hr : r.used? = some name) :
    (s.step r).2.query? name = (s.query? name).map (·.compileIn s.environment) := by
  rw [query?_step]
  cases r with
  | compile target | test target _ _ _ | compare target _ _ =>
    obtain rfl : target = name := Option.some.inj hr
    exact if_pos rfl
  | _ => cases hr

/-- A request that neither replaces nor uses a query changes its record type at most. -/
theorem query?_step_of_bystander (hreplaced : r.replaced? ≠ some name)
    (hused : r.used? ≠ some name) :
    ∃ t : Query → Option String,
      (s.step r).2.query? name = (s.query? name).map fun q => { q with recordType := t q } := by
  rw [query?_step]
  cases r with
  | ofType target recordType =>
    obtain rfl | h := eq_or_ne name target
    · exact ⟨fun _ => some recordType, if_pos rfl⟩
    · exact ⟨Query.recordType, by simp [Request.effect, h]⟩
  | _ =>
    refine ⟨Query.recordType, ?_⟩
    simp_all [Request.effect, Request.replaced?, Request.used?, eq_comm]

/-- Only registering changes what queries share. -/
theorem environment_step (s : Session) (r : Request) :
    (s.step r).2.environment =
      match r with
      | .extend id descriptor => (s.extend id descriptor).environment
      | .compareBy property comparison => (s.compareBy property comparison).environment
      | _ => s.environment := by
  cases r with
  | create target q | extend id descriptor | compareBy property comparison => rfl
  | orderBy target _ | ofType target _ | withGrammar target _ =>
    rw [step, change]
    split <;> rfl
  | copy target _ | look target =>
    rw [step]
    split <;> rfl
  | compile target | compare target _ _ =>
    rw [step, use]
    split <;> rfl
  | test target record params cache =>
    rw [step, test]
    obtain - | q := s.query? target
    · rfl
    · exact environment_withCache _ _ _

/-- A request that uses a query answers from what the query compiles to now, or has compiled to. -/
theorem answer_of_used (hr : r.used? = some name) (hq : s.query? name = some q) :
    some (s.step r).1 = r.answerFrom s (q.compiledIn s.environment) := by
  cases r with
  | compile target | test target _ _ _ | compare target _ _ =>
    obtain rfl : target = name := Option.some.inj hr
    simp [step, use, test, Request.answerFrom, hq, Query.compileIn, Query.compiledIn]
  | _ => cases hr

/-! ### What is kept -/

/-- A query keeps what it compiled to through every request that does not replace it. -/
theorem kept_step (hreplaced : r.replaced? ≠ some name) (hq : s.query? name = some q)
    (hc : q.compiled = some c) :
    ∃ q', (s.step r).2.query? name = some q' ∧ q'.compiled = some c := by
  by_cases hused : r.used? = some name
  · refine ⟨q.compileIn s.environment, by rw [query?_step_of_used hused, hq, Option.map_some], ?_⟩
    -- What is compiled already is not compiled again.
    rw [Query.compileIn, Query.compiledIn_of_some hc]
  · obtain ⟨t, ht⟩ := query?_step_of_bystander (s := s) hreplaced hused
    rw [hq, Option.map_some] at ht
    exact ⟨_, ht, hc⟩

/-- So it does through every run of such requests. -/
theorem kept_after {more : List Request} (hmore : ∀ r ∈ more, r.replaced? ≠ some name)
    (hq : s.query? name = some q) (hc : q.compiled = some c) :
    ∃ q', (s.after more).query? name = some q' ∧ q'.compiled = some c := by
  -- Each request finds the query with what it kept before.
  induction more generalizing s q with
  | nil => exact ⟨q, hq, hc⟩
  | cons r more ih =>
    obtain ⟨hr, hmore⟩ := List.forall_mem_cons.1 hmore
    obtain ⟨q', hq', hc'⟩ := kept_step hr hq hc
    exact ih hmore hq' hc'

/-- A query that is neither replaced nor used stays as it is, up to its record type. -/
theorem query?_after_of_bystanders {between : List Request}
    (hbetween : ∀ r ∈ between, r.replaced? ≠ some name ∧ r.used? ≠ some name)
    (hq : s.query? name = some q) :
    ∃ t, (s.after between).query? name = some { q with recordType := t } := by
  induction between generalizing s q with
  | nil => exact ⟨q.recordType, hq⟩
  | cons r between ih =>
    obtain ⟨hr, hbetween⟩ := List.forall_mem_cons.1 hbetween
    obtain ⟨t, ht⟩ := query?_step_of_bystander (s := s) hr.1 hr.2
    rw [hq, Option.map_some] at ht
    obtain ⟨u, hu⟩ := ih hbetween ht
    exact ⟨u, hu⟩

/-! ### When it was compiled -/

/-- The moments after a request. Using a query that is not compiled compiles it now; a copy takes
    over the moment of what it copies. -/
def note (s : Session) (moments : String → Grammar) : Request → String → Grammar
  | .copy source target =>
    if (s.query? source).isSome then Function.update moments target (moments source) else moments
  | .compile name | .test name _ _ _ | .compare name _ _ =>
    if (s.query? name).any (·.compiled.isNone) then
      Function.update moments name s.environment.grammar
    else moments
  | _ => moments

/-- For each name, the shared grammar of the moment at which its query was compiled, after several
    requests. -/
def moments (s : Session) (before : String → Grammar) : List Request → String → Grammar
  | [] => before
  | r :: rest => (s.step r).2.moments (s.note before r) rest

/-- What queries keep is what they compile to as they stand, each in its own grammar or in the
    shared grammar of its moment. -/
def IsCurrent (s : Session) (moments : String → Grammar) : Prop :=
  ∀ name q, s.query? name = some q → q.IsCurrentIn (moments name)

theorem isCurrent_init (environment : Environment) (moments : String → Grammar) :
    IsCurrent { environment := environment } moments :=
  fun _ _ hq => nomatch hq

variable {before : String → Grammar}

/-- A request that does not use a query and copies none to it leaves its moment. -/
theorem note_of_bystander (hreplaced : r.replaced? ≠ some name) (hused : r.used? ≠ some name) :
    s.note before r name = before name := by
  cases r with
  | copy source target =>
    -- Only a copy to this name takes over another moment.
    have hne : name ≠ target := fun h => hreplaced (by rw [h, Request.replaced?])
    rw [note]
    split
    · exact Function.update_of_ne hne _ _
    · rfl
  | compile target | test target _ _ _ | compare target _ _ =>
    have hne : name ≠ target := fun h => hused (by rw [h, Request.used?])
    rw [note]
    split
    · exact Function.update_of_ne hne _ _
    · rfl
  | _ => rfl

/-- The moment of a query that is used is now, unless the query was compiled before. -/
theorem note_of_used (hr : r.used? = some name) (hq : s.query? name = some q) :
    s.note before r name =
      if q.compiled.isNone then s.environment.grammar else before name := by
  have hnote : s.note before r = if (s.query? name).any (·.compiled.isNone) then
      Function.update before name s.environment.grammar else before := by
    cases r with
    | compile target | test target _ _ _ | compare target _ _ =>
      obtain rfl : target = name := Option.some.inj hr
      rfl
    | _ => cases hr
  rw [hnote, hq, Option.any_some]
  split
  · exact Function.update_self _ _ _
  · rfl

/-- After a request that replaces a query, what the query keeps is current. -/
theorem IsCurrent.step_of_replaced (h : s.IsCurrent before) (hfresh : r.IsFresh)
    (hr : r.replaced? = some name) (hq : (s.step r).2.query? name = some q) :
    q.IsCurrentIn (s.note before r name) := by
  rw [query?_step] at hq
  cases r with
  | create target new =>
    obtain rfl : target = name := Option.some.inj hr
    obtain rfl : new = q := by simpa [Request.effect] using hq
    exact .of_none hfresh
  | orderBy target clause =>
    obtain rfl : target = name := Option.some.inj hr
    obtain ⟨q, -, rfl⟩ : ∃ old, s.query? target = some old ∧ old.orderBy clause = q := by
      simpa [Request.effect] using hq
    exact .of_none rfl
  | withGrammar target grammar =>
    obtain rfl : target = name := Option.some.inj hr
    obtain ⟨q, -, rfl⟩ : ∃ old, s.query? target = some old ∧ old.withGrammar grammar = q := by
      simpa [Request.effect] using hq
    exact .of_none rfl
  | copy source target =>
    obtain rfl : target = name := Option.some.inj hr
    rw [Request.effect, if_pos rfl] at hq
    rw [note]
    -- The copy takes over what is kept together with its moment.
    obtain hsource | ⟨q', hsource⟩ := Option.eq_none_or_eq_some (s.query? source)
    · rw [hsource, Option.none_or] at hq
      rw [hsource]
      exact h target q hq
    · rw [hsource, Option.some_or] at hq
      obtain rfl := Option.some.inj hq
      rw [hsource, if_pos Option.isSome_some, Function.update_self]
      exact h source q' hsource
  | _ => cases hr

/-- Every request keeps what queries keep current. -/
theorem IsCurrent.step (h : s.IsCurrent before) (hfresh : r.IsFresh) :
    (s.step r).2.IsCurrent (s.note before r) := by
  intro name q' hq'
  -- A request uses a query, or replaces it, or leaves all but its record type.
  by_cases hused : r.used? = some name
  · rw [query?_step_of_used hused] at hq'
    obtain ⟨q, hq, rfl⟩ := Option.map_eq_some_iff.1 hq'
    rw [note_of_used hused hq]
    exact (h name q hq).compileIn s.environment
  by_cases hreplaced : r.replaced? = some name
  · exact h.step_of_replaced hfresh hreplaced hq'
  · obtain ⟨t, ht⟩ := query?_step_of_bystander (s := s) hreplaced hused
    rw [ht] at hq'
    obtain ⟨q, hq, rfl⟩ := Option.map_eq_some_iff.1 hq'
    rw [note_of_bystander hreplaced hused]
    exact h name q hq

/-- So does every run. -/
theorem IsCurrent.after {requests : List Request} (h : s.IsCurrent before)
    (hfresh : ∀ r ∈ requests, r.IsFresh) :
    (s.after requests).IsCurrent (s.moments before requests) := by
  induction requests generalizing s before with
  | nil => exact h
  | cons r rest ih =>
    obtain ⟨hr, hrest⟩ := List.forall_mem_cons.1 hfresh
    exact ih (h.step hr) hrest

/-! ### Compiling anew -/

/-- After another clause or another grammar, the query is as it was but for that, and not compiled. -/
theorem query?_step_of_revises {revised : Query} (hr : r.Revises name q revised)
    (hq : s.query? name = some q) :
    (s.step r).2.query? name = some revised ∧ revised.compiled = none := by
  rw [query?_step]
  rcases hr with clause | grammar
  · exact ⟨by rw [Request.effect, if_pos rfl, hq, Option.map_some], rfl⟩
  · exact ⟨by rw [Request.effect, if_pos rfl, hq, Option.map_some], rfl⟩

/-- A query with another clause or another grammar compiles when it is next used, as it stands and
    at that moment, and answers from that. -/
theorem compiles_anew {revised : Query} {between : List Request} {use : Request}
    (hr : r.Revises name q revised) (hq : s.query? name = some q)
    (hbetween : ∀ r ∈ between, r.replaced? ≠ some name ∧ r.used? ≠ some name)
    (huse : use.used? = some name) :
    let s' := s.after (r :: between)
    let c := Compiled.ofText (revised.grammar.getD s'.environment.grammar) revised.conditions
      revised.clause
    some (s'.step use).1 = use.answerFrom s' c ∧
      ∃ q', (s'.step use).2.query? name = some q' ∧ q'.compiled = some c := by
  intro s' c
  obtain ⟨hrevised, hnone⟩ := query?_step_of_revises hr hq
  obtain ⟨t, ht⟩ := query?_after_of_bystanders hbetween hrevised
  rw [← after_cons] at ht
  have hc : Query.compiledIn { revised with recordType := t } s'.environment = c :=
    Query.compiledIn_of_none hnone _
  have hafter := query?_step_of_used (s := s') huse
  rw [ht, Option.map_some, Query.compileIn, hc] at hafter
  exact ⟨hc ▸ answer_of_used huse ht, _, hafter, rfl⟩

/-- Over every run of a session, what a query keeps is what it compiles to as it stands, in its own
    grammar or in the shared grammar of the moment at which it was compiled. Only replacing the
    query touches what it keeps; and with another clause or another grammar it compiles anew when
    it is next used. -/
theorem compiled_never_stale (environment : Environment) (before : String → Grammar)
    (requests : List Request) (hfresh : ∀ r ∈ requests, r.IsFresh) :
    let start : Session := { environment := environment }
    let s := start.after requests
    let moment := start.moments before requests
    (∀ name q c, s.query? name = some q → q.compiled = some c →
      c = .ofText (q.grammar.getD (moment name)) q.conditions q.clause) ∧
    (∀ name q c more, s.query? name = some q → q.compiled = some c →
      (∀ r ∈ more, r.replaced? ≠ some name) →
      ∃ q', (s.after more).query? name = some q' ∧ q'.compiled = some c) ∧
    (∀ name q r revised between use, s.query? name = some q → r.Revises name q revised →
      (∀ r ∈ between, r.replaced? ≠ some name ∧ r.used? ≠ some name) → use.used? = some name →
      let s' := s.after (r :: between)
      let c := Compiled.ofText (revised.grammar.getD s'.environment.grammar) revised.conditions
        revised.clause
      some (s'.step use).1 = use.answerFrom s' c ∧
        ∃ q', (s'.step use).2.query? name = some q' ∧ q'.compiled = some c) := by
  refine ⟨fun name q c hq hc => ?_, fun name q c more hq hc hmore => kept_after hmore hq hc,
    fun name q r revised between use hq hr hbetween huse => compiles_anew hr hq hbetween huse⟩
  exact ((isCurrent_init environment before).after hfresh) name q hq c hc

/-- A query is compiled and copied. Then the shared grammar gets a new comparator, and the query a
    clause. The copy keeps what the condition compiled to without the comparator, and the query
    compiles with it. -/
theorem compiled_never_stale_extended :
    let requests : List Request :=
      [.create "q" { conditions := "flag IS 1" }, .compile "q", .copy "q" "r",
        .extend "is" (.comparator "IS" .equal)]
    let s := after {} requests
    let extended := Grammar.standard.register "is" (.comparator "IS" .equal)
    (∀ r ∈ requests, r.IsFresh) ∧
      (∃ q, s.query? "r" = some q ∧
        q.compiled = some (.ofText .standard "flag IS 1" none)) ∧
      ((s.step (.orderBy "q" "flag")).2.step (.compile "q")).1 =
        .compiled (.ofText extended "flag IS 1" (some "flag")) := by
  intro requests s extended
  have hfresh : ∀ r ∈ requests, r.IsFresh := by decide
  obtain ⟨hkept, -, hanew⟩ := compiled_never_stale {} (fun _ => .empty) requests hfresh
  obtain ⟨copy, c, hcopy, hc, hgrammar, hconditions, hclause⟩ :
      ∃ q c, s.query? "r" = some q ∧ q.compiled = some c ∧ q.grammar = none ∧
        q.conditions = "flag IS 1" ∧ q.clause = none := by
    simp [s, requests, query?_step, Request.effect, Query.compileIn]
  have hmoment : moments {} (fun _ => .empty) requests "r" = .standard := by
    simp [requests, moments, note, query?_step, Request.effect, Query.compileIn]
    rfl
  have hextended : (after {} requests).environment.grammar = extended := by
    simp only [requests, after_cons, after_nil, environment_step]
    rfl
  obtain ⟨q, hq, hgrammar', hconditions'⟩ :
      ∃ q, s.query? "q" = some q ∧ q.grammar = none ∧ q.conditions = "flag IS 1" := by
    simp [s, requests, query?_step, Request.effect, Query.compileIn]
  refine ⟨hfresh, ⟨copy, hcopy, ?_⟩, ?_⟩
  · have := hkept "r" copy c hcopy hc
    rw [hgrammar, hmoment, hconditions, hclause] at this
    rw [hc, this, Option.getD_none]
  · obtain ⟨hanswer, -⟩ := hanew "q" q _ _ [] (.compile "q") hq (.orderBy "flag") (by simp) rfl
    rw [after_cons, after_nil] at hanswer
    rw [environment_step] at hanswer
    simpa [Request.answerFrom, Query.orderBy, hgrammar', hconditions', hextended] using hanswer

end Session

end RecordQuery
