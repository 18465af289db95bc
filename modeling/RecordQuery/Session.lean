import RecordQuery.Batch

/-!
# Sessions

Queries, the environment they share and pattern caches, all by name, and what can be asked of them
in turn. A query compiles when a request first needs it compiled; what later happens to the shared
grammar does not reach it any more.

* `Session.step`: the answer to a request, and the session afterwards.
* `Session.run`: the answers to several requests.
-/

namespace RecordQuery

/-- Queries and caches by name, with what they share. -/
structure Session where
  /-- The shared grammar and comparisons. -/
  environment : Environment := {}
  /-- The queries. -/
  queries : Members Query := []
  /-- The pattern caches. -/
  caches : Members PatternCache := []

/-- What can be asked of a session. Most requests are about the query of a name. -/
inductive Request where
  /-- A new query, in place of one with the same name. -/
  | create (name : String) (query : Query)
  /-- Another ordering clause. -/
  | orderBy (name : String) (clause : String)
  /-- Another record type. -/
  | ofType (name : String) (recordType : String)
  /-- Another grammar. -/
  | withGrammar (name : String) (grammar : Grammar)
  /-- A copy under another name. It is compiled if the query is. -/
  | copy (name : String) (target : String)
  /-- Registers a descriptor in the shared grammar. -/
  | extend (id : String) (descriptor : Descriptor)
  /-- Registers a comparison. -/
  | compareBy (property : String) (comparison : Comparison)
  /-- The query as it stands. -/
  | look (name : String)
  /-- The query, compiled. -/
  | compile (name : String)
  /-- Whether a record matches; patterns are kept in a cache if one is named. -/
  | test (name : String) (record : Record) (params : Params) (cache : Option String)
  /-- Compares two records. -/
  | compare (name : String) (a b : Record)

/-- The answer to a request. -/
inductive Answer where
  /-- The request was carried out. -/
  | done
  /-- There is no query of that name. -/
  | missing
  /-- The query. -/
  | query (q : Query)
  /-- What the query compiled to. -/
  | compiled (c : Compiled)
  /-- Whether the record matches, and the patterns that are kept. -/
  | tested (holds : Except EvalError Bool) (patterns : Option PatternCache)
  /-- The order of the records. -/
  | ordering (ord : Ordering)

namespace Session

/-- The query of a name. -/
def query? (s : Session) (name : String) : Option Query := Members.find? s.queries name

/-- Puts a query in place of the one of a name. -/
def withQuery (s : Session) (name : String) (q : Query) : Session :=
  { s with queries := Members.insert name q s.queries }

/-- Changes the query of a name. -/
def change (s : Session) (name : String) (f : Query → Query) : Answer × Session :=
  match s.query? name with
  | some q => (.done, s.withQuery name (f q))
  | none => (.missing, s)

/-- Uses what the query of a name compiles to, and keeps that. -/
def use (s : Session) (name : String) (f : Compiled → Answer) : Answer × Session :=
  match s.query? name with
  | some q =>
    let q := q.compileIn s.environment
    (f (q.compiledIn s.environment), s.withQuery name q)
  | none => (.missing, s)

/-- The cache of a name, which is empty when it is first used. -/
def cache (s : Session) (name : String) : PatternCache :=
  (Members.find? s.caches name).getD {}

/-- Keeps the patterns of a cache. -/
def withCache (s : Session) (name : Option String) (patterns : Option PatternCache) : Session :=
  match name, patterns with
  | some name, some patterns => { s with caches := Members.insert name patterns s.caches }
  | _, _ => s

/-- Tests a record on the query of a name. -/
def test (s : Session) (name : String) (record : Record) (params : Params)
    (cache : Option String) : Answer × Session :=
  match s.query? name with
  | none => (.missing, s)
  | some q =>
    let q := q.compileIn s.environment
    let ctx : Context := { record := record, params := params, patterns := cache.map s.cache }
    let (holds, patterns) := (q.compiledIn s.environment).test ctx
    (.tested holds patterns, (s.withQuery name q).withCache cache patterns)

/-- Registers a descriptor in the shared grammar. -/
def extend (s : Session) (id : String) (descriptor : Descriptor) : Session :=
  let grammar := s.environment.grammar.register id descriptor
  { s with environment := { s.environment with grammar := grammar } }

/-- Registers a comparison. -/
def compareBy (s : Session) (property : String) (comparison : Comparison) : Session :=
  let comparisons := s.environment.comparisons.register property comparison
  { s with environment := { s.environment with comparisons := comparisons } }

/-- The answer to a request, and the session afterwards. -/
def step (s : Session) : Request → Answer × Session
  | .create name query => (.done, s.withQuery name query)
  | .orderBy name clause => s.change name (·.orderBy clause)
  | .ofType name recordType => s.change name (·.ofType recordType)
  | .withGrammar name grammar => s.change name (·.withGrammar grammar)
  | .copy name target =>
    match s.query? name with
    | some q => (.done, s.withQuery target q.copy)
    | none => (.missing, s)
  | .extend id descriptor => (.done, s.extend id descriptor)
  | .compareBy property comparison => (.done, s.compareBy property comparison)
  | .look name =>
    match s.query? name with
    | some q => (.query q, s)
    | none => (.missing, s)
  | .compile name => s.use name .compiled
  | .test name record params cache => s.test name record params cache
  | .compare name a b => s.use name fun c => .ordering (c.order s.environment.comparisons a b)

/-- The answers to several requests, and the session afterwards. -/
def run (s : Session) : List Request → List Answer × Session
  | [] => ([], s)
  | request :: rest =>
    let (answer, s) := s.step request
    let (answers, s) := s.run rest
    (answer :: answers, s)

end Session

end RecordQuery
