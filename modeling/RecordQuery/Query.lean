import RecordQuery.Evaluation
import RecordQuery.Grammar.Standard
import RecordQuery.Ordering

/-!
# Queries

A condition with an optional ordering clause and an optional record type. A query is compiled when
it is first used, and stays compiled until its clause or its grammar is replaced. A query whose
condition is no tree is inert: it matches nothing and all records are equal under it.

* `Environment`: what all queries share, a grammar and comparisons.
* `Query.compiledIn`: what a query compiles to; `Query.compileIn` keeps it.
* `Compiled.test`, `Compiled.order`: matching and comparing records.
-/

namespace RecordQuery

/-- What queries share. -/
structure Environment where
  /-- The grammar of queries that have none of their own. -/
  grammar : Grammar := .standard
  /-- The comparisons registered for properties. -/
  comparisons : Comparisons := {}

/-- A compiled query. -/
structure Compiled where
  /-- The tree of the condition. -/
  tree : Except BuildError Node
  /-- The entries of the ordering clause. -/
  entries : List OrderEntry

namespace Compiled

/-- Compiles a condition and an ordering clause. -/
def ofText (g : Grammar) (conditions : String) (clause : Option String) : Compiled :=
  { tree := buildTree (g.tokenize conditions), entries := OrderEntry.ofClause clause }

/-- Whether a record matches, and the patterns kept afterwards. -/
def test (c : Compiled) (ctx : Context) : Except EvalError Bool × Option PatternCache :=
  match c.tree with
  | .ok tree => tree.holds ctx
  | .error _ => (.ok false, ctx.patterns)

/-- Compares two records by the ordering clause and then by id. -/
def order (c : Compiled) (cs : Comparisons) (a b : Record) : Ordering :=
  match c.tree with
  | .ok _ => cs.order c.entries a b
  | .error _ => .eq

/-- A copy. -/
def copy (c : Compiled) : Compiled := { c with tree := c.tree.map Node.copy }

end Compiled

/-- A query. -/
structure Query where
  /-- The condition. -/
  conditions : String
  /-- The ordering clause. -/
  clause : Option String := none
  /-- The record type that batches are restricted to. -/
  recordType : Option String := none
  /-- The grammar, if it is not the shared one. -/
  grammar : Option Grammar := none
  /-- What the query compiled to, once it has been used. -/
  compiled : Option Compiled := none

namespace Query

/-- Another ordering clause. -/
def orderBy (q : Query) (clause : String) : Query :=
  { q with clause := some clause, compiled := none }

/-- Another record type, which does not affect what the query compiled to. -/
def ofType (q : Query) (recordType : String) : Query := { q with recordType := some recordType }

/-- Another grammar. -/
def withGrammar (q : Query) (grammar : Grammar) : Query :=
  { q with grammar := some grammar, compiled := none }

/-- What a query compiles to, or compiled to when it was first used. -/
def compiledIn (q : Query) (env : Environment) : Compiled :=
  q.compiled.getD (.ofText (q.grammar.getD env.grammar) q.conditions q.clause)

/-- Keeps what a query compiles to. -/
def compileIn (q : Query) (env : Environment) : Query :=
  { q with compiled := some (q.compiledIn env) }

/-- A copy, compiled if the query is. -/
def copy (q : Query) : Query := { q with compiled := q.compiled.map Compiled.copy }

/-- Why a query does not compile. -/
def buildError? (q : Query) (env : Environment) : Option BuildError :=
  match (q.compiledIn env).tree with
  | .ok _ => none
  | .error e => some e

end Query

end RecordQuery
