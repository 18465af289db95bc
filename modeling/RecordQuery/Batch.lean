import RecordQuery.Query

/-!
# Batches

Filtering and sorting the records of a collection with a query. Each record is looked up once, and
the patterns of the condition are kept for the whole batch.

* `Source`: a collection of records by key.
* `Query.filterAndSort`: the keys of the records that match, in order.
* `Query.sortKeys`: given keys in order.
* `Query.filterRecords`: the records of a list that match, in order.
-/

namespace RecordQuery

/-- A collection of records by key. -/
structure Source (κ : Type) where
  /-- The record under a key. -/
  find? : κ → Option Record
  /-- All keys. -/
  keys : List κ

namespace Source

/-- A list of records, by index. -/
def ofArray (records : Array Record) : Source Nat :=
  { find? := fun i => records[i]?, keys := List.range records.size }

/-- Records by name. -/
def ofMembers (records : Members Record) : Source String :=
  { find? := fun name => Members.find? records name, keys := records.map (·.1) }

/-- Whether there is a record under a key and it has the type. -/
def hasType {κ : Type} (s : Source κ) (recordType : String) (key : κ) : Bool :=
  (s.find? key).any fun record => record.type? == some recordType

/-- The keys of the records with a type. -/
def keysOfType {κ : Type} (s : Source κ) (recordType : String) : List κ :=
  s.keys.filter (s.hasType recordType)

/-- The record under a key, if there is one and it has not another type than the one wanted. -/
def findTyped? {κ : Type} (s : Source κ) (wanted : Option String) (key : κ) : Option Record :=
  match s.find? key with
  | none => none
  | some record => if wanted.all fun t => record.type? == some t then some record else none

end Source

namespace Compiled

/-- The items that have a record which matches, with their records, put before those selected
    already, last first. Patterns are kept from one record to the next and the first error ends the
    selection. -/
def select {α : Type} (c : Compiled) (find? : α → Option Record) (params : Params)
    (patterns : Option PatternCache) (selected : List (α × Record)) :
    List α → Except EvalError (List (α × Record))
  | [] => .ok selected.reverse
  | a :: rest =>
    match find? a with
    | none => c.select find? params patterns selected rest
    | some record =>
      match c.test { record := record, params := params, patterns := patterns } with
      | (.error e, _) => .error e
      | (.ok true, patterns) => c.select find? params patterns ((a, record) :: selected) rest
      | (.ok false, patterns) => c.select find? params patterns selected rest

/-- Sorts by the ordering clause, if there is one. -/
def sort {α : Type} (c : Compiled) (order : α → α → Ordering) (items : List α) : List α :=
  if c.entries.isEmpty then items else stableSort order items

/-- The items that have a record which matches, in the order of the clause. -/
def filterAndSort {α : Type} (c : Compiled) (cs : Comparisons) (find? : α → Option Record)
    (params : Params) (items : List α) : Except EvalError (List α) :=
  (c.select find? params (some {}) [] items).map fun selected =>
    (c.sort (fun a b => c.order cs a.2 b.2) selected).map (·.1)

end Compiled

namespace Query

/-- The keys of the records that match, in the order of the clause. Without given keys these are
    the keys of the source, restricted to the query's record type if it has one. -/
def filterAndSort {κ : Type} (q : Query) (env : Environment) (keys? : Option (List κ))
    (source : Source κ) (params : Params) : Except EvalError (List κ) :=
  let (keys, wanted) :=
    match keys? with
    | some keys => (keys, none)
    | none => (source.keys, q.recordType)
  (q.compiledIn env).filterAndSort env.comparisons (source.findTyped? wanted) params keys

/-- The order of keys: by their records, and keys without a record last. -/
def orderFound {κ : Type} (c : Compiled) (cs : Comparisons) (a b : κ × Option Record) :
    Ordering :=
  match a.2, b.2 with
  | some a, some b => c.order cs a b
  | some _, none => .lt
  | none, some _ => .gt
  | none, none => .eq

/-- Keys in the order of the clause; without a clause they stay as they are. -/
def sortKeys {κ : Type} (q : Query) (env : Environment) (keys : List κ) (source : Source κ) :
    List κ :=
  let c := q.compiledIn env
  (c.sort (orderFound c env.comparisons) (keys.map fun key => (key, source.find? key))).map (·.1)

/-- The records that match, in the order of the clause, each with what it was listed as. -/
def filterRecords {α : Type} (q : Query) (env : Environment) (view : α → Record) (items : List α)
    (params : Params) : Except EvalError (List α) :=
  (q.compiledIn env).filterAndSort env.comparisons (some ∘ view) params items

end Query

end RecordQuery
