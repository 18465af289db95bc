import RecordQuery.EvalError

/-!
# Records and parameters

A record is anything that answers for its properties. Conditions and ordering clauses only read it.

* `Record`: the view of a record that everything else uses.
* `StoredRecord`: an identifier, an optional type and properties, and its view.
* `Params`: the values for wildcards and named parameters.
-/

namespace RecordQuery

/-- What a query reads of a record. -/
structure Record where
  /-- The value of a property, null if it is missing. -/
  get : String → Value
  /-- The identifier, which decides between records that are otherwise equal. -/
  id : Value
  /-- The type. -/
  type? : Option String

/-- A plain set of properties as a record: its `guid` is its identifier and it has no type. -/
def Record.ofProperties (properties : Properties) : Record :=
  { get := properties.get, id := properties.get "guid", type? := none }

/-- A record with its properties. -/
structure StoredRecord where
  /-- The identifier. -/
  id : Value
  /-- The type. -/
  type? : Option String := none
  /-- The properties. -/
  properties : Properties := []

/-- The view of a stored record. -/
def StoredRecord.view (r : StoredRecord) : Record :=
  { get := r.properties.get, id := r.id, type? := r.type? }

/-- The values supplied with a condition. -/
inductive Params where
  /-- No values. -/
  | none
  /-- Values for the wildcards, by position. -/
  | positional (values : List Value)
  /-- Values for the named parameters. -/
  | named (values : Properties)

namespace Params

/-- The value of the wildcard at a position. -/
def wildCard (params : Params) (position : Nat) : Except EvalError Value :=
  match params with
  | none => .error (.missingWildCard position)
  | positional values =>
    match values[position]? with
    | some value => .ok value
    | .none => .error (.missingWildCard position)
  | named _ => .error (.parameterForm .positional .named)

/-- The value of a named parameter. -/
def parameter (params : Params) (name : String) : Except EvalError Value :=
  match params with
  | none => .error (.undefinedParameter name)
  | positional _ => .error (.parameterForm .named .positional)
  | named values =>
    match Members.find? values name with
    | some value => .ok value
    | .none => .error (.undefinedParameter name)

end Params

end RecordQuery
