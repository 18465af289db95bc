import RecordQuery.Record

/-!
# JSON documents

A JSON document as data, and how it corresponds to values, parameters and records. Integers are
kept apart from other numbers; a document has them from `-2 ^ 63` to `2 ^ 64 - 1`, a value only up
to `2 ^ 63 - 1`.

* `Json.toValue`, `Json.ofValue`: documents as values and back.
* `Params.ofJson?`: parameters from an array or an object.
* `StoredRecord.ofJson?`, `StoredRecord.toJson`: records as objects.
-/

namespace RecordQuery

/-- A JSON document. The members of an object are ordered by key and no key occurs twice. -/
inductive Json where
  /-- Null. -/
  | null
  /-- True or false. -/
  | bool (b : Bool)
  /-- A number written as an integer. -/
  | integer (n : Int)
  /-- Any other number. -/
  | real (x : Binary64)
  /-- A string. -/
  | string (s : String)
  /-- An array. -/
  | array (items : List Json)
  /-- An object. -/
  | object (members : List (String × Json))

namespace Json

/-- The member of an object with a key. -/
def member? : Json → String → Option Json
  | object members, key => Members.find? members key
  | _, _ => none

mutual

/-- A document as a value. Integers beyond 64 bits become the nearest double. -/
def toValue : Json → Value
  | null => .null
  | bool b => .boolean b
  | integer n => .ofInt n
  | real x => .float x
  | string s => .string s
  | array items => .array (toValues items)
  | object members => .object (toProperties members)

/-- Documents as values. -/
def toValues : List Json → List Value
  | [] => []
  | item :: rest => toValue item :: toValues rest

/-- Members as properties. -/
def toProperties : List (String × Json) → List (String × Value)
  | [] => []
  | (key, item) :: rest => (key, toValue item) :: toProperties rest

end

mutual

/-- A value as a document. Infinities and NaNs become null. -/
def ofValue : Value → Json
  | .null => null
  | .boolean b => bool b
  | .integer n => integer n.toInt
  | .float x => if x.isFinite then real x else null
  | .string s => string s
  | .array items => array (ofValues items)
  | .object members => object (ofProperties members)

/-- Values as documents. -/
def ofValues : List Value → List Json
  | [] => []
  | item :: rest => ofValue item :: ofValues rest

/-- Properties as members. -/
def ofProperties : List (String × Value) → List (String × Json)
  | [] => []
  | (key, item) :: rest => (key, ofValue item) :: ofProperties rest

end

end Json

/-- Parameters from a document: an array gives them by position and an object by name. -/
def Params.ofJson? : Json → Option Params
  | .array items => some (.positional (Json.toValues items))
  | .object members => some (.named (Json.toProperties members))
  | _ => .none

namespace StoredRecord

/-- The record type that an object states, if its `type` is a string. -/
def typeOf? (json : Json) : Option String :=
  match json.member? "type" with
  | some (.string t) => some t
  | _ => none

/-- The record with an identifier that an object describes. -/
def ofJson? (id : Value) (json : Json) : Option StoredRecord :=
  match json with
  | .object members =>
    some { id := id, type? := typeOf? json, properties := Json.toProperties members }
  | _ => none

/-- The properties of a record as an object. -/
def toJson (r : StoredRecord) : Json := .object (Json.ofProperties r.properties)

end StoredRecord

end RecordQuery
