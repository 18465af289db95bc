import RecordQuery.Batch
import RecordQuery.Json.Reader

/-!
# Checking documents

A condition run on a JSON document: an array of objects, each of which is a record.

* `Json.toRecords`: the records of a document.
* `CheckOptions.check`: the objects that match, in the order of the clause.
-/

namespace RecordQuery

/-- Why a document is no list of records. -/
inductive InputError where
  /-- It is not an array. -/
  | notArray
  /-- An element is not an object; the first such one. -/
  | notObject (index : Nat)

/-- The wording of an input error. -/
def InputError.message : InputError → String
  | notArray => "expected a JSON array of objects"
  | notObject index => "element " ++ toString index ++ " is not an object"

/-- Why a check gives no records. -/
inductive CheckError where
  /-- The condition is no tree. -/
  | build (cause : BuildError)
  /-- The condition has no value on some record. -/
  | eval (cause : EvalError)
  /-- A text is not JSON. -/
  | json
  /-- There is no input. -/
  | noInput
  /-- The input is no list of records. -/
  | invalidInput (cause : InputError)
  /-- The parameters are neither an array nor an object. -/
  | invalidParams

/-- The wording of an error. -/
def CheckError.message : CheckError → String
  | build cause => "Build error: " ++ cause.message
  | eval cause => "Evaluation error: " ++ cause.message
  | json => "Invalid JSON"
  | noInput => "No input provided. Use --input or pipe JSON to stdin."
  | invalidInput cause => "Invalid input: " ++ cause.message
  | invalidParams =>
    "Invalid parameters: expected a JSON array (for %@) or object (for \x7bname\x7d)"

/-- The record of an element at an index. Its `guid` is its identifier, or else the index. -/
def StoredRecord.ofElement? (index : Nat) (item : Json) : Option StoredRecord :=
  let id := match item.member? "guid" with
    | some guid => guid.toValue
    | none => .ofInt index
  StoredRecord.ofJson? id item

namespace Json

/-- The records of elements from an index on, put before those read already, last first. -/
def readRecords (read : List StoredRecord) (index : Nat) :
    List Json → Except InputError (List StoredRecord)
  | [] => .ok read.reverse
  | item :: rest =>
    match StoredRecord.ofElement? index item with
    | some record => readRecords (record :: read) (index + 1) rest
    | none => .error (.notObject index)

/-- The records of a document, which is an array of objects. -/
def toRecords : Json → Except InputError (List StoredRecord)
  | array items => readRecords [] 0 items
  | _ => .error .notArray

end Json

/-- What a check is asked to do. -/
structure CheckOptions where
  /-- The condition. -/
  conditions : String
  /-- The ordering clause. -/
  clause : Option String := none
  /-- The text of the document. -/
  input : Option String := none
  /-- The text of the parameters. -/
  params : Option String := none
  /-- Write the result with one item a line. -/
  pretty : Bool := false
  /-- Do not run the condition. -/
  compileOnly : Bool := false

/-- What a check gives. -/
inductive CheckResult where
  /-- The condition is a tree; nothing was run. -/
  | valid
  /-- The objects that match. -/
  | output (json : Json)

namespace CheckOptions

/-- The parameters with a text. -/
def readParams : Option String → Except CheckError Params
  | none => .ok .none
  | some text =>
    match Json.ofText? text with
    | none => .error .json
    | some json =>
      match Params.ofJson? json with
      | some params => .ok params
      | .none => .error .invalidParams

/-- The records with a text. -/
def readInput : Option String → Except CheckError (List StoredRecord)
  | none => .error .noInput
  | some text =>
    match Json.ofText? text with
    | none => .error .json
    | some json => json.toRecords.mapError .invalidInput

/-- The query of the options. -/
def query (o : CheckOptions) : Query := { conditions := o.conditions, clause := o.clause }

/-- Runs a check. The condition is looked at first, then the parameters, and the input last. The
    records are the objects by their indices in the document. -/
def check (o : CheckOptions) (env : Environment) : Except CheckError CheckResult :=
  match o.query.buildError? env with
  | some e => .error (.build e)
  | none =>
    if o.compileOnly then .ok .valid
    else do
      let params ← readParams o.params
      let records := (← readInput o.input).toArray
      let source := Source.ofArray (records.map StoredRecord.view)
      let keys ← (o.query.filterAndSort env none source params).mapError .eval
      let found := keys.filterMap fun key => records[key]?
      return .output (.array (found.map StoredRecord.toJson))

end CheckOptions

end RecordQuery
