import RecordQuery.Literal

/-!
# Evaluation errors

Why a condition has no value on a record: operands of the wrong type, parameters that are missing
or of the other form, patterns that are not well-formed, and tokens without a meaning. Every error
is a cause; `EvalError.message` words it.
-/

namespace RecordQuery

/-- How parameters are supplied. -/
inductive ParameterForm where
  /-- By position. -/
  | positional
  /-- By name. -/
  | named
deriving DecidableEq

/-- The word for a form. -/
def ParameterForm.name : ParameterForm → String
  | positional => "positional"
  | named => "named"

/-- Why operands do not suit an operator. Types are given by their names. -/
inductive TypeError where
  /-- A wildcard whose literal is not a position. -/
  | noPosition (literal : Literal)
  /-- Values of types that are not ordered with each other. -/
  | incomparable (left : String) (symbol : String) (right : String)
  /-- An operator on strings that has other operands. -/
  | notStrings (operator : String) (left right : String)
  /-- A membership test in something other than an array. -/
  | notArray (found : String)
  /-- A type test whose type name is not a string. -/
  | notTypeName (found : String)
  /-- A complaint of an extension, in its own words. -/
  | custom (text : String)

/-- The wording of a type error. -/
def TypeError.message : TypeError → String
  | noPosition literal => "wildcard token has no position: " ++ literal.display
  | incomparable left symbol right => "Cannot compare " ++ left ++ " " ++ symbol ++ " " ++ right
  | notStrings operator left right =>
    operator ++ " requires strings, got " ++ left ++ " and " ++ right
  | notArray found => "ANY requires an array on the right, got " ++ found
  | notTypeName found => "TYPE_IS requires a type name, got " ++ found
  | custom text => text

/-- Why a condition has no value. -/
inductive EvalError where
  /-- An operand of the wrong type. -/
  | typeError (cause : TypeError)
  /-- A named parameter that was not supplied. -/
  | undefinedParameter (name : String)
  /-- A wildcard beyond the positional parameters. -/
  | missingWildCard (position : Nat)
  /-- Parameters of another form than the condition uses. -/
  | parameterForm (expected supplied : ParameterForm)
  /-- The text of a pattern that is not well-formed. -/
  | invalidPattern (pattern : String)
  /-- A token whose descriptor has no operator. -/
  | notEvaluable (literal : Literal)

/-- The wording of an error. -/
def EvalError.message : EvalError → String
  | typeError cause => "Type error: " ++ cause.message
  | undefinedParameter name => "Undefined parameter: \x7b" ++ name ++ "\x7d was not supplied"
  | missingWildCard position =>
    "Missing wildcard parameter: no value at position " ++ toString position
  | parameterForm expected supplied =>
    "Parameter form mismatch: query uses " ++ expected.name ++ " parameters, " ++ supplied.name ++
      " were supplied"
  | invalidPattern pattern => "Invalid pattern: " ++ pattern
  | notEvaluable literal => "Not evaluable: '" ++ literal.display ++ "' has no operator"

end RecordQuery
