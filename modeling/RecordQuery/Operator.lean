import RecordQuery.Pattern.Search
import RecordQuery.PatternCache
import RecordQuery.Record

/-!
# Operators

What a token does when a condition is evaluated: leaves read the record, the parameters or their
own literal, the other operators combine the values of their operands. A caller can add operators
of its own as functions (`Operator.extension`).

* `Operator.apply`: the value of a token from the values of its operands.
-/

namespace RecordQuery

/-- What a condition is evaluated against. -/
structure Context where
  /-- The record. -/
  record : Record
  /-- The parameters. -/
  params : Params := .none
  /-- The patterns read so far, if they are kept. -/
  patterns : Option PatternCache := none

/-- What an extension is applied to. -/
structure Operands where
  /-- The literal of the extension's own token. -/
  literal : Literal
  /-- The value on the left, if there is an operand. -/
  left : Option Value
  /-- The value on the right, if there is an operand. -/
  right : Option Value

/-- The meaning of an operator that a caller adds. -/
abbrev Extension := Operands → Context → Except EvalError Value

/-- What a token does when evaluated. -/
inductive Operator where
  /-- Reads the named property of the record. -/
  | property
  /-- The token's own literal. -/
  | literal
  /-- The named parameter. -/
  | namedParameter
  /-- The positional parameter. -/
  | wildCard
  /-- Null. -/
  | null
  /-- True or false. -/
  | boolean (b : Bool)
  /-- Both operands are truthy. -/
  | and
  /-- Some operand is truthy. -/
  | or
  /-- The right operand is not truthy. -/
  | not
  /-- Loose equality. -/
  | equal
  /-- The negation of loose equality. -/
  | notEqual
  /-- Less than. -/
  | lessThan
  /-- Less than or equal. -/
  | lessEqual
  /-- Greater than. -/
  | greaterThan
  /-- Greater than or equal. -/
  | greaterEqual
  /-- A string starts with another. -/
  | beginsWith
  /-- A string ends with another. -/
  | endsWith
  /-- An array holds a value. -/
  | any
  /-- A pattern matches somewhere in a string. -/
  | matchesPattern
  /-- The record has a type. -/
  | typeIs
  /-- A meaning supplied by the caller. -/
  | extension (meaning : Extension)

namespace Operator

/-- Compares by `<`, `<=`, `>` or `>=`: numbers, strings and booleans with their own kind. A null
    on either side is not ordered and gives false. -/
def ordered (symbol : String) (accept : Ordering → Bool) (l r : Value) : Except EvalError Value :=
  match l, r with
  | .null, _ => .ok (.boolean false)
  | _, .null => .ok (.boolean false)
  | .string a, .string b => .ok (.boolean (accept (compare a b)))
  | .boolean a, .boolean b => .ok (.boolean (accept (compare a b)))
  | l, r =>
    if l.isNumber && r.isNumber then .ok (.boolean (accept (l.orderNumbers r)))
    else .error (.typeError (.incomparable l.typeName symbol r.typeName))

/-- Applies a test to two strings. -/
def onStrings (name : String) (test : String → String → Bool) (l r : Value) :
    Except EvalError Value :=
  match l, r with
  | .string a, .string b => .ok (.boolean (test a b))
  | l, r => .error (.typeError (.notStrings name l.typeName r.typeName))

/-- Whether `s` starts with `start`. -/
def startsWith (s start : String) : Bool := start.toList.isPrefixOf s.toList

/-- Whether `s` ends with `tail`. -/
def endsIn (s tail : String) : Bool := tail.toList.isSuffixOf s.toList

/-- Membership in an array, by loose equality. -/
def membership (needle items : Value) : Except EvalError Value :=
  match items with
  | .array items => .ok (.boolean (items.any needle.looseEq))
  | other => .error (.typeError (.notArray other.typeName))

/-- Whether the record has the named type. -/
def typeTest (record : Record) (name : Value) : Except EvalError Value :=
  match name with
  | .string name => .ok (.boolean (record.type? == some name))
  | other => .error (.typeError (.notTypeName other.typeName))

/-- Whether a pattern matches somewhere in a string, and the patterns kept afterwards. -/
def matchPattern (patterns : Option PatternCache) (l r : Value) :
    Except EvalError Value × Option PatternCache :=
  match l, r with
  | .string s, .string text =>
    let (pattern, patterns) := PatternCache.resolve patterns text
    (pattern.map fun p => .boolean (p.isMatch s.toList), patterns)
  | l, r => (.error (.typeError (.notStrings "MATCHES" l.typeName r.typeName)), patterns)

/-- The value of an operator other than pattern matching. -/
def value (op : Operator) (literal : Literal) (left right : Option Value) (ctx : Context) :
    Except EvalError Value :=
  let l := left.getD .null
  let r := right.getD .null
  match op with
  | property => .ok (ctx.record.get literal.display)
  | .literal => .ok literal.value
  | namedParameter => ctx.params.parameter literal.display
  | wildCard =>
    match literal with
    | .position n => ctx.params.wildCard n
    | other => .error (.typeError (.noPosition other))
  | null => .ok .null
  | boolean b => .ok (.boolean b)
  | and => .ok (.boolean (l.isTruthy && r.isTruthy))
  | or => .ok (.boolean (l.isTruthy || r.isTruthy))
  | not => .ok (.boolean !r.isTruthy)
  | equal => .ok (.boolean (l.looseEq r))
  | notEqual => .ok (.boolean !l.looseEq r)
  | lessThan => ordered "<" (·.isLT) l r
  | lessEqual => ordered "<=" (·.isLE) l r
  | greaterThan => ordered ">" (·.isGT) l r
  | greaterEqual => ordered ">=" (·.isGE) l r
  | beginsWith => onStrings "BEGINS_WITH" startsWith l r
  | endsWith => onStrings "ENDS_WITH" endsIn l r
  | any => membership l r
  | matchesPattern => (matchPattern none l r).1
  | typeIs => typeTest ctx.record r
  | extension meaning => meaning ⟨literal, left, right⟩ ctx

/-- Applies an operator to a token's literal and the values of its operands; an operand that is
    missing counts as null. Also gives the patterns kept afterwards. -/
def apply (op : Operator) (literal : Literal) (left right : Option Value) (ctx : Context) :
    Except EvalError Value × Option PatternCache :=
  match op with
  | matchesPattern => matchPattern ctx.patterns (left.getD .null) (right.getD .null)
  | op => (op.value literal left right ctx, ctx.patterns)

end Operator

end RecordQuery
