import RecordQuery.Decimal.Numeral
import RecordQuery.Grammar

/-!
# The standard grammar

The condition language as it comes: properties, numbers, strings in either kind of quote, named
parameters in braces, wildcards `%@`, parentheses, `AND`, `OR` and `NOT`, the comparators, and the
constants. Runs of other characters are scanned as unknown tokens, among which the reserved words
pick out the comparators in punctuation and the wildcard.
-/

namespace RecordQuery.Grammar

open RecordQuery.Numeral (isDigit)
open RecordQuery.Text

/-- A character that can start the name of a property. -/
def isNameStart (c : Char) : Bool :=
  ('a' ≤ c && c ≤ 'z') || ('A' ≤ c && c ≤ 'Z') || c == '_'

/-- A character of a name. -/
def isNameChar (c : Char) : Bool := isNameStart c || isDigit c

/-- A quote. -/
def isQuote (c : Char) : Bool := c == '\'' || c == '"'

/-- A parenthesis or brace. -/
def isBracket (c : Char) : Bool := c == '(' || c == ')' || c == '\x7b' || c == '\x7d'

/-- Anything that neither separates tokens nor belongs to a name, a string or a bracket. -/
def isPunctuation (c : Char) : Bool :=
  !(isWhiteSpace c || isQuote c || isNameChar c || isBracket c)

/-- Digits, or digits on both sides of a point. -/
def isNumeral (text : List Char) : Bool :=
  !(text.takeWhile isDigit).isEmpty &&
    match text.dropWhile isDigit with
    | [] => true
    | '.' :: places => !places.isEmpty && places.all isDigit
    | _ => false

/-- The descriptors recognised by their first character. -/
def scanned : List Descriptor :=
  [ { id := "unknown", kind := .unknown
      firstChar := some isPunctuation, stopChar := some fun c => !isPunctuation c },
    { id := "record_property", kind := .property
      firstChar := some isNameStart, stopChar := some fun c => !isNameChar c
      result := some .primitive, operator := some .property },
    { id := "number", kind := .number
      firstChar := some isDigit, stopChar := some fun c => !(isDigit c || c == '.')
      format := some isNumeral, result := some .primitive, operator := some .literal },
    { id := "string", kind := .string, firstChar := some isQuote, delimited := true
      result := some .primitive, operator := some .literal },
    { id := "parameter", kind := .parameter, firstChar := some (· == '\x7b'), delimited := true
      closing := some '\x7d', result := some .primitive, operator := some .namedParameter } ]

/-- The wildcard and the parentheses. -/
def marks : List Descriptor :=
  [ { id := "wild_card", kind := .wildCard, reservedWord := some "%@", counted := true
      result := some .primitive, operator := some .wildCard },
    { id := "open_parenthesis", kind := .openParen, firstChar := some (· == '('), single := true },
    { id := "close_parenthesis", kind := .closeParen, firstChar := some (· == ')')
      single := true } ]

/-- The boolean operators. -/
def booleanOperators : List Descriptor :=
  [ { Descriptor.booleanOperator "AND" .and with id := "and" },
    { Descriptor.booleanOperator "OR" .or with id := "or" },
    { Descriptor.booleanOperator "NOT" .not with id := "not", left := none } ]

/-- The comparators. -/
def comparators : List Descriptor :=
  [ { Descriptor.comparator "=" .equal with id := "equals" },
    { Descriptor.comparator "!=" .notEqual with id := "not_equals" },
    { Descriptor.comparator "<" .lessThan with id := "lesser" },
    { Descriptor.comparator "<=" .lessEqual with id := "lesser_equals" },
    { Descriptor.comparator ">" .greaterThan with id := "greater" },
    { Descriptor.comparator ">=" .greaterEqual with id := "greater_equals" },
    { Descriptor.comparator "BEGINS_WITH" .beginsWith with id := "begins_with" },
    { Descriptor.comparator "ENDS_WITH" .endsWith with id := "ends_with" },
    { Descriptor.comparator "ANY" .any with id := "any" },
    { Descriptor.comparator "MATCHES" .matchesPattern with id := "matches" },
    { Descriptor.comparator "TYPE_IS" .typeIs with id := "type_is", left := none } ]

/-- A constant, registered under its own spelling. -/
def constant (word : String) (kind : TokenKind) (operator : Operator) : Descriptor :=
  { id := word, kind := kind, reservedWord := some word, result := some .primitive
    operator := some operator }

/-- The constants. -/
def constants : List Descriptor :=
  [ constant "null" .null .null, constant "undefined" .null .null,
    constant "false" .boolVal (.boolean false), constant "true" .boolVal (.boolean true) ]

/-- The condition language without extensions. -/
def standard : Grammar :=
  ⟨scanned ++ marks ++ booleanOperators ++ comparators ++ constants⟩

end RecordQuery.Grammar
