import RecordQuery.Decimal.Fixed
import RecordQuery.Integer64
import RecordQuery.Members

/-!
# Values

What properties, literals and parameters hold: null, booleans, 64-bit integers, doubles, strings,
arrays and objects. Integers and doubles are kept apart but compared as numbers.

* `Value.strictEq`: equality that tells integers from doubles.
* `Value.looseEq`: equality of the comparator `=`, where numbers are equal by value.
* `Value.order`: the order in which records are sorted, first by type and then within the type.
* `Properties`: values by name, as records and objects hold them.
-/

namespace RecordQuery

/-- A dynamic value. The members of an object are ordered by key and no key occurs twice. -/
inductive Value where
  /-- The null value, also what a missing property reads as. -/
  | null
  /-- True or false. -/
  | boolean (b : Bool)
  /-- A 64-bit integer. -/
  | integer (n : Int64)
  /-- A double. -/
  | float (x : Binary64)
  /-- A string. -/
  | string (s : String)
  /-- A list of values. -/
  | array (items : List Value)
  /-- Values by key. -/
  | object (members : List (String × Value))

/-- Values by name, in increasing order of the names. -/
abbrev Properties := Members Value

/-- The value with a name, null if there is none. -/
def Properties.get (properties : Properties) (name : String) : Value :=
  (Members.find? properties name).getD .null

namespace Value

/-! ### Types -/

/-- The name of a value's type, as error messages give it. -/
def typeName : Value → String
  | null => "null"
  | boolean _ => "boolean"
  | integer _ => "integer"
  | float _ => "float"
  | string _ => "string"
  | array _ => "array"
  | object _ => "object"

/-- The place of a value's type in the order of types; integers and doubles share one. -/
def rank : Value → Nat
  | null => 0
  | boolean _ => 1
  | integer _ | float _ => 2
  | string _ => 3
  | array _ => 4
  | object _ => 5

/-- The null value. -/
def isNull : Value → Bool
  | null => true
  | _ => false

/-- An integer or a double. -/
def isNumber : Value → Bool
  | integer _ | float _ => true
  | _ => false

/-- Whether a value counts as true: null, false, zeros, NaNs and the empty string do not. -/
def isTruthy : Value → Bool
  | null => false
  | boolean b => b
  | integer n => n != 0
  | float x => !x.isZero && !x.isNaN
  | string s => !s.isEmpty
  | array _ | object _ => true

/-- A number as a double. -/
def toBinary64? : Value → Option Binary64
  | integer n => some (.ofInt n.toInt)
  | float x => some x
  | _ => none

/-- The text of a string. -/
def text? : Value → Option String
  | string s => some s
  | _ => none

/-- A whole number: an integer if it has 64 bits, else the nearest double. -/
def ofInt (n : Int) : Value :=
  match Integer64.ofInt? n with
  | some i => integer i
  | none => float (.ofInt n)

/-! ### Numbers -/

/-- Compares an integer with a double as fixed-point decimals, or as doubles if the double has no
    decimal. -/
def orderMixed (n : Int64) (x : Binary64) : Ordering :=
  match FixedDecimal.ofBinary64 x with
  | some d => (FixedDecimal.ofInt n.toInt).order d
  | none => (Binary64.ofInt n.toInt).order x

/-- Compares a double with an integer, as decimals or as doubles likewise. -/
def orderFloatFirst (x : Binary64) (n : Int64) : Ordering :=
  match FixedDecimal.ofBinary64 x with
  | some d => d.order (FixedDecimal.ofInt n.toInt)
  | none => x.order (Binary64.ofInt n.toInt)

/-- Compares two numbers. All other values are equal here. -/
def orderNumbers : Value → Value → Ordering
  | integer a, integer b => compare a.toInt b.toInt
  | float a, float b => a.order b
  | integer a, float b => orderMixed a b
  | float a, integer b => orderFloatFirst a b
  | _, _ => .eq

/-! ### Equality -/

mutual

/-- Equality that tells an integer from a double of the same value. A NaN equals nothing. -/
def strictEq : Value → Value → Bool
  | null, null => true
  | boolean a, boolean b => a == b
  | integer a, integer b => a == b
  | float a, float b => a.equals b
  | string a, string b => a == b
  | array a, array b => strictEqItems a b
  | object a, object b => strictEqMembers a b
  | _, _ => false

/-- Strict equality of lists, item by item. -/
def strictEqItems : List Value → List Value → Bool
  | [], [] => true
  | a :: as, b :: bs => strictEq a b && strictEqItems as bs
  | _, _ => false

/-- Strict equality of members: the same keys with equal values. -/
def strictEqMembers : List (String × Value) → List (String × Value) → Bool
  | [], [] => true
  | (k, a) :: as, (l, b) :: bs => k == l && strictEq a b && strictEqMembers as bs
  | _, _ => false

end

mutual

/-- Equality of the comparator `=`: numbers are equal by value, arrays item by item, and all else
    strictly. -/
def looseEq : Value → Value → Bool
  | array a, array b => looseEqItems a b
  | a, b => if a.isNumber && b.isNumber then orderNumbers a b == .eq else strictEq a b

/-- Loose equality of lists, item by item. -/
def looseEqItems : List Value → List Value → Bool
  | [], [] => true
  | a :: as, b :: bs => looseEq a b && looseEqItems as bs
  | _, _ => false

end

/-! ### Order -/

mutual

/-- The default order: by type, then booleans with false first, numbers by value, strings by their
    characters, arrays by the first items that differ and then by length, and objects by their
    number of members. -/
def order : Value → Value → Ordering
  | boolean a, boolean b => compare a b
  | string a, string b => compare a b
  | array a, array b => orderItems a b
  | object a, object b => compare a.length b.length
  | a, b => if a.isNumber && b.isNumber then orderNumbers a b else compare a.rank b.rank

/-- The order of arrays. -/
def orderItems : List Value → List Value → Ordering
  | [], [] => .eq
  | [], _ :: _ => .lt
  | _ :: _, [] => .gt
  | a :: as, b :: bs => (order a b).then (orderItems as bs)

end

end Value

end RecordQuery
