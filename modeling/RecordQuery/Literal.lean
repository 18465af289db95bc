import RecordQuery.Decimal.Style
import RecordQuery.Text.Quoted
import RecordQuery.Value

/-!
# Literals

What a token carries besides its class: text, a number, or the position of a counted token.

* `Literal.display`: the text that messages show.
* `Literal.describe`: the text with the kind of the literal, as trees are written.
-/

namespace RecordQuery

/-- The literal of a token. -/
inductive Literal where
  /-- Text: names, strings, spellings of operators. -/
  | text (s : String)
  /-- An integer. -/
  | integer (n : Int64)
  /-- A double. -/
  | float (x : Binary64)
  /-- How many tokens of the same kind came before. -/
  | position (n : Nat)

namespace Literal

/-- Numbers in messages have no exponent, and no point if they are whole. -/
def plainStyle : Decimal.Style :=
  { tie := .up, positional := fun _ => true, pointZero := false, plusSign := false }

/-- Numbers in trees always show a point or an exponent; below `10 ^ -4` and from `10 ^ 16` on it
    is an exponent. -/
def pointedStyle : Decimal.Style :=
  { tie := .up, positional := fun e => -4 ≤ e && e < 16, pointZero := true, plusSign := false }

/-- The text of a literal. -/
def display : Literal → String
  | text s => s
  | integer n => toString n.toInt
  | float x => plainStyle.render x
  | position n => "%@#" ++ toString n

/-- A literal with its kind. -/
def describe : Literal → String
  | text s => "Text(" ++ Text.quote s ++ ")"
  | integer n => "Integer(" ++ toString n.toInt ++ ")"
  | float x => "Float(" ++ pointedStyle.render x ++ ")"
  | position n => "Position(" ++ toString n ++ ")"

/-- Equality of literals; floats are equal as numbers. -/
def equals : Literal → Literal → Bool
  | text a, text b => a == b
  | integer a, integer b => a == b
  | float a, float b => a.equals b
  | position a, position b => a == b
  | _, _ => false

/-- The value of a literal. -/
def value : Literal → Value
  | text s => .string s
  | integer n => .integer n
  | float x => .float x
  | position n => .ofInt n

end Literal

end RecordQuery
