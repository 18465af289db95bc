import RecordQuery.Binary64
import RecordQuery.Integer64

/-!
# Numerals

Reading numbers from text: 64-bit integers with an optional sign, and doubles, which may have a
sign, a fraction, an exponent, or be spelled `inf`, `infinity` or `nan` in any case. Digits are the
ten of ASCII. A numeral is read whole or not at all.

* `Numeral.integer?`: a signed integer, if it fits into 64 bits.
* `Numeral.double?`: a double, correctly rounded.
-/

namespace RecordQuery.Numeral

/-- One of the ten decimal digits. -/
def isDigit (c : Char) : Bool := '0' ≤ c && c ≤ '9'

/-- The number written by a list of digits, most significant first. -/
def value (digits : List Char) : Nat :=
  digits.foldl (fun n c => 10 * n + (c.toNat - '0'.toNat)) 0

/-- Splits off a sign; true is minus. -/
def sign : List Char → Bool × List Char
  | '-' :: r => (true, r)
  | '+' :: r => (false, r)
  | r => (false, r)

/-- An integer that has 64 bits. -/
def integer? (cs : List Char) : Option Int64 :=
  let (negative, digits) := sign cs
  if digits.isEmpty || !digits.all isDigit then none
  else Integer64.ofInt? (if negative then -(value digits : Int) else value digits)

/-- The magnitude of a spelled-out infinity or NaN. -/
def special? (cs : List Char) : Option Nat :=
  let word := String.ofList (cs.map Char.toLower)
  if word = "inf" ∨ word = "infinity" then some Binary64.infiniteMagnitude
  else if word = "nan" then some Binary64.quietMagnitude
  else none

/-- The exponent that ends a numeral; none is zero. -/
def exponent? : List Char → Option Int
  | [] => some 0
  | c :: r =>
    let (negative, digits) := sign r
    if (c != 'e' && c != 'E') || digits.isEmpty || !digits.all isDigit then none
    else some (if negative then -(value digits : Int) else value digits)

/-- The digits after a point, and what follows them. -/
def fraction : List Char → List Char × List Char
  | '.' :: r => (r.takeWhile isDigit, r.dropWhile isDigit)
  | r => ([], r)

/-- A double. A point may begin or end the digits but not stand alone. -/
def double? (cs : List Char) : Option Binary64 :=
  let (negative, r) := sign cs
  match special? r with
  | some magnitude => some (.ofMagnitude negative magnitude)
  | none =>
    let whole := r.takeWhile isDigit
    let (places, rest) := fraction (r.dropWhile isDigit)
    if whole.isEmpty && places.isEmpty then none
    else (exponent? rest).map fun e =>
      .ofDecimal negative (value (whole ++ places)) (e - places.length)

end RecordQuery.Numeral
