import RecordQuery.Decimal.Shortest

/-!
# Written doubles

A double is written by its shortest decimal, positionally or with an exponent. A `Decimal.Style`
fixes what the formats disagree about: where positional notation ends, whether a whole number keeps
a point, and how an exponent looks.
-/

namespace RecordQuery.Decimal

/-- The choices that a format makes when it writes a double. -/
structure Style where
  /-- The decimal to take of two equally near ones. -/
  tie : Tie
  /-- Whether a number is written positionally, by the exponent of its leading digit. -/
  positional : Int → Bool
  /-- Whether a whole number written positionally ends in `.0`. -/
  pointZero : Bool
  /-- Whether an exponent that is not negative has a plus sign. -/
  plusSign : Bool

/-- The digits of a natural number. -/
def digitChars (n : Nat) : List Char := Nat.toDigits 10 n

/-- The text of an integer. -/
def intChars (n : Int) : List Char :=
  if n < 0 then '-' :: digitChars n.natAbs else digitChars n.natAbs

/-- `digits * 10 ^ exponent` with a point and no exponent. -/
def positionalChars (pointZero : Bool) (d : Decimal) : List Char :=
  let ds := digitChars d.digits
  if 0 ≤ d.exponent then
    ds ++ List.replicate d.exponent.toNat '0' ++ if pointZero then ['.', '0'] else []
  else
    let places := (-d.exponent).toNat
    if places < ds.length then ds.take (ds.length - places) ++ '.' :: ds.drop (ds.length - places)
    else '0' :: '.' :: (List.replicate (places - ds.length) '0' ++ ds)

/-- `digits * 10 ^ exponent` with one digit before the point and an exponent. -/
def scientificChars (plusSign : Bool) (d : Decimal) : List Char :=
  let ds := digitChars d.digits
  let e := d.exponent + ((ds.length : Int) - 1)
  let fraction := ds.drop 1
  ds.take 1 ++ (if fraction.isEmpty then [] else '.' :: fraction) ++
    'e' :: ((if plusSign && decide (0 ≤ e) then ['+'] else []) ++ intChars e)

/-- The text of a double that is not negative. -/
def Style.unsignedChars (style : Style) (x : Binary64) : List Char :=
  if x.magnitude = Binary64.infiniteMagnitude then ['i', 'n', 'f']
  else if x.isZero then if style.pointZero then ['0', '.', '0'] else ['0']
  else
    let d := shortest style.tie x
    if style.positional (d.exponent + (((digitChars d.digits).length : Int) - 1)) then
      positionalChars style.pointZero d
    else scientificChars style.plusSign d

/-- The text of a double in a style. A NaN has no sign. -/
def Style.render (style : Style) (x : Binary64) : String :=
  String.ofList <|
    if x.isNaN then ['N', 'a', 'N']
    else if x.negative then '-' :: style.unsignedChars x
    else style.unsignedChars x

end RecordQuery.Decimal
