/-!
# White space

The property White_Space of the Unicode character database: the blanks that separate tokens and the
words of an ordering clause.
-/

namespace RecordQuery.Text

/-- Any of the 25 characters with the property White_Space. -/
def isWhiteSpace (c : Char) : Bool :=
  let n := c.toNat
  (0x9 ≤ n && n ≤ 0xD) || n == 0x20 || n == 0x85 || n == 0xA0 || n == 0x1680 ||
    (0x2000 ≤ n && n ≤ 0x200A) || n == 0x2028 || n == 0x2029 || n == 0x202F || n == 0x205F ||
    n == 0x3000

end RecordQuery.Text
