import RecordQuery.Decimal.Numeral
import RecordQuery.Json

/-!
# Reading JSON

From text to a document. The text is read whole or not at all: no comments, no trailing commas, no
control characters or lone surrogates in strings, and no number without digits on both sides of its
point. Nesting ends at 127 arrays and objects.

A number that is not an integer is gathered into a 64-bit significand, which digits that have no
room leave as it is, and scaled by one power of ten (`Json.scale`). Numbers too large for a double
are refused.

* `Json.ofText?`: the document with a text.
-/

namespace RecordQuery.Json

open RecordQuery.Numeral (isDigit)

/-- Drops blanks between the parts of a document. -/
def skipBlank : List Char → List Char
  | [] => []
  | c :: rest =>
    if c == ' ' || c == '\n' || c == '\t' || c == '\r' then skipBlank rest else c :: rest

/-! ### Numbers -/

/-- The double nearest to `10 ^ n`. -/
def powerOfTen (n : Nat) : Binary64 := .ofDecimal false 1 n

/-- Divides by `10 ^ n`, in steps of at most 308. -/
def scaleDown (x : Binary64) (n : Nat) : Binary64 :=
  if n ≤ 308 then x.div (powerOfTen n)
  else if x.isZero then x
  else scaleDown (x.div (powerOfTen 308)) (n - 308)
termination_by n
decreasing_by omega

/-- The double for `significand * 10 ^ exponent`: the significand and the power of ten are rounded,
    and so is their product or quotient. -/
def scale (significand : Nat) (exponent : Int) : Option Binary64 :=
  let x := Binary64.ofInt significand
  if exponent < 0 then some (scaleDown x (-exponent).toNat)
  else if exponent ≤ 308 then
    let y := x.mul (powerOfTen exponent.toNat)
    if y.isFinite then some y else none
  else if x.isZero then some x else none

/-- Significands lie below this limit, `2 ^ 64`. -/
def significandLimit : Nat := 0x10000000000000000

/-- Takes digits into a significand as long as it stays below the limit: the significand, how many
    digits were taken, and how many of the run were not. -/
def gather (significand taken : Nat) : List Char → Nat × Nat × Nat
  | [] => (significand, taken, 0)
  | c :: rest =>
    let next := 10 * significand + (c.toNat - '0'.toNat)
    if next < significandLimit then gather next (taken + 1) rest
    else (significand, taken, rest.length + 1)

/-- Reads an exponent after its letter. -/
def readExponent (cs : List Char) : Option (Int × List Char) :=
  let (negative, cs) := Numeral.sign cs
  let digits := cs.takeWhile isDigit
  let n := Numeral.value digits
  if digits.isEmpty then none
  else some (if negative then -(n : Int) else n, cs.dropWhile isDigit)

/-- Reads what may follow the significand of a number that is not an integer. -/
def readScaled (significand : Nat) (exponent : Int) (cs : List Char) :
    Option (Binary64 × List Char) :=
  match cs with
  | c :: rest =>
    if c = 'e' ∨ c = 'E' then do
      let (e, rest) ← readExponent rest
      return (← scale significand (exponent + e), rest)
    else (scale significand exponent).map (·, c :: rest)
  | [] => (scale significand exponent).map (·, [])

/-- Reads a number without its sign: an integer, or a double if there is a point, an exponent, or
    no room for all digits. -/
def readUnsigned (cs : List Char) : Option ((Nat ⊕ Binary64) × List Char) :=
  let digits := cs.takeWhile isDigit
  let rest := cs.dropWhile isDigit
  let (significand, _, dropped) := gather 0 0 digits
  if digits.isEmpty || (digits.length != 1 && digits.head? == some '0') then none
  else
    match rest with
    | '.' :: rest =>
      let places := rest.takeWhile isDigit
      let (significand, taken, _) := gather significand 0 places
      if places.isEmpty then none
      else
        (readScaled significand ((dropped : Int) - taken) (rest.dropWhile isDigit)).map
          fun (x, rest) => (.inr x, rest)
    | c :: _ =>
      if dropped = 0 && c != 'e' && c != 'E' then some (.inl significand, rest)
      else (readScaled significand dropped rest).map fun (x, rest) => (.inr x, rest)
    | [] =>
      if dropped = 0 then some (.inl significand, [])
      else (scale significand dropped).map fun x => (.inr x, [])

/-- Reads a number. Minus zero is a double, and so is an integer below `-2 ^ 63`. -/
def readNumber (cs : List Char) : Option (Json × List Char) :=
  match cs with
  | '-' :: rest =>
    (readUnsigned rest).map fun
      | (.inl n, rest) =>
        (if 0 < n ∧ n ≤ Integer64.limit then integer (-(n : Int))
          else real (Binary64.ofInt n).neg, rest)
      | (.inr x, rest) => (real x.neg, rest)
  | cs =>
    (readUnsigned cs).map fun
      | (.inl n, rest) => (integer n, rest)
      | (.inr x, rest) => (real x, rest)

/-! ### Strings -/

/-- The value of a hexadecimal digit. -/
def hexDigit? (c : Char) : Option Nat :=
  if isDigit c then some (c.toNat - '0'.toNat)
  else if 'a' ≤ c ∧ c ≤ 'f' then some (c.toNat - 'a'.toNat + 10)
  else if 'A' ≤ c ∧ c ≤ 'F' then some (c.toNat - 'A'.toNat + 10)
  else none

/-- The value of four hexadecimal digits. -/
def hexUnit? (a b c d : Char) : Option Nat := do
  return 4096 * (← hexDigit? a) + 256 * (← hexDigit? b) + 16 * (← hexDigit? c) + (← hexDigit? d)

/-- The character that a letter after a backslash stands for. -/
def shortEscape? : Char → Option Char
  | '"' => some '"'
  | '\\' => some '\\'
  | '/' => some '/'
  | 'b' => some '\x08'
  | 'f' => some '\x0C'
  | 'n' => some '\n'
  | 'r' => some '\r'
  | 't' => some '\t'
  | _ => none

/-- Reads a string after its opening quote; the characters read so far come last first. Codes
    beyond the first plane are written as two surrogates. -/
def readString (read : List Char) : List Char → Option (String × List Char)
  | [] => none
  | '"' :: rest => some (String.ofList read.reverse, rest)
  | '\\' :: 'u' :: a :: b :: c :: d :: rest =>
    match hexUnit? a b c d with
    | none => none
    | some unit =>
      if unit < 0xD800 ∨ 0xDFFF < unit then readString (Char.ofNat unit :: read) rest
      else if 0xDC00 ≤ unit then none
      else
        match rest with
        | '\\' :: 'u' :: a :: b :: c :: d :: rest =>
          match hexUnit? a b c d with
          | none => none
          | some low =>
            if 0xDC00 ≤ low ∧ low ≤ 0xDFFF then
              let code := 0x10000 + 0x400 * (unit - 0xD800) + (low - 0xDC00)
              readString (Char.ofNat code :: read) rest
            else none
        | _ => none
  | '\\' :: c :: rest =>
    match shortEscape? c with
    | none => none
    | some c => readString (c :: read) rest
  | c :: rest => if c.toNat < 0x20 || c == '\\' then none else readString (c :: read) rest

/-! ### Documents -/

/-- A reader of a part of a document. -/
abbrev Reader := List Char → Option (Json × List Char)

/-- Reads the items of an array after its opening bracket, at most as many as there is fuel. -/
def readItems (reader : Reader) : Nat → List Json → Reader
  | 0, _, _ => none
  | fuel + 1, items, cs =>
    match reader cs with
    | none => none
    | some (item, rest) =>
      match skipBlank rest with
      | ',' :: rest => readItems reader fuel (item :: items) rest
      | ']' :: rest => some (array (item :: items).reverse, rest)
      | _ => none

/-- Reads the members of an object after its opening brace, at most as many as there is fuel. -/
def readMembers (reader : Reader) : Nat → List (String × Json) → Reader
  | 0, _, _ => none
  | fuel + 1, members, cs =>
    match skipBlank cs with
    | '"' :: rest =>
      match readString [] rest with
      | none => none
      | some (key, rest) =>
        match skipBlank rest with
        | ':' :: rest =>
          match reader rest with
          | none => none
          | some (item, rest) =>
            match skipBlank rest with
            | ',' :: rest => readMembers reader fuel ((key, item) :: members) rest
            | '}' :: rest => some (object (Members.ofList ((key, item) :: members).reverse), rest)
            | _ => none
        | _ => none
    | _ => none

/-- Reads a document nested at most `depth` deep. Each item or member is at least one character
    long, so the length of the text is fuel enough. -/
def readNested (fuel : Nat) : (depth : Nat) → Reader
  | depth, cs =>
    match skipBlank cs with
    | 'n' :: 'u' :: 'l' :: 'l' :: rest => some (null, rest)
    | 't' :: 'r' :: 'u' :: 'e' :: rest => some (bool true, rest)
    | 'f' :: 'a' :: 'l' :: 's' :: 'e' :: rest => some (bool false, rest)
    | '"' :: rest => (readString [] rest).map fun (s, rest) => (string s, rest)
    | '[' :: rest =>
      match depth with
      | 0 => none
      | depth + 1 =>
        match skipBlank rest with
        | ']' :: rest => some (array [], rest)
        | rest => readItems (readNested fuel depth) fuel [] rest
    | '{' :: rest =>
      match depth with
      | 0 => none
      | depth + 1 =>
        match skipBlank rest with
        | '}' :: rest => some (object [], rest)
        | rest => readMembers (readNested fuel depth) fuel [] rest
    | cs => readNumber cs

/-- How deep arrays and objects may be nested. -/
def depthLimit : Nat := 127

/-- The document with a text, nested at most `depth` deep. -/
def ofTextWithin? (depth : Nat) (text : String) : Option Json :=
  match readNested text.length depth text.toList with
  | some (json, rest) => if (skipBlank rest).isEmpty then some json else none
  | none => none

/-- The document with a text. -/
def ofText? (text : String) : Option Json := ofTextWithin? depthLimit text

end RecordQuery.Json
