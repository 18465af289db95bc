import RecordQuery.Pattern.Basic
import RecordQuery.Text.Age
import RecordQuery.Text.Boundary
import RecordQuery.Text.CaseFolding

/-!
# Escapes in patterns

What a backslash introduces: single characters, classes of characters (`\d`, `\p{Greek}`), and
assertions (`\b`). What an escape means depends on the flags in force.

* `Pattern.Flags`: the flags.
* `Pattern.readEscape`: the escape at the start of a text, and what follows it.
-/

namespace RecordQuery.Pattern

open RecordQuery.Text

/-- The settings that a pattern can change for its own parts. -/
structure Flags where
  /-- `i`: case does not matter. -/
  ignoreCase : Bool := false
  /-- `m`: the line anchors stop at every line. -/
  multiLine : Bool := false
  /-- `s`: the point accepts a line feed. -/
  dotAll : Bool := false
  /-- `u`: classes are those of Unicode; without it they are those of ASCII. -/
  unicode : Bool := true
  /-- `R`: a carriage return ends a line as well. -/
  crlf : Bool := false
  /-- `x`: blanks and comments in the pattern are skipped. -/
  verbose : Bool := false

/-! ### Blanks -/

/-- Drops blanks and comments, the latter from a number sign to the end of the line. -/
def dropBlank (comment : Bool) : List Char → List Char
  | [] => []
  | c :: cs =>
    if comment then dropBlank (c != '\n') cs
    else if isWhiteSpace c then dropBlank false cs
    else if c = '#' then dropBlank true cs
    else c :: cs

/-- Skips blanks if the flags say so. -/
def Flags.skip (f : Flags) (cs : List Char) : List Char :=
  if f.verbose then dropBlank false cs else cs

/-! ### Sets of characters -/

/-- The letters of ASCII. -/
def asciiLetters : List Char :=
  (List.range 26).flatMap fun i => [Char.ofNat (0x41 + i), Char.ofNat (0x61 + i)]

/-- The letter that differs from `c` in case, within ASCII. -/
def asciiPartner (c : Char) : Char := if c.isUpper then c.toLower else c.toUpper

/-- A set of characters, closed under case if case does not matter. -/
def Flags.fold (f : Flags) (set : CodePoints) : CodePoints :=
  if !f.ignoreCase then set
  else if f.unicode then CaseFolding.closure set
  else
    set ∪ .unions ((asciiLetters.filter set.contains).map fun c => .singleton (asciiPartner c))

/-- The complement of a set, or the set itself. Without Unicode a complement would accept parts of
    characters, so it is refused. -/
def Flags.negate (f : Flags) (negated : Bool) (set : CodePoints) : Option CodePoints :=
  if !negated then some set else if f.unicode then some set.complement else none

/-- Decimal digits. -/
def Flags.digit (f : Flags) : CodePoints :=
  if f.unicode then Category.decimalNumber else .between '0' '9'

/-- Blanks. -/
def Flags.space (f : Flags) : CodePoints :=
  if f.unicode then Property.whiteSpace else .ofText "9-D 20"

/-- Characters of a word. -/
def Flags.word (f : Flags) : CodePoints :=
  if f.unicode then Property.word else .ofText "30-39 41-5A 5F 61-7A"

/-- A position relative to words. -/
def Flags.edge (f : Flags) (edge : WordEdge) : Pattern := .look (.word f.unicode edge)

/-! ### Names of properties -/

/-- A name as properties are looked up by: in lower case, without blanks, hyphens, underscores,
    characters outside ASCII, and the word `is` at its start. -/
def looseName (name : List Char) : String :=
  let strip := fun (cs : List Char) =>
    (cs.filter fun c => c != ' ' && c != '_' && c != '-' && c.toNat < 0x80).map Char.toLower
  match name with
  | a :: b :: rest =>
    if a.toLower = 'i' ∧ b.toLower = 's' then
      let word := strip rest
      String.ofList (if word = ['c'] then ['i', 's', 'c'] else word)
    else String.ofList (strip name)
  | _ => String.ofList (strip name)

/-- The set that a bare name stands for: a binary property, a category or a script. -/
def property? (name : List Char) : Option CodePoints :=
  let word := looseName name
  let binary := if word = "cf" ∨ word = "sc" ∨ word = "lc" then none else Property.named? word
  binary <|> Category.named? word <|> Script.named? word

/-- The set that the value of a property stands for. -/
def propertyValue? (name value : List Char) : Option CodePoints :=
  let word := looseName name
  let value := looseName value
  if word = "gc" ∨ word = "generalcategory" then Category.named? value
  else if word = "sc" ∨ word = "script" then Script.named? value
  else if word = "scx" ∨ word = "scriptextensions" then Script.extended? value
  else if word = "age" then Age.named? value
  else if word = "gcb" ∨ word = "graphemeclusterbreak" then Boundary.grapheme? value
  else if word = "wb" ∨ word = "wordbreak" then Boundary.word? value
  else if word = "sb" ∨ word = "sentencebreak" then Boundary.sentence? value
  else none

/-- The set named between the braces of a property, and whether it is negated. -/
def bracedProperty? (body : List Char) : Option (CodePoints × Bool) :=
  match notEqual body with
  | some (name, value) => (propertyValue? name value).map (·, true)
  | none =>
    let separator := if body.contains ':' then ':' else '='
    let name := body.takeWhile (· != separator)
    match body.dropWhile (· != separator) with
    | [] => (property? body).map (·, false)
    | _ :: value => (propertyValue? name value).map (·, false)
where
  /-- Splits at the first `!=`. -/
  notEqual : List Char → Option (List Char × List Char)
    | [] => none
    | c :: cs =>
      match c, cs with
      | '!', '=' :: value => some ([], value)
      | _, _ => (notEqual cs).map fun (name, value) => (c :: name, value)

/-! ### Escapes -/

/-- One element of a pattern or of a bracketed class. -/
inductive Atom where
  /-- A character, and whether it was written as a byte with two digits. -/
  | literal (c : Char) (byte : Bool)
  /-- A class of characters. -/
  | set (members : CodePoints)
  /-- An assertion. -/
  | assertion (p : Pattern)

/-- A hexadecimal digit. -/
def isHexDigit (c : Char) : Bool :=
  ('0' ≤ c && c ≤ '9') || ('a' ≤ c && c ≤ 'f') || ('A' ≤ c && c ≤ 'F')

/-- The character with a code in hexadecimal. -/
def charOfHex? (digits : List Char) : Option Char :=
  let n := Run.hexValue (digits.map Char.toUpper)
  if digits.isEmpty || !digits.all isHexDigit then none
  else if n < 0xD800 ∨ (0xDFFF < n ∧ n < 0x110000) then some (Char.ofNat n)
  else none

/-- Reads a fixed number of hexadecimal digits. -/
def readHexDigits (f : Flags) : Nat → List Char → Option (List Char × List Char)
  | 0, cs => some ([], cs)
  | _ + 1, [] => none
  | n + 1, c :: cs => do
    if !isHexDigit c then none
    let (digits, rest) ← readHexDigits f n (f.skip cs)
    return (c :: digits, rest)

/-- The text up to a closing brace, without what the flags skip. -/
def readBraced (f : Flags) (fuel : Nat) (cs : List Char) : Option (List Char × List Char) :=
  match fuel, f.skip cs with
  | 0, _ => none
  | _, [] => none
  | _, '}' :: rest => some ([], rest)
  | fuel + 1, c :: rest => do
    let (body, rest) ← readBraced f fuel rest
    return (c :: body, rest)

/-- Reads a character code: `count` digits, or any number of them in braces. -/
def readHex (f : Flags) (count : Nat) (cs : List Char) : Option (Atom × List Char) :=
  match f.skip cs with
  | '{' :: rest => do
    let (digits, rest) ← readBraced f (rest.length + 1) rest
    let c ← charOfHex? digits
    return (.literal c false, f.skip rest)
  | rest => do
    let (digits, rest) ← readHexDigits f count rest
    let c ← charOfHex? digits
    return (.literal c (count == 2), rest)

/-- Reads the name of a property, one letter or several in braces. -/
def readProperty (f : Flags) (negated : Bool) (cs : List Char) : Option (Atom × List Char) := do
  if !f.unicode then none
  let (name, rest) ← readName (f.skip cs)
  let (set, opposite) ← name
  let set ← f.negate (negated != opposite) (f.fold set)
  return (.set set, rest)
where
  /-- Reads the name and looks it up. -/
  readName : List Char → Option (Option (CodePoints × Bool) × List Char)
    | [] => none
    | '{' :: rest =>
      (readBraced f (rest.length + 1) rest).map fun (body, rest) => (bracedProperty? body, rest)
    | c :: rest => some ((property? [c]).map (·, false), f.skip rest)

/-- The special word boundaries by their names. -/
def edge? (name : String) : Option WordEdge :=
  if name = "start" then some .start
  else if name = "end" then some .stop
  else if name = "start-half" then some .startHalf
  else if name = "end-half" then some .stopHalf
  else none

/-- Reads what may follow `\b`: the name of a special boundary in braces. Braces that hold no name
    are left for a repetition. -/
def readBoundary (f : Flags) (cs : List Char) : Option (Atom × List Char) :=
  let isNameChar (c : Char) : Bool := c.isAlpha || c == '-'
  let plain : Atom := .assertion (f.edge .boundary)
  match cs with
  | '{' :: body =>
    match f.skip body with
    | [] => none
    | c :: _ =>
      if !isNameChar c then some (plain, cs)
      else do
        let (name, rest) ← readBraced f (body.length + 1) body
        if !name.all isNameChar then none
        let edge ← edge? (String.ofList name)
        return (.assertion (f.edge edge), rest)
  | _ => some (plain, cs)

/-- ASCII characters other than letters, digits and angle brackets stand for themselves. -/
def isEscapable (c : Char) : Bool :=
  c.toNat < 0x80 && !c.isAlphanum && c != '<' && c != '>'

/-- Reads what follows a backslash. -/
def readEscape (f : Flags) : List Char → Option (Atom × List Char)
  | [] => none
  | c :: rest =>
    let set (negated : Bool) (set : CodePoints) : Option (Atom × List Char) :=
      (f.negate negated set).map fun set => (.set set, rest)
    let edge (edge : WordEdge) : Option (Atom × List Char) :=
      some (.assertion (f.edge edge), rest)
    match c with
    | 'x' => readHex f 2 rest
    | 'u' => readHex f 4 rest
    | 'U' => readHex f 8 rest
    | 'p' => readProperty f false rest
    | 'P' => readProperty f true rest
    | 'd' => set false f.digit
    | 'D' => set true f.digit
    | 's' => set false f.space
    | 'S' => set true f.space
    | 'w' => set false f.word
    | 'W' => set true f.word
    | 'a' => some (.literal '\x07' false, rest)
    | 'f' => some (.literal '\x0C' false, rest)
    | 't' => some (.literal '\t' false, rest)
    | 'n' => some (.literal '\n' false, rest)
    | 'r' => some (.literal '\r' false, rest)
    | 'v' => some (.literal '\x0B' false, rest)
    | 'A' => some (.assertion (.look .textStart), rest)
    | 'z' => some (.assertion (.look .textEnd), rest)
    | 'b' => readBoundary f rest
    | 'B' => edge .inside
    | '<' => edge .start
    | '>' => edge .stop
    | _ => if isEscapable c then some (.literal c false, rest) else none

end RecordQuery.Pattern
