import RecordQuery.Pattern.CharClass
import RecordQuery.Pattern.Size
import RecordQuery.Text.Addenda

/-!
# Reading patterns

From the text of a regular expression to a `Pattern`. Alternatives, groups (also named and with
flags), repetitions, classes and assertions are understood; back-references and looking around are
not. The pattern is read from left to right with the open groups on a stack.

* `Pattern.ofText?`: the pattern with a text, if the text is well-formed.
-/

namespace RecordQuery.Pattern

open RecordQuery.Text

/-- How deep patterns may be nested. -/
def depthLimit : Nat := 250

/-- A part of a pattern. -/
structure Piece where
  /-- What the part matches. -/
  pattern : Pattern
  /-- How deep it is nested. -/
  depth : Nat := 0
  /-- A setting of flags cannot be repeated, all else can. -/
  repeatable : Bool := true

namespace Piece

/-- Joins parts, given last first. -/
def join (joined : List Pattern → Pattern) : List Piece → Piece
  | [] => ⟨.empty, 0, true⟩
  | [piece] => piece
  | pieces =>
    ⟨joined (pieces.reverse.map (·.pattern)), (pieces.map (·.depth)).foldl max 0 + 1, true⟩

/-- A repeated part. -/
def times (least : Nat) (most : Option Nat) (eager : Bool) (piece : Piece) : Option Piece :=
  if piece.repeatable then some ⟨piece.pattern.times least most eager, piece.depth + 1, true⟩
  else none

end Piece

/-- A group that is being read. -/
structure Level where
  /-- The alternatives read so far, last first. -/
  branches : List Piece := []
  /-- The parts of the alternative being read, last first. -/
  items : List Piece := []

namespace Level

/-- Adds a part. -/
def add (l : Level) (piece : Piece) : Level := { l with items := piece :: l.items }

/-- Goes on to the next alternative. -/
def branch (l : Level) : Level := ⟨Piece.join concat l.items :: l.branches, []⟩

/-- The finished group. -/
def close (l : Level) : Piece := Piece.join (oneOf depthLimit) l.branch.branches

/-- Repeats the part read last. -/
def iterateLast (l : Level) (least : Nat) (most : Option Nat) (eager : Bool) : Option Level :=
  match l.items with
  | [] => none
  | piece :: rest =>
    (piece.times least most eager).map fun piece => { l with items := piece :: rest }

end Level

/-- What goes on when the group being read is closed. -/
structure Enclosing where
  /-- The flags to go back to. -/
  flags : Flags
  /-- The group around it. -/
  level : Level
  /-- The match of the group being read could be asked for. -/
  marked : Bool

/-- Where the reading of a pattern stands. -/
structure Reading where
  /-- The flags in force. -/
  flags : Flags := {}
  /-- The innermost group. -/
  level : Level := {}
  /-- The groups around it, innermost first. -/
  outer : List Enclosing := []
  /-- The names of groups. -/
  names : List (List Char) := []

namespace Reading

/-- Adds a part to the innermost group. -/
def add (r : Reading) (piece : Piece) : Reading := { r with level := r.level.add piece }

/-- Opens a group with flags of its own. -/
def openGroup (r : Reading) (flags : Flags) (marked : Bool) : Reading :=
  { r with flags := flags, level := {}, outer := ⟨r.flags, r.level, marked⟩ :: r.outer }

/-- Closes the innermost group. -/
def closeGroup (r : Reading) : Option Reading :=
  match r.outer with
  | [] => none
  | enclosing :: outer =>
    let piece := r.level.close
    let pattern := if enclosing.marked then .group piece.pattern else piece.pattern
    some { r with
      flags := enclosing.flags, outer := outer
      level := enclosing.level.add ⟨pattern, piece.depth + 1, true⟩ }

/-- Repeats the part read last. -/
def iterateLast (r : Reading) (least : Nat) (most : Option Nat) (eager : Bool) : Option Reading :=
  (r.level.iterateLast least most eager).map fun level => { r with level := level }

end Reading

/-! ### Groups -/

/-- Sets or clears a flag by its letter. Greediness does not change what is found. -/
def Flags.set? (f : Flags) (on : Bool) : Char → Option Flags
  | 'i' => some { f with ignoreCase := on }
  | 'm' => some { f with multiLine := on }
  | 's' => some { f with dotAll := on }
  | 'U' => some f
  | 'u' => some { f with unicode := on }
  | 'R' => some { f with crlf := on }
  | 'x' => some { f with verbose := on }
  | _ => none

/-- Reads flags up to a colon or a closing parenthesis: the new flags, whether there were any, and
    the text from the mark that ends them. Flags after a hyphen are cleared; no flag occurs twice
    and the hyphen is not the last. -/
def readFlags (f : Flags) (seen : List Char) : List Char → Option (Flags × Bool × List Char)
  | [] => none
  | c :: rest =>
    if c = ':' ∨ c = ')' then
      if seen.head? = some '-' then none else some (f, !seen.isEmpty, c :: rest)
    else if seen.contains c then none
    else if c = '-' then readFlags f (c :: seen) rest
    else do readFlags (← f.set? (!seen.contains '-') c) (c :: seen) rest

/-- A character of the name of a group. -/
def isNameChar (first : Bool) (c : Char) : Bool :=
  c == '_' || Property.alphabetic.contains c || Addenda.alphabetic.contains c ||
    (!first &&
      (Category.number.contains c || Addenda.numeric.contains c || c == '.' || c == '[' ||
        c == ']'))

/-- Reads the name of a group, which no other group has, and its closing bracket. -/
def readGroupName (r : Reading) (cs : List Char) : Option (Reading × List Char) :=
  let name := cs.takeWhile (· != '>')
  match name, cs.dropWhile (· != '>') with
  | c :: more, _ :: rest =>
    if isNameChar true c && more.all (isNameChar false) && !r.names.contains name then
      some ({ r with names := name :: r.names }, rest)
    else none
  | _, _ => none

/-- Reads what follows an opening parenthesis: a group, or a setting of flags. -/
def readGroup (r : Reading) (cs : List Char) : Option (Reading × List Char) :=
  let named (cs : List Char) : Option (Reading × List Char) :=
    (readGroupName r cs).map fun (r, rest) => (r.openGroup r.flags true, rest)
  match r.flags.skip cs with
  | '?' :: '=' :: _ => none
  | '?' :: '!' :: _ => none
  | '?' :: '<' :: '=' :: _ => none
  | '?' :: '<' :: '!' :: _ => none
  | '?' :: 'P' :: '<' :: cs => named cs
  | '?' :: '<' :: cs => named cs
  | '?' :: cs => do
    let (flags, any, rest) ← readFlags r.flags [] cs
    match rest with
    | ')' :: rest =>
      if any then return ({ r with flags := flags }.add ⟨.empty, 0, false⟩, rest) else none
    | _ => return (r.openGroup flags false, rest.drop 1)
  | cs => some (r.openGroup r.flags true, cs)

/-! ### Repetitions -/

/-- A repetition without a mark that makes it lazy is eager. -/
def isEager (cs : List Char) : Bool := cs.head? != some '?'

/-- Skips a mark that makes a repetition lazy. -/
def dropLazy : List Char → List Char
  | '?' :: rest => rest
  | cs => cs

/-- Counts lie below this limit, `2 ^ 32`. -/
def countLimit : Nat := 0x100000000

/-- Reads a count below the limit, with blanks around it. -/
def readCount (f : Flags) (cs : List Char) : Option (Nat × List Char) :=
  let (digits, rest) := digits (cs.length + 1) (cs.dropWhile isWhiteSpace)
  let value := digits.foldl (fun n c => 10 * n + (c.toNat - '0'.toNat)) 0
  if !digits.isEmpty && value < countLimit then some (value, f.skip (rest.dropWhile isWhiteSpace))
  else none
where
  /-- The digits of the count; blanks that are skipped may stand between them. -/
  digits : Nat → List Char → List Char × List Char
    | fuel + 1, c :: rest =>
      if c.isDigit then
        let (more, rest) := digits fuel (f.skip rest)
        (c :: more, rest)
      else ([], c :: rest)
    | _, cs => ([], cs)

/-- Reads the bounds of a counted repetition, from after the opening brace to after the closing
    one. -/
def readBounds (f : Flags) (cs : List Char) : Option ((Nat × Option Nat) × List Char) := do
  let (least, rest) ← readCount f (f.skip cs)
  match rest with
  | '}' :: rest => return ((least, some least), rest)
  | ',' :: rest =>
    match f.skip rest with
    | '}' :: rest => return ((least, none), rest)
    | rest =>
      let (most, rest) ← readCount f rest
      match rest with
      | '}' :: rest => if least ≤ most then return ((least, some most), rest) else none
      | _ => none
  | _ => none

/-! ### Patterns -/

/-- The point: any character but the end of a line. -/
def point (f : Flags) : Option Pattern :=
  if !f.unicode then none
  else if f.dotAll then some (.char .any)
  else if f.crlf then some (.char (.complement (.ofText "A D")))
  else some (.char (.complement (.singleton '\n')))

/-- An element outside brackets. A byte above ASCII is part of a character and matches none. -/
def Atom.pattern? (f : Flags) : Atom → Option Pattern
  | .literal c byte =>
    if byte && !f.unicode && 0x80 ≤ c.toNat then none else some (.ofSet (f.fold (.singleton c)))
  | .set members => some (.ofSet members)
  | .assertion p => some p

/-- Reads one construct of a pattern, which is not empty. -/
def readConstruct (r : Reading) : List Char → Option (Reading × List Char)
  | [] => none
  | '(' :: cs => readGroup r cs
  | ')' :: cs => r.closeGroup.map (·, cs)
  | '|' :: cs => some ({ r with level := r.level.branch }, cs)
  | '[' :: cs =>
    (readClass r.flags ('[' :: cs)).map fun (set, rest) =>
      (r.add ⟨.ofSet set.members, set.depth, true⟩, rest)
  | '?' :: cs => (r.iterateLast 0 (some 1) (isEager cs)).map (·, dropLazy cs)
  | '*' :: cs => (r.iterateLast 0 none (isEager cs)).map (·, dropLazy cs)
  | '+' :: cs => (r.iterateLast 1 none (isEager cs)).map (·, dropLazy cs)
  | '{' :: cs => do
    let ((least, most), rest) ← readBounds r.flags cs
    let rest := r.flags.skip rest
    return (← r.iterateLast least most (isEager rest), dropLazy rest)
  | '.' :: cs => (point r.flags).map fun p => (r.add ⟨p, 0, true⟩, cs)
  | '^' :: cs =>
    let start := if r.flags.multiLine then .lineStart r.flags.crlf else .textStart
    some (r.add ⟨.look start, 0, true⟩, cs)
  | '$' :: cs =>
    let finish := if r.flags.multiLine then .lineEnd r.flags.crlf else .textEnd
    some (r.add ⟨.look finish, 0, true⟩, cs)
  | '\\' :: cs => do
    let (atom, rest) ← readEscape r.flags cs
    return (r.add ⟨← atom.pattern? r.flags, 0, true⟩, rest)
  | c :: cs => ((Atom.literal c false).pattern? r.flags).map fun p => (r.add ⟨p, 0, true⟩, cs)

/-- Reads constructs to the end. Each consumes a character, so the length of the text is fuel
    enough. -/
def readAll : Nat → Reading → List Char → Option Reading
  | 0, _, _ => none
  | fuel + 1, r, cs =>
    match r.flags.skip cs with
    | [] => some r
    | cs => do
      let (r, rest) ← readConstruct r cs
      readAll fuel r rest

/-- The pattern with a text, unless it is nested too deep or too large. -/
def ofText? (text : List Char) : Option Pattern := do
  let r ← readAll (text.length + 1) {} text
  let whole := r.level.close
  if r.outer.isEmpty && whole.depth ≤ depthLimit && whole.pattern.fits then some whole.pattern
  else none

end RecordQuery.Pattern
