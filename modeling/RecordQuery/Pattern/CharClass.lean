import RecordQuery.Pattern.Escape

/-!
# Bracketed classes

Classes such as `[^a-z_]`, with nested classes, the named classes of ASCII (`[[:alpha:]]`) and the
operations `&&`, `--` and `~~`, which group to the left. A closing bracket that comes first and
hyphens that come first stand for themselves.

* `Pattern.readClass`: the class at the start of a text, and what follows it.
-/

namespace RecordQuery.Pattern

open RecordQuery.Text

/-- A set of characters, with how deep its parts are nested. -/
structure ClassSet where
  /-- The characters. -/
  members : CodePoints
  /-- The nesting. -/
  depth : Nat

namespace ClassSet

/-- The union of the items of a class. -/
def union : List ClassSet → ClassSet
  | [] => ⟨.empty, 0⟩
  | [item] => item
  | items => ⟨.unions (items.map (·.members)), (items.map (·.depth)).foldl max 0 + 1⟩

/-- A set operation. -/
abbrev Op := CodePoints → CodePoints → CodePoints

/-- Combines two sets. -/
def combine (f : Flags) (op : Op) (left right : ClassSet) : ClassSet :=
  ⟨op (f.fold left.members) (f.fold right.members), max left.depth right.depth + 1⟩

end ClassSet

/-- A class whose closing bracket is still to come. -/
structure OpenClass where
  /-- The class is a complement. -/
  negated : Bool
  /-- The left side of an operation whose right side is being read. -/
  left : Option (ClassSet × ClassSet.Op)
  /-- The items read so far, last first. -/
  items : List ClassSet

namespace OpenClass

/-- Adds an item. -/
def add (c : OpenClass) (item : ClassSet) : OpenClass := { c with items := item :: c.items }

/-- What has been read, with the pending operation applied. -/
def settled (f : Flags) (c : OpenClass) : ClassSet :=
  match c.left with
  | none => .union c.items
  | some (left, op) => .combine f op left (.union c.items)

/-- Turns what has been read into the left side of an operation. -/
def operate (f : Flags) (c : OpenClass) (op : ClassSet.Op) : OpenClass :=
  { c with left := some (c.settled f, op), items := [] }

/-- The finished class. -/
def close (f : Flags) (c : OpenClass) : Option ClassSet :=
  let set := c.settled f
  (f.negate c.negated (f.fold set.members)).map fun members => ⟨members, set.depth + 1⟩

end OpenClass

/-- The named classes of ASCII. -/
def asciiClasses : List (List String × CodePoints) := CodePoints.sections "
  :alnum 30-39 41-5A 61-7A :alpha 41-5A 61-7A :ascii 0-7F :blank 9 20 :cntrl 0-1F 7F :digit 30-39
  :graph 21-7E :lower 61-7A :print 20-7E :punct 21-2F 3A-40 5B-60 7B-7E :space 9-D 20 :upper 41-5A
  :word 30-39 41-5A 5F 61-7A :xdigit 30-39 41-46 61-66"

/-- Reads `[:name:]` or `[:^name:]`: the class, whether it is negated, and what follows. -/
def readAsciiClass? : List Char → Option (CodePoints × Bool × List Char)
  | '[' :: ':' :: cs =>
    let (negated, cs) := match cs with
      | '^' :: cs => (true, cs)
      | cs => (false, cs)
    match cs.dropWhile (· != ':') with
    | ':' :: ']' :: rest =>
      (CodePoints.named? asciiClasses (String.ofList (cs.takeWhile (· != ':')))).map
        (·, negated, rest)
    | _ => none
  | _ => none

/-- Reads hyphens that stand for themselves. -/
def readHyphens (f : Flags) (fuel : Nat) (c : OpenClass) (cs : List Char) : OpenClass × List Char :=
  match fuel, cs with
  | fuel + 1, '-' :: rest => readHyphens f fuel (c.add ⟨.singleton '-', 0⟩) (f.skip rest)
  | _, _ => (c, cs)

/-- Reads what follows an opening bracket, up to the first item without special rules. -/
def openClass (f : Flags) (cs : List Char) : OpenClass × List Char :=
  let (negated, cs) := match f.skip cs with
    | '^' :: rest => (true, f.skip rest)
    | rest => (false, rest)
  let (c, cs) := readHyphens f cs.length ⟨negated, none, []⟩ cs
  match c.items, cs with
  | [], ']' :: rest => (c.add ⟨.singleton ']', 0⟩, f.skip rest)
  | _, _ => (c, cs)

/-- Reads a character or an escape. -/
def readClassAtom (f : Flags) : List Char → Option (Atom × List Char)
  | [] => none
  | '\\' :: rest => readEscape f rest
  | c :: rest => some (.literal c false, rest)

/-- The character of an end of a range. Without Unicode it is one of ASCII. -/
def Atom.char? (f : Flags) : Atom → Option Char
  | .literal c _ => if f.unicode || c.toNat < 0x80 then some c else none
  | _ => none

/-- An atom as an item of a class; assertions are none. -/
def Atom.item? (f : Flags) : Atom → Option ClassSet
  | .set members => some ⟨members, 0⟩
  | atom => (atom.char? f).map fun c => ⟨.singleton c, 0⟩

/-- The character after a hyphen, past blanks that are skipped; a comment counts as blank but for
    its first character. -/
def peekPast (f : Flags) (cs : List Char) : Option Char :=
  if f.verbose then (go false cs).orElse fun _ => cs.head? else cs.head?
where
  /-- Goes past blanks and at most one number sign. -/
  go (comment : Bool) : List Char → Option Char
    | [] => none
    | c :: rest =>
      if isWhiteSpace c then go comment rest
      else if !comment && c == '#' then go true rest
      else some c

/-- Reads one item of a class, a range or a single atom. -/
def readClassItem (f : Flags) (cs : List Char) : Option (ClassSet × List Char) := do
  let (first, rest) ← readClassAtom f cs
  match f.skip rest with
  | '-' :: rest =>
    if peekPast f rest = some ']' ∨ peekPast f rest = some '-' then
      return (← first.item? f, '-' :: rest)
    else
      let (last, rest) ← readClassAtom f (f.skip rest)
      let low ← first.char? f
      let high ← last.char? f
      if high < low then none
      return (⟨.between low high, 0⟩, rest)
  | rest => return (← first.item? f, rest)

/-- Reads a class. The classes that are open are on a stack, innermost first; each step consumes a
    character, so the length of the text is fuel enough. -/
def readClassWith (f : Flags) : Nat → List OpenClass → List Char → Option (ClassSet × List Char)
  | 0, _, _ => none
  | fuel + 1, stack, cs =>
    match stack, f.skip cs with
    | _, [] => none
    | [], '[' :: rest =>
      let (c, rest) := openClass f rest
      readClassWith f fuel [c] rest
    | [], _ => none
    | top :: outer, '[' :: rest =>
      match readAsciiClass? ('[' :: rest) with
      | some (set, negated, rest) => do
        let set ← f.negate negated (f.fold set)
        readClassWith f fuel (top.add ⟨set, 0⟩ :: outer) rest
      | none =>
        let (c, rest) := openClass f rest
        readClassWith f fuel (c :: top :: outer) rest
    | top :: outer, ']' :: rest => do
      let set ← top.close f
      match outer with
      | [] => return (set, rest)
      | next :: outer => readClassWith f fuel (next.add set :: outer) rest
    | top :: outer, '&' :: '&' :: rest =>
      readClassWith f fuel (top.operate f (· ∩ ·) :: outer) rest
    | top :: outer, '-' :: '-' :: rest =>
      readClassWith f fuel (top.operate f (· \ ·) :: outer) rest
    | top :: outer, '~' :: '~' :: rest =>
      readClassWith f fuel (top.operate f (fun l r => (l \ r) ∪ (r \ l)) :: outer) rest
    | top :: outer, cs => do
      let (item, rest) ← readClassItem f cs
      readClassWith f fuel (top.add item :: outer) rest

/-- Reads a bracketed class from its opening bracket on. -/
def readClass (f : Flags) (cs : List Char) : Option (ClassSet × List Char) :=
  readClassWith f (cs.length + 1) [] cs

end RecordQuery.Pattern
