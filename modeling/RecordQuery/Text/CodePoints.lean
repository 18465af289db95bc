import RecordQuery.Text.Split
import RecordQuery.Text.WhiteSpace

/-!
# Sets of code points

A set of code points as a list of runs, in increasing order and apart from each other, with the
operations on sets; and the notation in which the tables of character properties are written: runs
in hexadecimal, `41-5A`, or `100-136/2` for every second code point.

* `CodePoints.contains`: membership of a character.
* `CodePoints.ofRuns`: the set that given runs cover; `∪`, `∩`, `\` and `CodePoints.complement`.
* `CodePoints.ofText`, `CodePoints.sections`: read the notation.
-/

namespace RecordQuery.Text

/-- The code points from `first` to `last`. -/
structure Run where
  /-- The first code point. -/
  first : Nat
  /-- The last code point. -/
  last : Nat
deriving DecidableEq

/-- A set of code points. -/
structure CodePoints where
  /-- Its runs. -/
  runs : List Run
deriving DecidableEq

namespace Run

/-- Joins a run and those after it, where they overlap or touch. -/
def joinFrom (r : Run) : List Run → List Run
  | [] => [r]
  | s :: rest =>
    if s.first ≤ r.last + 1 then joinFrom ⟨r.first, max r.last s.last⟩ rest
    else r :: joinFrom s rest

/-- Joins runs that overlap or touch; they come in the order of their first code points. -/
def join : List Run → List Run
  | [] => []
  | r :: rest => joinFrom r rest

/-- The order of the first code points. -/
def before (r s : Run) : Bool := r.first ≤ s.first

/-- The code points from `first` up to `stop`, which is left out. Surrogates are no characters, so
    that a gap neither starts nor ends among them. -/
def gap (first stop : Nat) : List Run :=
  let first := if 0xD800 ≤ first ∧ first < 0xE000 then 0xE000 else first
  let stop := if 0xD800 < stop ∧ stop ≤ 0xE000 then 0xD800 else stop
  if first < stop then [⟨first, stop - 1⟩] else []

/-- The gaps that runs leave, beginning with a code point. -/
def gaps (first : Nat) : List Run → List Run
  | [] => gap first 0x110000
  | r :: rest => gap first r.first ++ gaps (r.last + 1) rest

/-- The number written by hexadecimal digits in upper case. -/
def hexValue (digits : List Char) : Nat :=
  digits.foldl
    (fun n c => 16 * n + if c ≤ '9' then c.toNat - '0'.toNat else c.toNat - 'A'.toNat + 10) 0

/-- Reads `41`, `41-5A` or `100-136/2`. -/
def ofText (cs : List Char) : List Run :=
  match splitAt (· == '/') cs with
  | [] => []
  | span :: steps =>
    let ends := (splitAt (· == '-') span).map hexValue
    let first := ends.headD 0
    let last := ends.getLastD 0
    match steps with
    | [] => [⟨first, last⟩]
    | step :: _ =>
      let step := hexValue step
      (List.range ((last - first) / step + 1)).map fun i => ⟨first + i * step, first + i * step⟩

end Run

namespace CodePoints

/-! ### Membership -/

/-- Looks a code point up, stopping at the first run that lies beyond it. -/
def search (n : Nat) : List Run → Bool
  | [] => false
  | r :: rest => if n < r.first then false else if n ≤ r.last then true else search n rest

/-- Membership of a character. -/
def contains (set : CodePoints) (c : Char) : Bool := search c.toNat set.runs

/-- The empty set. -/
def empty : CodePoints := ⟨[]⟩

/-- The set of all code points. -/
def any : CodePoints := ⟨[⟨0, 0x10FFFF⟩]⟩

/-- The code points of ASCII. -/
def ascii : CodePoints := ⟨[⟨0, 0x7F⟩]⟩

/-- The characters from one to another. -/
def between (first last : Char) : CodePoints := ⟨[⟨first.toNat, last.toNat⟩]⟩

/-- One character. -/
def singleton (c : Char) : CodePoints := between c c

/-- The only member of a set that has just one. -/
def single? (set : CodePoints) : Option Char :=
  match set.runs with
  | [r] => if r.first = r.last then some (Char.ofNat r.first) else none
  | _ => none

/-- No member lies beyond ASCII. -/
def isAscii (set : CodePoints) : Bool := set.runs.all (·.last < 0x80)

/-! ### Operations -/

/-- The code points that runs cover, in whatever order these come. -/
def ofRuns (runs : List Run) : CodePoints := ⟨Run.join (runs.mergeSort Run.before)⟩

/-- The union of several sets. -/
def unions (sets : List CodePoints) : CodePoints := ofRuns (sets.flatMap (·.runs))

/-- All code points but those of a set. -/
def complement (set : CodePoints) : CodePoints := ⟨Run.gaps 0 set.runs⟩

instance : Union CodePoints := ⟨fun s t => ⟨Run.join (s.runs.merge t.runs Run.before)⟩⟩

instance : Inter CodePoints := ⟨fun s t => (s.complement ∪ t.complement).complement⟩

instance : SDiff CodePoints := ⟨fun s t => s ∩ t.complement⟩

/-! ### Notation -/

/-- Reads runs separated by blanks. -/
def ofText (s : String) : CodePoints := ⟨(words isWhiteSpace s.toList).flatMap Run.ofText⟩

/-- Adds a word to the sets read so far: one that begins with a colon opens a set and holds its
    names, any other is a run of the set opened last. -/
def addWord (sets : List (List String × List (List Run))) :
    List Char → List (List String × List (List Run))
  | ':' :: names => ((splitAt (· == ',') names).map String.ofList, []) :: sets
  | word =>
    match sets with
    | [] => []
    | (names, runs) :: rest => (names, Run.ofText word :: runs) :: rest

/-- Reads several sets: the names of each after a colon, separated by commas, and then its runs. -/
def sections (s : String) : List (List String × CodePoints) :=
  ((words isWhiteSpace s.toList).foldl addWord []).reverse.map fun (names, runs) =>
    (names, ⟨runs.reverse.flatten⟩)

/-- The set with a name, of several sets with their names. -/
def named? (sets : List (List String × CodePoints)) (name : String) : Option CodePoints :=
  (sets.find? fun entry => entry.1.contains name).map (·.2)

end CodePoints

end RecordQuery.Text
