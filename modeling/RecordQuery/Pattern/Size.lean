import RecordQuery.Pattern.Basic

/-!
# Sizes of patterns

How much space the automata of a pattern take. Each pattern has two, one that reads forward and one
that reads backward; both read bytes of UTF-8. A state takes 32 bytes, a transition in a list of
transitions 8, and a branch in a list of branches 4. Counted repetitions are written out, so that
short patterns can have large automata. Only a choice among thousands of texts has none.

* `Pattern.fits`: whether both automata stay within the limit of ten mebibytes.
-/

namespace RecordQuery.Pattern

open RecordQuery.Text

/-! ### Automata -/

/-- What counts of an automaton under construction. -/
structure Automaton where
  /-- The number of states. -/
  states : Nat
  /-- The bytes in lists of transitions and branches. -/
  lists : Nat

namespace Automaton

/-- The bytes that an automaton takes. -/
def size (a : Automaton) : Nat := 32 * a.states + a.lists

/-- The most bytes that an automaton may take. -/
def limit : Nat := 10 * 1024 * 1024

/-- Adds states and bytes in lists. -/
def add (states lists : Nat) (a : Automaton) : Automaton := ⟨a.states + states, a.lists + lists⟩

/-- Repeats a step of construction, unless the automaton is too large already. -/
def repeated (step : Automaton → Automaton) : Nat → Automaton → Automaton
  | 0, a => a
  | count + 1, a => if limit < a.size then a else repeated step count (step a)

end Automaton

/-! ### Characters as bytes -/

/-- The bytes of a code point. -/
def utf8Bytes (n : Nat) : List Nat :=
  if n < 0x80 then [n]
  else if n < 0x800 then [0xC0 + n / 64, 0x80 + n % 64]
  else if n < 0x10000 then [0xE0 + n / 4096, 0x80 + n / 64 % 64, 0x80 + n % 64]
  else [0xF0 + n / 262144, 0x80 + n / 4096 % 64, 0x80 + n / 64 % 64, 0x80 + n % 64]

/-- The runs of code points with as many bytes, without surrogates. -/
def utf8Ranges : List Run :=
  [⟨0, 0x7F⟩, ⟨0x80, 0x7FF⟩, ⟨0x800, 0xD7FF⟩, ⟨0xE000, 0xFFFF⟩, ⟨0x10000, 0x10FFFF⟩]

/-- The common part of two runs. -/
def overlap? (r s : Run) : Option Run :=
  let first := max r.first s.first
  let last := min r.last s.last
  if first ≤ last then some ⟨first, last⟩ else none

/-- Cuts a run so that in each piece the bytes range independently of each other: at the bounds of
    blocks of growing sizes, until it lies within one block. -/
def cut (r : Run) : List Nat → List Run
  | [] => [r]
  | block :: blocks =>
    if r.first / block = r.last / block then [r]
    else
      let first := (r.first + block - 1) / block * block
      let stop := (r.last + 1) / block * block
      (if r.first < first then [⟨r.first, first - 1⟩] else []) ++
        (if first < stop then cut ⟨first, stop - 1⟩ blocks else []) ++
        (if stop ≤ r.last then [⟨stop, r.last⟩] else [])

/-- The sequences of ranges of bytes that the code points of a run are. -/
def runBytes (r : Run) : List (List Run) :=
  (utf8Ranges.filterMap (overlap? r)).flatMap fun range =>
    (cut range [64, 4096, 262144]).map fun piece =>
      ((utf8Bytes piece.first).zip (utf8Bytes piece.last)).map fun (low, high) => ⟨low, high⟩

/-- The sequences of ranges of bytes that the code points of a set are. -/
def setBytes (set : CodePoints) : List (List Run) := set.runs.flatMap runBytes

/-! ### Sets of characters -/

/-- Groups sequences by their first ranges. -/
def byFirst (seqs : List (List Run)) : List (Run × List (List Run)) :=
  seqs.foldr
    (fun seq groups =>
      match seq, groups with
      | [], _ => groups
      | r :: rest, (s, rests) :: groups =>
        if r = s then (s, (rest :: rests)) :: groups else (r, [rest]) :: (s, rests) :: groups
      | r :: rest, [] => [(r, [rest])])
    []

/-- What may follow at each place of some sequences, place by place. -/
def continuations : Nat → List (List (List Run)) → List (List (List Run))
  | 0, _ => []
  | depth + 1, level =>
    let next := level.flatMap fun seqs => (byFirst seqs).map (·.2)
    level ++ continuations depth (next.filter fun rests => rests.any (!·.isEmpty))

/-- Adds a set to an automaton that reads forward: an end, and a state for each different
    continuation with a transition for each range. -/
def addForward (seqs : List (List Run)) : Automaton → Automaton :=
  let states := (continuations 4 [seqs]).eraseDups
  .add (states.length + 1) (states.foldl (fun sum rests => sum + 8 * (byFirst rests).length) 0)

/-- A table of transitions: for each place the state from which one comes, its range, and the state
    to which it leads. -/
abbrev TransitionTable := Array (Option (Nat × Run × Nat))

/-- The place of a transition in a table of a thousand. A later transition with the same place takes
    it over. -/
def tablePlace (source : Nat) (r : Run) : Nat :=
  let mix (hash n : UInt64) : UInt64 := (hash ^^^ n) * 1099511628211
  let hash := mix (mix (mix 14695981039346656037 source.toUInt64) r.first.toUInt64)
    r.last.toUInt64
  hash.toNat % 1000

/-- Follows a range from a state: by the transition that the table holds, or to a new state. -/
def followRange (here : Nat × Nat × TransitionTable) (r : Run) : Nat × Nat × TransitionTable :=
  let (source, states, table) := here
  let place := tablePlace source r
  match (table[place]?).join with
  | some (source', r', target) =>
    if source' = source ∧ r' = r then (target, states, table)
    else (states, states + 1, table.setIfInBounds place (some (source, r, states)))
  | none => (states, states + 1, table.setIfInBounds place (some (source, r, states)))

/-- Adds a set to an automaton that reads backward: a branch to each sequence, an end, and the
    sequences, which share the states of the ranges they start with as far as the table holds
    them. -/
def addBackward (seqs : List (List Run)) (a : Automaton) : Automaton :=
  let finish := a.states + 1
  let (states, _) := seqs.foldl
    (fun (states, table) seq =>
      (seq.foldl followRange (finish, states, table)).2)
    (a.states + 2, Array.replicate 1000 none)
  ⟨states, a.lists + 4 * seqs.length⟩

/-! ### Choices of texts -/

/-- The texts that begin with a byte, without it and in reverse order, for each byte that begins
    one. -/
abbrev Branching := List (Nat × List (List Nat))

/-- Adds a text to those that begin with its first byte. -/
def Branching.insert (byte : Nat) (rest : List Nat) : Branching → Branching
  | [] => [(byte, [rest])]
  | (b, rests) :: others =>
    if b = byte then (b, rest :: rests) :: others else (b, rests) :: insert byte rest others

/-- Sorts texts into branchings, the last first. A text that ends here closes a branching, since
    what comes after it is tried after it. -/
def branchings : List (List Nat) → List Branching :=
  List.foldl
    (fun sorted text =>
      match text, sorted with
      | byte :: rest, current :: closed => current.insert byte rest :: closed
      | [], [current] => [[], current]
      | [], sorted => if sorted.all (·.isEmpty) then sorted else [] :: sorted
      | _, [] => [])
    [[]]

/-- Adds a choice of texts of at most `depth` bytes: a state with a branch for each branching and
    each text that ends, and states for what follows each byte. -/
def addChoice : Nat → List (List Nat) → Automaton → Automaton
  | 0, _, a => a
  | depth + 1, texts, a =>
    let sorted := branchings texts
    let full := sorted.filter (!·.isEmpty)
    let lists := full.foldl (fun sum b => sum + if b.length = 1 then 0 else 8 * b.length) 0
    let a := a.add (1 + full.length) (4 * (full.length + (sorted.length - 1)) + lists)
    full.flatten.foldl
      (fun a (_, rests) =>
        if rests.all (·.isEmpty) then a else addChoice depth rests.reverse a)
      a

/-! ### Patterns -/

/-- A part of an automaton, by what it adds. -/
structure Fragment where
  /-- The automaton with the part. -/
  addTo : Automaton → Automaton

namespace Fragment

/-- States and bytes in lists that do not depend on where they are added. -/
def fixed (states lists : Nat) : Fragment := ⟨.add states lists⟩

/-- One part and then another. -/
def andThen (f g : Fragment) : Fragment := ⟨fun a => g.addTo (f.addTo a)⟩

/-- Parts one after another. -/
def all (fs : List Fragment) : Fragment := ⟨fun a => fs.foldl (fun a f => f.addTo a) a⟩

/-- A part several times. -/
def times (count : Nat) (f : Fragment) : Fragment := ⟨.repeated f.addTo count⟩

end Fragment

/-- A set of characters. Within ASCII it is one state with a list of transitions. -/
def setFragment (backward : Bool) (set : CodePoints) : Fragment :=
  if set.isAscii then .fixed 2 (8 * set.runs.length)
  else
    let seqs := setBytes set
    if backward then ⟨addBackward seqs⟩ else ⟨addForward seqs⟩

/-- The bytes of a text. -/
def textBytes (text : List Char) : List Nat := text.flatMap fun c => utf8Bytes c.toNat

/-- The bytes of a pattern that is a text, in reading order. -/
def bytes? (backward : Bool) : Pattern → Option (List Nat)
  | .literal text => some (if backward then (textBytes text).reverse else textBytes text)
  | _ => none

/-- A repetition of a part; `nullable` says whether the part may match the empty text. -/
def iterateFragment (nullable : Bool) (least : Nat) (most : Option Nat) (f : Fragment) : Fragment :=
  match least, most with
  | 0, none => if nullable then f.andThen (.fixed 3 16) else .andThen (.fixed 1 8) f
  | 0, some 1 => .andThen (.fixed 1 8) (f.andThen (.fixed 1 0))
  | least, none => (f.times least).andThen (.fixed 1 8)
  | least, some most =>
    let start := if least = 0 then .fixed 1 0 else f.times least
    if least = most then start
    else
      start.andThen
        (.andThen (.fixed 1 0) (Fragment.times (most - least) (.andThen (.fixed 1 8) f)))

/-- A choice; its ends meet in a state of their own. -/
def choiceFragment (fs : List Fragment) : Fragment :=
  (Fragment.all (fs.take 2)).andThen
    (.andThen (.fixed 2 (4 * fs.length)) (.all (fs.drop 2)))

mutual

/-- The part of an automaton for a pattern. Only groups read forward are marked. -/
def fragment (backward : Bool) : Pattern → Fragment
  | .empty => .fixed 1 0
  | .literal text => .fixed (textBytes text).length 0
  | .char set => setFragment backward set
  | .look _ => .fixed 1 0
  | .iterate p least most _ =>
    iterateFragment (p.minLength?.all (· = 0)) least most (fragment backward p)
  | .group p =>
    if backward then fragment backward p
    else .andThen (.fixed 1 0) ((fragment backward p).andThen (.fixed 1 0))
  | .seq ps =>
    let fs := fragments backward [] ps
    .all (if backward then fs else fs.reverse)
  | .alt ps =>
    match ps.mapM (bytes? backward) with
    | some texts =>
      let depth := texts.foldl (fun depth text => max depth text.length) 0
      .andThen (.fixed 1 0) ⟨addChoice depth texts⟩
    | none => choiceFragment (fragments backward [] ps).reverse

/-- The parts for several patterns, the last first, before those that are given. -/
def fragments (backward : Bool) (fs : List Fragment) : List Pattern → List Fragment
  | [] => fs
  | p :: ps => fragments backward (fragment backward p :: fs) ps

end

/-! ### Anchors -/

/-- Whether the first of some parts that may take up space, or one before it, is anchored. -/
def anyAnchored : List (Bool × Bool) → Bool
  | [] => false
  | (anchored, widthless) :: rest => anchored || (widthless && anyAnchored rest)

mutual

/-- Whether every match starts at the start of the text, or read backward ends at its end, as far as
    the pattern says so outright. -/
def isAnchored (backward : Bool) : Pattern → Bool
  | .look assertion => assertion = if backward then .textEnd else .textStart
  | .iterate p least _ _ => least != 0 && p.isAnchored backward
  | .group p => p.isAnchored backward
  | .seq ps =>
    let anchors := anchorsOf backward [] ps
    anyAnchored (if backward then anchors else anchors.reverse)
  | .alt ps => (anchorsOf backward [] ps).all (·.1)
  | _ => false

/-- For each pattern whether it is anchored and whether it takes up no space, the last first. -/
def anchorsOf (backward : Bool) (anchors : List (Bool × Bool)) :
    List Pattern → List (Bool × Bool)
  | [] => anchors
  | p :: ps => anchorsOf backward ((p.isAnchored backward, p.isWidthless) :: anchors) ps

end

/-! ### The limit -/

/-- The automaton of a whole pattern: a start, which skips what comes before the match unless the
    pattern is anchored, then the pattern and an end. -/
def automaton (backward : Bool) (p : Pattern) : Automaton :=
  let start := if p.isAnchored backward then Fragment.fixed 1 0 else .fixed 3 16
  let marks := if backward then 0 else 1
  (Fragment.all
    [start, .fixed marks 0, fragment backward p, .fixed (marks + 1) 0]).addTo ⟨0, 0⟩

/-- A choice among so many texts that a search looks them up, for which it needs no automata. -/
def isLookup : Pattern → Bool
  | .alt ps => 3000 ≤ ps.length && ps.all fun p => (bytes? false p).isSome
  | _ => false

/-- Whether the automata of a pattern, if it has any, stay within the limit. -/
def fits (p : Pattern) : Bool :=
  p.isLookup ||
    ((p.automaton false).size ≤ Automaton.limit && (p.automaton true).size ≤ Automaton.limit)

end RecordQuery.Pattern
