import RecordQuery.Pattern.Basic

/-!
# Searching

Whether a pattern matches anywhere in a text. The search keeps the set of all positions a match can
have reached, as the bits of a natural number, so it never goes back. An unbounded repetition
remembers the positions at which it was entered and is run from the new ones only, also within
other repetitions; so the work grows with the pattern and the text, and not with how deep
repetitions are nested.

* `Pattern.isMatch`: the search.
-/

namespace RecordQuery.Pattern

open RecordQuery.Text

/-! ### Patterns over a text -/

/-- A pattern placed over a text: sets of characters and assertions have become the sets of
    positions that satisfy them. -/
inductive Placed where
  /-- Moves over one character after another, each at one of the given positions. -/
  | moves (masks : List Nat)
  /-- Stays at these positions. -/
  | stays (mask : Nat)
  /-- Repeated. -/
  | iterate (body : Placed) (least : Nat) (most : Option Nat)
  /-- One after another. -/
  | seq (parts : List Placed)
  /-- One of several. -/
  | alt (options : List Placed)

/-- What a pattern asks of a position. -/
inductive Test where
  /-- Its character is a given one. -/
  | one (c : Char)
  /-- Its character belongs to a set. -/
  | char (set : CodePoints)
  /-- It meets a condition. -/
  | look (assertion : Assertion)
deriving DecidableEq

/-- The number with the given bits, the lowest first. -/
def bits (flags : List Bool) : Nat :=
  flags.foldr (fun flag n => 2 * n + flag.toNat) 0

/-- The positions in a text that pass a test, as the bits of a number. The first character has
    position zero, and a position that follows the last character is there to meet conditions. -/
def Test.mask (text : List Char) : Test → Nat
  | one c => bits (text.map (· == c))
  | char set => bits (text.map set.contains)
  | look assertion =>
    bits (((none :: text.map some).zip (text.map some ++ [none])).map fun (before, after) =>
      assertion.holds before after)

mutual

/-- The tests of a pattern, besides those found before. -/
def tests (found : List Test) : Pattern → List Test
  | .empty => found
  | .literal cs => cs.foldl (fun found c => found.insert (.one c)) found
  | .char set => found.insert (.char set)
  | .look assertion => found.insert (.look assertion)
  | .iterate p _ _ _ => tests found p
  | .group p => tests found p
  | .seq ps => testsOfAll found ps
  | .alt ps => testsOfAll found ps

/-- The tests of several patterns, besides those found before. -/
def testsOfAll (found : List Test) : List Pattern → List Test
  | [] => found
  | p :: ps => testsOfAll (tests found p) ps

end

mutual

/-- Places a pattern over a text, given the positions for each of its tests. -/
def place (mask : Test → Nat) : Pattern → Placed
  | .empty => .seq []
  | .literal cs => .moves (cs.map fun c => mask (.one c))
  | .char set => .moves [mask (.char set)]
  | .look assertion => .stays (mask (.look assertion))
  | .iterate p least most _ => .iterate (place mask p) least most
  | .group p => place mask p
  | .seq ps => .seq (placeAll mask [] ps)
  | .alt ps => .alt (placeAll mask [] ps)

/-- Places several patterns, after those placed before, which come last first. -/
def placeAll (mask : Test → Nat) (done : List Placed) : List Pattern → List Placed
  | [] => done.reverse
  | p :: ps => placeAll mask (place mask p :: done) ps

end

/-! ### Steps -/

/-- What is remembered of a search: the positions at which a repetition was entered, and the same
    for the parts. -/
inductive Trail where
  /-- The positions and the parts; missing parts have not been entered. -/
  | node (entered : Nat) (parts : List Trail)

namespace Trail

/-- Nothing has been entered. -/
def fresh : Trail := node 0 []

/-- The positions at which the repetition was entered. -/
def entered : Trail → Nat
  | node entered _ => entered

/-- What is remembered of the parts. -/
def parts : Trail → List Trail
  | node _ parts => parts

/-- What is remembered of the first part. -/
def head (t : Trail) : Trail := t.parts.headD fresh

end Trail

/-- A step of a search: from a set of positions to those that it leads to, apart from such as it has
    led to before. -/
abbrev Step := Trail → Nat → Trail × Nat

/-- Runs a step `count` times, or until nothing is left. -/
def runExactly (step : Step) (done : List Trail) : Nat → List Trail → Nat → Trail × Nat
  | 0, trails, set => (.node 0 (done.reverse ++ trails), set)
  | count + 1, trails, set =>
    if set = 0 then (.node 0 (done.reverse ++ trails), 0)
    else
      let (trail, set) := step (trails.headD .fresh) set
      runExactly step (trail :: done) count trails.tail set

/-- Runs a step up to `count` times, collecting what is reached on the way. -/
def runUpTo (step : Step) (done : List Trail) (reached : Nat) :
    Nat → List Trail → Nat → Trail × Nat
  | 0, trails, _ => (.node 0 (done.reverse ++ trails), reached)
  | count + 1, trails, set =>
    if set = 0 then (.node 0 (done.reverse ++ trails), reached)
    else
      let (trail, set) := step (trails.headD .fresh) set
      runUpTo step (trail :: done) (reached ||| set) count trails.tail set

/-- Runs a step once and more often, from all positions that were not entered before, until there
    are none. Each round enters a new position, so the number of positions bounds the rounds. -/
def runOn (step : Step) (reached : Nat) : Nat → Trail → Nat → Trail × Nat
  | 0, trail, _ => (trail, reached)
  | rounds + 1, trail, set =>
    let new := set ^^^ (set &&& trail.entered)
    if new = 0 then (trail, reached)
    else
      let (body, set) := step trail.head new
      runOn step (reached ||| set) rounds (.node (trail.entered ||| new) [body]) set

/-- Moves over `count` characters at given positions, or until nothing is left. -/
def moveOver (mask : Nat) : Nat → Nat → Nat
  | 0, set => set
  | count + 1, set => if set = 0 then 0 else moveOver mask count ((set &&& mask) <<< 1)

/-- Moves over any number of characters at given positions: a carry goes through each run of
    ones. -/
def moveOn (mask set : Nat) : Nat := (((set &&& mask) + mask) ^^^ mask) ||| set

/-- A repetition of a step in a text of `size` characters: first as often as required, then as often
    as allowed. An unbounded repetition goes on with the last step that is required. More than
    `size + 1` times reach nothing that `size + 1` times do not, since each time goes forward or
    stays. -/
def runTimes (size least : Nat) (most : Option Nat) (step : Step) : Step := fun trail set =>
  let required := if most.isNone then least - 1 else least
  let (start, set) := runExactly step [] (min required (size + 1)) trail.head.parts set
  let rest : Trail := (trail.parts.drop 1).headD .fresh
  let (rest, set) :=
    match most with
    | none => runOn step (if least = 0 then set else 0) (size + 2) rest set
    | some most => runUpTo step [] set (min (most - least) (size + 1)) rest.parts set
  (.node 0 [start, rest], set)

mutual

/-- The step of a placed pattern. -/
def advance (size : Nat) : Placed → Step
  | .moves masks, trail, set =>
    (trail, masks.foldl (fun set mask => (set &&& mask) <<< 1) set)
  | .stays mask, trail, set => (trail, set &&& mask)
  | .iterate (.moves [mask]) least none, trail, set =>
    (trail, moveOn mask (moveOver mask (min least (size + 1)) set))
  | .iterate p least most, trail, set => runTimes size least most (advance size p) trail set
  | .seq ps, trail, set => advanceSeq size [] ps trail.parts set
  | .alt ps, trail, set => advanceAlt size [] 0 ps trail.parts set

/-- The steps of patterns one after another. -/
def advanceSeq (size : Nat) (done : List Trail) : List Placed → List Trail → Nat → Trail × Nat
  | [], _, set => (.node 0 done.reverse, set)
  | p :: ps, trails, set =>
    if set = 0 then (.node 0 (done.reverse ++ trails), 0)
    else
      let (trail, set) := advance size p (trails.headD .fresh) set
      advanceSeq size (trail :: done) ps trails.tail set

/-- The steps of several patterns from the same positions. -/
def advanceAlt (size : Nat) (done : List Trail) (reached : Nat) :
    List Placed → List Trail → Nat → Trail × Nat
  | [], _, _ => (.node 0 done.reverse, reached)
  | p :: ps, trails, set =>
    let (trail, next) := advance size p (trails.headD .fresh) set
    advanceAlt size (trail :: done) (reached ||| next) ps trails.tail set

end

/-- Whether a pattern matches somewhere in a text. Each test is made once, however often the pattern
    asks for it. -/
def isMatch (p : Pattern) (text : List Char) : Bool :=
  let masks := (p.tests []).map fun test => (test, test.mask text)
  let placed := p.place fun test => (masks.lookup test).getD 0
  (advance text.length placed .fresh (1 <<< (text.length + 1) - 1)).2 != 0

/-- Whether a pattern matches in the text of one character. -/
def acceptsChar (p : Pattern) (c : Char) : Bool := p.isMatch [c]

end RecordQuery.Pattern
