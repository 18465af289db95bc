import RecordQuery.Text.Property

/-!
# Patterns

A regular expression as what matters for a search: characters by the sets that hold them,
assertions by what they ask of the characters around a position, and the ways to combine them.

* `Pattern`: the patterns.
* `Pattern.ofSet`, `times`, `concat`, `oneOf`: build a pattern from parts in its simplest form: no
  repetition that changes nothing, no list within a list of the same kind, one set instead of a
  choice of characters.
-/

namespace RecordQuery

open RecordQuery.Text

/-! ### Assertions -/

/-- Where a position stands to the words around it. -/
inductive WordEdge where
  /-- A word starts or ends. -/
  | boundary
  /-- No word starts or ends. -/
  | inside
  /-- A word starts. -/
  | start
  /-- A word ends. -/
  | stop
  /-- No word goes on from before. -/
  | startHalf
  /-- No word goes on after. -/
  | stopHalf
deriving DecidableEq

/-- What a position asks of the characters before and after, given whether these belong to words. -/
def WordEdge.holds : WordEdge → Bool → Bool → Bool
  | boundary, before, after => before != after
  | inside, before, after => before == after
  | start, before, after => !before && after
  | stop, before, after => before && !after
  | startHalf, before, _ => !before
  | stopHalf, _, after => !after

/-- A condition on a position. -/
inductive Assertion where
  /-- The start of the text. -/
  | textStart
  /-- The end of the text. -/
  | textEnd
  /-- The start of a line, which may also end in a carriage return if `crlf` is set. -/
  | lineStart (crlf : Bool)
  /-- The end of a line, which may also end in a carriage return if `crlf` is set. -/
  | lineEnd (crlf : Bool)
  /-- A position relative to words, those of ASCII unless `unicode` is set. -/
  | word (unicode : Bool) (edge : WordEdge)
deriving DecidableEq

/-- A character of a word within ASCII. -/
def isAsciiWord (c : Char) : Bool := c.isAlphanum || c == '_'

/-- Whether a position between a previous and a next character, either of which may be missing,
    meets a condition. -/
def Assertion.holds (before after : Option Char) : Assertion → Bool
  | textStart => before.isNone
  | textEnd => after.isNone
  | lineStart crlf =>
    before.isNone || before == some '\n' || (crlf && before == some '\r' && after != some '\n')
  | lineEnd crlf =>
    after.isNone || (after == some '\n' && !(crlf && before == some '\r')) ||
      (crlf && after == some '\r')
  | word unicode edge =>
    let isWord := if unicode then Property.word.contains else isAsciiWord
    edge.holds (before.any isWord) (after.any isWord)

/-! ### Patterns -/

/-- A regular expression. -/
inductive Pattern where
  /-- The empty text. -/
  | empty
  /-- A given text, which is not empty. -/
  | literal (text : List Char)
  /-- One character of a set. -/
  | char (set : CodePoints)
  /-- A position that meets a condition. -/
  | look (assertion : Assertion)
  /-- A pattern `least` to `most` times in a row, without bound if there is no `most`; as often as
      possible if it is eager, which does not change whether there is a match. -/
  | iterate (body : Pattern) (least : Nat) (most : Option Nat) (eager : Bool)
  /-- A pattern whose match could be asked for. -/
  | group (body : Pattern)
  /-- Patterns one after another. -/
  | seq (parts : List Pattern)
  /-- One of several patterns. -/
  | alt (options : List Pattern)

namespace Pattern

/-! ### Equality -/

mutual

/-- Equality of patterns without groups; no two groups are the same. -/
def same : Pattern → Pattern → Bool
  | .empty, .empty => true
  | .literal s, .literal t => s == t
  | .char s, .char t => s == t
  | .look a, .look b => a == b
  | .iterate p least most eager, .iterate q least' most' eager' =>
    least == least' && most == most' && eager == eager' && p.same q
  | .seq ps, .seq qs => sameAll ps qs
  | .alt ps, .alt qs => sameAll ps qs
  | _, _ => false

/-- Equality of lists of patterns. -/
def sameAll : List Pattern → List Pattern → Bool
  | [], [] => true
  | p :: ps, q :: qs => p.same q && sameAll ps qs
  | _, _ => false

end

/-! ### Lengths of matches -/

mutual

/-- The length of the shortest match; unknown if a part matches nothing at all. -/
def minLength? : Pattern → Option Nat
  | .empty => some 0
  | .literal text => some text.length
  | .char set => if set.runs.isEmpty then none else some 1
  | .look _ => some 0
  | .iterate p least _ _ => p.minLength?.map (least * ·)
  | .group p => p.minLength?
  | .seq ps => minSum? 0 ps
  | .alt ps => minLeast? none ps

/-- The sum of the shortest lengths, added to a number. -/
def minSum? (sum : Nat) : List Pattern → Option Nat
  | [] => some sum
  | p :: ps =>
    match p.minLength? with
    | none => none
    | some n => minSum? (sum + n) ps

/-- The least of the shortest lengths and a number. -/
def minLeast? (least : Option Nat) : List Pattern → Option Nat
  | [] => least
  | p :: ps =>
    match p.minLength? with
    | none => none
    | some n => minLeast? (some (min n (least.getD n))) ps

end

mutual

/-- Every match is empty. -/
def isWidthless : Pattern → Bool
  | .empty => true
  | .literal _ => false
  | .char _ => false
  | .look _ => true
  | .iterate p _ most _ => most.isSome && p.isWidthless
  | .group p => p.isWidthless
  | .seq ps => areWidthless ps
  | .alt ps => areWidthless ps

/-- Every match of any of the patterns is empty. -/
def areWidthless : List Pattern → Bool
  | [] => true
  | p :: ps => p.isWidthless && areWidthless ps

end

/-! ### Building -/

/-- One character of a set; a set of one character is a text. -/
def ofSet (set : CodePoints) : Pattern :=
  match set.single? with
  | some c => .literal [c]
  | none => .char set

/-- A repetition. What is always empty needs to be matched at most once. -/
def times (body : Pattern) (least : Nat) (most : Option Nat) (eager : Bool) : Pattern :=
  let (least, most) :=
    if body.isWidthless then (min least 1, some (min (most.getD 1) 1)) else (least, most)
  if most = some 0 then .empty
  else if least = 1 ∧ most = some 1 then body
  else .iterate body least most eager

/-- The patterns of which a pattern is the sequence. -/
def parts : Pattern → List Pattern
  | .empty => []
  | .seq ps => ps
  | p => [p]

/-- Puts a pattern before others, joining texts that meet. -/
def prepend : Pattern → List Pattern → List Pattern
  | .literal s, .literal t :: ps => .literal (s ++ t) :: ps
  | p, ps => p :: ps

/-- Patterns one after another. -/
def concat (ps : List Pattern) : Pattern :=
  match (ps.flatMap parts).foldr prepend [] with
  | [] => .empty
  | [p] => p
  | ps => .seq ps

/-- The patterns among which a pattern is the choice. -/
def options : Pattern → List Pattern
  | .alt ps => ps
  | p => [p]

/-- The set of which a pattern is the only character. -/
def charOfText? : Pattern → Option CodePoints
  | .literal [c] => some (.singleton c)
  | _ => none

/-- The set of characters that a pattern is. -/
def charSet? : Pattern → Option CodePoints
  | .char set => some set
  | _ => none

/-- The parts of a sequence. -/
def seqParts? : Pattern → Option (List Pattern)
  | .seq ps => some ps
  | _ => none

/-- What two sequences have in common at their start. -/
def common : List Pattern → List Pattern → List Pattern
  | p :: ps, q :: qs => if p.same q then p :: common ps qs else []
  | _, _ => []

/-- One of several patterns. A choice among characters or among sets is one set, and what all
    sequences start with comes before the choice; `depth` bounds how often. -/
def oneOf (depth : Nat) (ps : List Pattern) : Pattern :=
  match ps.flatMap options with
  | [] => .char .empty
  | [p] => p
  | p :: ps =>
    match ((p :: ps).mapM charOfText?).or ((p :: ps).mapM charSet?) with
    | some sets => ofSet (.unions sets)
    | none =>
      match depth, (p :: ps).mapM seqParts? with
      | depth + 1, some (first :: others) =>
        let start := others.foldl common first
        if start.isEmpty then .alt (p :: ps)
        else
          let rests := (first :: others).map fun ps => concat (ps.drop start.length)
          concat (start ++ [oneOf depth rests])
      | _, _ => .alt (p :: ps)

end Pattern

end RecordQuery
