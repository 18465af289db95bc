import RecordQuery.EvalError
import RecordQuery.Pattern.Reader

/-!
# Pattern caches

Patterns that were read before, by their texts, so that a condition evaluated on many records reads
each pattern once. A text that is not well-formed is never kept.
-/

namespace RecordQuery

/-- Patterns by their texts. -/
structure PatternCache where
  /-- The texts and what they were read as, the latest first. -/
  entries : List (String × Pattern) := []

namespace PatternCache

/-- The number of patterns in a cache. -/
def size (cache : PatternCache) : Nat := cache.entries.length

/-- The pattern kept for a text. -/
def find? (cache : PatternCache) (text : String) : Option Pattern := cache.entries.lookup text

/-- Keeps a pattern. -/
def insert (cache : PatternCache) (text : String) (pattern : Pattern) : PatternCache :=
  ⟨(text, pattern) :: cache.entries⟩

end PatternCache

/-- Reads a pattern. -/
def readPattern (text : String) : Except EvalError Pattern :=
  match Pattern.ofText? text.toList with
  | some pattern => .ok pattern
  | none => .error (.invalidPattern text)

/-- The pattern with a text, from the cache if there is one and it holds the text. A pattern that
    had to be read is kept. -/
def PatternCache.resolve (cache? : Option PatternCache) (text : String) :
    Except EvalError Pattern × Option PatternCache :=
  match cache? with
  | none => (readPattern text, none)
  | some cache =>
    match cache.find? text with
    | some pattern => (.ok pattern, some cache)
    | none =>
      match readPattern text with
      | .ok pattern => (.ok pattern, some (cache.insert text pattern))
      | .error e => (.error e, some cache)

end RecordQuery
