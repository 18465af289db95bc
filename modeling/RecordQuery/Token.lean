import RecordQuery.Decimal.Numeral
import RecordQuery.Grammar

/-!
# Tokens

A condition as a list of tokens. Reading one never fails: what the grammar does not know becomes a
token of class unknown.

* `Token`: a literal with the descriptor it was recognised by.
* `Lexer.next?`: the next token of a text; what is left is shorter (`rest_length_of_next?`).
* `Grammar.tokenize`: all tokens of a text.
-/

namespace RecordQuery

/-- A token of a condition. -/
structure Token where
  /-- The descriptor that recognised it. -/
  descriptor : Descriptor
  /-- What it carries. -/
  literal : Literal

namespace Token

/-- The class of a token. -/
def kind (t : Token) : TokenKind := t.descriptor.kind

/-- Equality of tokens: class, literal and id of the descriptor. -/
def equals (a b : Token) : Bool :=
  a.kind == b.kind && a.literal.equals b.literal && a.descriptor.id == b.descriptor.id

/-- Class and literal. -/
def display (t : Token) : String := t.kind.display ++ " " ++ t.literal.display

/-- A token that the grammar does not know. -/
def unknown (text : List Char) : Token := ⟨.unknown, .text (String.ofList text)⟩

end Token

/-- How many tokens of the counted descriptors there were, by id. -/
abbrev Counts := List (String × Nat)

namespace Counts

/-- The count of an id. -/
def get (counts : Counts) (id : String) : Nat := (counts.lookup id).getD 0

/-- Counts one more token of an id. -/
def increment (id : String) : Counts → Counts
  | [] => [(id, 1)]
  | (key, n) :: rest => if key = id then (key, n + 1) :: rest else (key, n) :: increment id rest

end Counts

/-- Where the reading of a text stands. -/
structure Lexer where
  /-- The text still to be read. -/
  rest : List Char
  /-- The counted tokens so far. -/
  counts : Counts := []

/-- The text of a token that starts with `c`, and what follows the token. -/
def Descriptor.segment (d : Descriptor) (c : Char) (rest : List Char) : List Char × List Char :=
  if d.delimited then
    let closing := d.closing.getD c
    (rest.takeWhile (· != closing), (rest.dropWhile (· != closing)).tail)
  else if d.single then ([c], rest)
  else (c :: rest.takeWhile (!d.stopsAt ·), rest.dropWhile (!d.stopsAt ·))

/-- The value of a number, an integer if it fits and else a double. -/
def Literal.ofNumeral? (text : List Char) : Option Literal :=
  match Numeral.integer? text with
  | some n => some (.integer n)
  | none => (Numeral.double? text).map .float

namespace Grammar

/-- The descriptor of a scanned text: that of the reserved word it spells, unless it is enclosed,
    or else the one that scanned it. -/
def resolve (g : Grammar) (scanned : Descriptor) (text : List Char) : Descriptor :=
  if scanned.delimited then scanned else (g.reserved? (String.ofList text)).getD scanned

/-- The token of a scanned text. A text that has not the shape its descriptor asks for is unknown;
    counted tokens carry their number and numbers their value. -/
def finish (g : Grammar) (counts : Counts) (scanned : Descriptor) (text : List Char) :
    Token × Counts :=
  let d := g.resolve scanned text
  if !d.acceptsFormat text then (.unknown text, counts)
  else if d.counted then (⟨d, .position (counts.get d.id)⟩, counts.increment d.id)
  else if d.kind = .number then
    match Literal.ofNumeral? text with
    | some literal => (⟨d, literal⟩, counts)
    | none => (.unknown text, counts)
  else (⟨d, .text (String.ofList text)⟩, counts)

/-- The first token of a text. White space that no descriptor accepts is skipped. -/
def scan (g : Grammar) (counts : Counts) : List Char → Option (Token × Lexer)
  | [] => none
  | c :: cs =>
    match g.startingWith? c with
    | none =>
      if Text.isWhiteSpace c then scan g counts cs else some (.unknown [c], ⟨cs, counts⟩)
    | some d =>
      let (text, rest) := d.segment c cs
      let (token, counts) := g.finish counts d text
      some (token, ⟨rest, counts⟩)

end Grammar

namespace Lexer

/-- The next token, none at the end of the text. -/
def next? (g : Grammar) (l : Lexer) : Option (Token × Lexer) := g.scan l.counts l.rest

theorem dropWhile_length_le (p : Char → Bool) (cs : List Char) :
    (cs.dropWhile p).length ≤ cs.length := by
  induction cs with
  | nil => simp
  | cons c cs ih => rw [List.dropWhile_cons]; split <;> simp_all; omega

/-- A token never takes more than the text after its first character. -/
theorem segment_length_le (d : Descriptor) (c : Char) (rest : List Char) :
    (d.segment c rest).2.length ≤ rest.length := by
  unfold Descriptor.segment
  split
  · have := dropWhile_length_le (· != d.closing.getD c) rest
    simp only [List.length_tail]; omega
  · split
    · simp
    · exact dropWhile_length_le _ rest

/-- Reading a token consumes text. -/
theorem rest_length_of_scan {g : Grammar} {counts : Counts} {cs : List Char} {t : Token}
    {l : Lexer} (h : g.scan counts cs = some (t, l)) : l.rest.length < cs.length := by
  induction cs with
  | nil => simp [Grammar.scan] at h
  | cons c cs ih =>
    unfold Grammar.scan at h
    split at h
    · split at h
      · have := ih h; simp only [List.length_cons]; omega
      · simp only [Option.some.injEq, Prod.mk.injEq] at h
        simp [← h.2]
    · simp only [Option.some.injEq, Prod.mk.injEq] at h
      have := segment_length_le ‹_› c cs
      simp only [← h.2, List.length_cons]; omega

/-- So does reading the next one wherever the reading stands. -/
theorem rest_length_of_next? {g : Grammar} {l l' : Lexer} {t : Token}
    (h : l.next? g = some (t, l')) : l'.rest.length < l.rest.length :=
  rest_length_of_scan h

/-- Reads all tokens, putting them before those read already, last first. -/
def collect (g : Grammar) (l : Lexer) (read : List Token) : List Token :=
  match _h : l.next? g with
  | none => read.reverse
  | some (t, l') => collect g l' (t :: read)
termination_by l.rest.length
decreasing_by exact rest_length_of_next? _h

/-- The tokens still to be read. -/
def tokens (g : Grammar) (l : Lexer) : List Token := l.collect g []

/-- The results of reading `n` tokens, none for each after the end, and where the reading stands
    then. -/
def take (g : Grammar) : Nat → Lexer → List (Option Token) × Lexer
  | 0, l => ([], l)
  | n + 1, l =>
    match l.next? g with
    | none => (List.replicate (n + 1) none, { l with rest := [] })
    | some (t, l) =>
      let (read, l) := take g n l
      (some t :: read, l)

end Lexer

/-- The tokens of a text. -/
def Grammar.tokenize (g : Grammar) (text : String) : List Token :=
  Lexer.tokens g ⟨text.toList, []⟩

end RecordQuery
