import RecordQuery.Proofs.Decimal.Numeral
import RecordQuery.Proofs.Lexing.Standard

/-!
# Writing and reading tokens

What conditions are made of, as they are written: a lexeme is a token by its spelling. Lexemes
written one after the other, with white space between them, are read as their tokens
(`Lexer.tokens_written`). Each lexeme has to be set off only from the next one, and is then read
alone (`Lexeme.scan_spelling`); the counts of the lexer are those of the wildcards before
(`numbered`).
-/

namespace RecordQuery

open Grammar

/-- A token of the standard grammar, as it is written. -/
inductive Lexeme where
  /-- The name of a property. -/
  | property (name : String) (isName : isName name.toList = true) (unreserved : Unreserved name)
  /-- A natural number that has 64 bits. -/
  | integer (n : ℕ) (bounded : n < Integer64.limit)
  /-- A string between two quotes of a kind that is not in it. -/
  | string (quote : Char) (body : String) (isQuote : isQuote quote = true)
      (free : quote ∉ body.toList)
  /-- A named parameter in braces. -/
  | parameter (name : String) (free : '\x7d' ∉ name.toList)
  /-- A wildcard. -/
  | wildCard
  /-- An operator or a constant. -/
  | keyword (d : Descriptor) (mem : d ∈ keywords)
  /-- An opening parenthesis. -/
  | openParen
  /-- A closing parenthesis. -/
  | closeParen
  /-- Punctuation without a meaning. -/
  | punctuation (run : String) (isRun : isPunctuationRun run.toList = true)
      (unreserved : Unreserved run)

namespace Lexeme

/-- The characters of a lexeme. -/
def spelling : Lexeme → List Char
  | property name _ _ => name.toList
  | integer n _ => Nat.toDigits 10 n
  | string quote body _ _ => quote :: (body.toList ++ [quote])
  | parameter name _ => '\x7b' :: (name.toList ++ ['\x7d'])
  | wildCard => ['%', '@']
  | keyword d _ => (d.reservedWord.getD "").toList
  | openParen => ['(']
  | closeParen => [')']
  | punctuation run _ _ => run.toList

/-- The class of the token. -/
def kind : Lexeme → TokenKind
  | property .. => .property
  | integer .. => .number
  | string .. => .string
  | parameter .. => .parameter
  | wildCard => .wildCard
  | keyword d _ => d.kind
  | openParen => .openParen
  | closeParen => .closeParen
  | punctuation .. => .unknown

/-- The id of the descriptor of the token. -/
def id : Lexeme → String
  | property .. => "record_property"
  | integer .. => "number"
  | string .. => "string"
  | parameter .. => "parameter"
  | wildCard => "wild_card"
  | keyword d _ => d.id
  | openParen => "open_parenthesis"
  | closeParen => "close_parenthesis"
  | punctuation .. => "unknown"

/-- What the token carries if it has `k` wildcards before it. -/
def literal (k : ℕ) : Lexeme → Literal
  | property name _ _ => .text name
  | integer n _ => .integer (.ofInt n)
  | string _ body _ _ => .text body
  | parameter name _ => .text name
  | wildCard => .position k
  | keyword d _ => .text (d.reservedWord.getD "")
  | openParen => .text "("
  | closeParen => .text ")"
  | punctuation run _ _ => .text run

/-- The token of a lexeme with `k` wildcards before it. -/
def token (k : ℕ) (l : Lexeme) : Token := ⟨described l.id, l.literal k⟩

theorem kind_token (k : ℕ) (l : Lexeme) : (l.token k).kind = l.kind := by
  cases l
  case keyword d hd =>
    obtain ⟨word, -, -, hdescribed, -⟩ := keywords_spec d hd
    exact congrArg Descriptor.kind hdescribed
  all_goals rfl

theorem id_token (k : ℕ) (l : Lexeme) : (l.token k).descriptor.id = l.id := by
  cases l
  case keyword d hd =>
    obtain ⟨word, -, -, hdescribed, -⟩ := keywords_spec d hd
    exact congrArg Descriptor.id hdescribed
  all_goals rfl

/-- The counts after a lexeme. -/
def count (counts : Counts) : Lexeme → Counts
  | wildCard => counts.increment "wild_card"
  | _ => counts

/-! ### One lexeme -/

section

variable {rest : List Char} (hrest : SetOff rest) (counts : Counts)
include hrest

/-- A keyword is read as its token, be it a name or punctuation. -/
theorem scan_keyword {d : Descriptor} (hd : d ∈ keywords) :
    standard.scan counts ((keyword d hd).spelling ++ rest) =
      some ((keyword d hd).token (counts.get "wild_card"), ⟨rest, counts⟩) := by
  obtain ⟨word, hword, hreserved, hdescribed, htext⟩ := keywords_spec d hd
  have hmem : d ∈ standard.entries := List.mem_reverse.1 (List.mem_of_find?_eq_some hreserved)
  have htoken : (keyword d hd).token (counts.get "wild_card") = ⟨d, .text word⟩ := by
    rw [token, id, literal, hdescribed, hword]
    rfl
  rw [spelling, hword, htoken]
  rcases isName_or_isPunctuationRun d hmem word hword with h | h
  · exact scan_name hrest h (finish_of_reserved? rfl hreserved htext counts)
  · exact scan_punctuation hrest h (finish_of_reserved? rfl hreserved htext counts)

/-- The digits of a natural number are read as that number. -/
theorem scan_integer {n : ℕ} (hn : n < Integer64.limit) :
    standard.scan counts ((integer n hn).spelling ++ rest) =
      some ((integer n hn).token (counts.get "wild_card"), ⟨rest, counts⟩) := by
  have hdigits : ∀ c ∈ Nat.toDigits 10 n, Numeral.isDigit c = true := fun c =>
    Numeral.isDigit_of_mem_toDigits
  have hne : Nat.toDigits 10 n ≠ [] := Nat.toDigits_ne_nil
  have hrun := isDigitRun_of_isDigit hne hdigits
  refine scan_digits hrest hrun (finish_numeral hrun (isNumeral_of_isDigit hne hdigits) ?_ counts)
  rw [Literal.ofNumeral?, Numeral.integer?_toDigits hn]
  rfl

/-- A lexeme that is set off from what follows is read as its token. -/
theorem scan_spelling (l : Lexeme) :
    standard.scan counts (l.spelling ++ rest) =
      some (l.token (counts.get "wild_card"), ⟨rest, l.count counts⟩) := by
  cases l with
  | property name hname hunreserved =>
    exact scan_name hrest hname (finish_of_unreserved hunreserved rfl counts)
  | integer n hn => exact scan_integer hrest counts hn
  | string quote body hquote hfree =>
    rw [spelling, List.cons_append, List.append_assoc]
    exact scan_enclosed (startingWith?_of_isQuote hquote) rfl hfree
      (finish_enclosed rfl rfl counts body)
  | parameter name hfree =>
    rw [spelling, List.cons_append, List.append_assoc]
    exact scan_enclosed (d := described "parameter") rfl rfl hfree
      (finish_enclosed rfl rfl counts name)
  | wildCard =>
    -- The run is the reserved word of the wildcard, whose descriptor counts its tokens.
    refine scan_punctuation hrest (by decide) ?_
    exact finish_of_counted (e := described "wild_card") rfl rfl rfl
  | keyword d hd => exact scan_keyword hrest counts hd
  | openParen =>
    exact scan_of_segment (d := described "open_parenthesis") rfl
      (Descriptor.segment_single rfl rfl) (finish_of_carriesText rfl rfl)
  | closeParen =>
    exact scan_of_segment (d := described "close_parenthesis") rfl
      (Descriptor.segment_single rfl rfl) (finish_of_carriesText rfl rfl)
  | punctuation run hrun hunreserved =>
    exact scan_punctuation hrest hrun (finish_of_unreserved hunreserved rfl counts)

end

end Lexeme

/-! ### Many lexemes -/

/-- Lexemes with the number of wildcards before each, counted from `k` on. -/
def numbered : ℕ → List Lexeme → List (ℕ × Lexeme)
  | _, [] => []
  | k, .wildCard :: ls => (k, .wildCard) :: numbered (k + 1) ls
  | k, l :: ls => (k, l) :: numbered k ls

/-- The text of lexemes, each after a gap. -/
def written (items : List (List Char × Lexeme)) : List Char :=
  items.flatMap fun item => item.1 ++ item.2.spelling

/-- A count goes up by one. -/
theorem Counts.get_increment (counts : Counts) (id : String) :
    (counts.increment id).get id = counts.get id + 1 := by
  induction counts with
  | nil => simp [increment, get]
  | cons entry counts ih =>
    obtain ⟨key, n⟩ := entry
    rw [increment]
    split
    · rename_i hkey
      simp [get, hkey]
    · rename_i hkey
      have hne : (id == key) = false := beq_false_of_ne fun h => hkey h.symm
      rw [get, get, List.lookup_cons, List.lookup_cons, hne]
      exact ih

/-- The number of the next lexeme is the count of the wildcards before it. -/
theorem numbered_cons (counts : Counts) (l : Lexeme) (ls : List Lexeme) :
    numbered (counts.get "wild_card") (l :: ls) =
      (counts.get "wild_card", l) :: numbered ((l.count counts).get "wild_card") ls := by
  cases l
  case wildCard => rw [numbered, Lexeme.count, Counts.get_increment]
  all_goals rfl

/-- Nothing but white space. -/
def IsBlank (gap : List Char) : Prop := ∀ c ∈ gap, Text.isWhiteSpace c = true

instance (gap : List Char) : Decidable (IsBlank gap) :=
  decidable_of_iff (gap.all Text.isWhiteSpace = true) List.all_eq_true

/-- What is written is set off, since it starts with a gap. -/
theorem setOff_written {items : List (List Char × Lexeme)} {trail : List Char}
    (hgap : ∀ item ∈ items, IsBlank item.1) (hne : ∀ item ∈ items, item.1 ≠ [])
    (htrail : IsBlank trail) : SetOff (written items ++ trail) := by
  intro c hc
  cases items with
  | nil => exact htrail c (List.mem_of_mem_head? hc)
  | cons item items =>
    cases hitem : item.1 with
    | nil => exact absurd hitem (hne item List.mem_cons_self)
    | cons x xs =>
      rw [written, List.flatMap_cons, hitem] at hc
      obtain rfl : x = c := Option.some.inj hc
      exact hgap item List.mem_cons_self x (hitem ▸ List.mem_cons_self)

/-- Lexemes with white space between them are read one by one. -/
theorem Lexer.tokens_written {items : List (List Char × Lexeme)} {trail : List Char}
    (hgap : ∀ item ∈ items, IsBlank item.1) (hne : ∀ item ∈ items.tail, item.1 ≠ [])
    (htrail : IsBlank trail) (counts : Counts) :
    Lexer.tokens standard ⟨written items ++ trail, counts⟩ =
      (numbered (counts.get "wild_card") (items.map Prod.snd)).map fun (k, l) => l.token k := by
  have hskip : ∀ {gap : List Char}, IsBlank gap →
      ∀ c ∈ gap, Text.isWhiteSpace c = true ∧ standard.startingWith? c = none :=
    fun h c hc => ⟨h c hc, startingWith?_of_isWhiteSpace (h c hc)⟩
  induction items generalizing counts with
  | nil =>
    refine tokens_of_next?_eq_none ?_
    have h : standard.scan counts (trail ++ []) = none := scan_append (hskip htrail)
    rwa [List.append_nil] at h
  | cons item items ih =>
    obtain ⟨gap, l⟩ := item
    obtain ⟨hblank, hgap⟩ := List.forall_mem_cons.1 hgap
    have hnext : Lexer.next? standard ⟨written ((gap, l) :: items) ++ trail, counts⟩ =
        some (l.token (counts.get "wild_card"), ⟨written items ++ trail, l.count counts⟩) := by
      -- What follows is set off: it begins with a gap, or only the trail is left.
      rw [next?, written, List.flatMap_cons, List.append_assoc, List.append_assoc,
        scan_append (hskip hblank)]
      exact l.scan_spelling (setOff_written hgap hne htrail) counts
    rw [tokens_of_next? hnext, List.map_cons, numbered_cons, List.map_cons,
      ih hgap (fun item hitem => hne item (List.mem_of_mem_tail hitem))]

/-- Reading undoes writing: the tokens of a text that is written as lexemes, with white space
    between them and perhaps around, have the classes, literals and ids of these, and the wildcards
    are numbered in order. -/
theorem tokenize_written {items : List (List Char × Lexeme)} {trail : List Char}
    (hgap : ∀ item ∈ items, IsBlank item.1) (hne : ∀ item ∈ items.tail, item.1 ≠ [])
    (htrail : IsBlank trail) :
    (standard.tokenize (String.ofList (written items ++ trail))).map
        (fun t => (t.kind, t.literal, t.descriptor.id)) =
      (numbered 0 (items.map Prod.snd)).map fun (k, l) => (l.kind, l.literal k, l.id) := by
  rw [tokenize, String.toList_ofList, Lexer.tokens_written hgap hne htrail, List.map_map]
  refine List.map_congr_left fun item _ => ?_
  obtain ⟨k, l⟩ := item
  show ((l.token k).kind, l.literal k, (l.token k).descriptor.id) = _
  rw [l.kind_token, l.id_token]

/-- Keywords and brackets in strings and parameters are text. -/
theorem tokenize_written_enclosed :
    (standard.tokenize "( name = \"a AND (b\" OR %@ ANY \x7bx y\x7d )\t+- 18  %@\n").map
        (fun t => (t.kind, t.literal, t.descriptor.id)) =
      [(.openParen, .text "(", "open_parenthesis"), (.property, .text "name", "record_property"),
        (.comparator, .text "=", "equals"), (.string, .text "a AND (b", "string"),
        (.boolOp, .text "OR", "or"), (.wildCard, .position 0, "wild_card"),
        (.comparator, .text "ANY", "any"), (.parameter, .text "x y", "parameter"),
        (.closeParen, .text ")", "close_parenthesis"), (.unknown, .text "+-", "unknown"),
        (.number, .integer 18, "number"), (.wildCard, .position 1, "wild_card")] := by
  have h := @tokenize_written
    [([], .openParen),
      ([' '], .property "name" (by decide) (by decide)),
      ([' '], .keyword comparators[0] (by simp [keywords])),
      ([' '], .string '"' "a AND (b" (by decide) (by decide)),
      ([' '], .keyword booleanOperators[1] (by simp [keywords])),
      ([' '], .wildCard),
      ([' '], .keyword comparators[8] (by simp [keywords])),
      ([' '], .parameter "x y" (by decide)),
      ([' '], .closeParen),
      (['\t'], .punctuation "+-" (by decide) (by decide)),
      ([' '], .integer 18 (by decide)),
      ([' ', ' '], .wildCard)]
    ['\n'] (by decide) (by decide) (by decide)
  rw [← String.ofList_toList (s := "( name = \"a AND (b\" OR %@ ANY \x7bx y\x7d )\t+- 18  %@\n")]
  exact h

end RecordQuery
