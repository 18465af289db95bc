import Mathlib.Data.List.TakeWhile
import Mathlib.Tactic.SplitIfs
import RecordQuery.Grammar.Standard
import RecordQuery.Proofs.Lexing.Reading

/-!
# Reading the standard grammar

Seven descriptors of the standard grammar accept a first character, each those of a class of its
own, and white space is none of them; all other descriptors are found by their reserved word.

* `Grammar.startingWith?_standard`: the descriptor by the first character.
* `Grammar.scan_name`, `Grammar.scan_punctuation`, `Grammar.scan_digits`: white space ends all runs.
-/

namespace RecordQuery.Grammar

open RecordQuery.Numeral (isDigit)
open RecordQuery.Text

variable {c : Char}

/-! ### Classes of characters -/

theorem beq_iff (c d : Char) : (c == d) = true ↔ c.toNat = d.toNat := by
  rw [beq_iff_eq, Char.toNat_inj]

theorem isNameStart_iff : isNameStart c = true ↔
    (97 ≤ c.toNat ∧ c.toNat ≤ 122) ∨ (65 ≤ c.toNat ∧ c.toNat ≤ 90) ∨ c.toNat = 95 := by
  rw [isNameStart, Bool.or_eq_true, Bool.or_eq_true, Bool.and_eq_true, Bool.and_eq_true,
    decide_eq_true_iff, decide_eq_true_iff, decide_eq_true_iff, decide_eq_true_iff, beq_iff,
    or_assoc]
  exact Iff.rfl

theorem isDigit_iff : isDigit c = true ↔ 48 ≤ c.toNat ∧ c.toNat ≤ 57 := by
  rw [isDigit, Bool.and_eq_true, decide_eq_true_iff, decide_eq_true_iff]
  exact Iff.rfl

theorem isQuote_iff : isQuote c = true ↔ c.toNat = 39 ∨ c.toNat = 34 := by
  rw [isQuote, Bool.or_eq_true, beq_iff, beq_iff]
  exact Iff.rfl

theorem isBracket_iff : isBracket c = true ↔
    c.toNat = 40 ∨ c.toNat = 41 ∨ c.toNat = 123 ∨ c.toNat = 125 := by
  rw [isBracket, Bool.or_eq_true, Bool.or_eq_true, Bool.or_eq_true, beq_iff, beq_iff, beq_iff,
    beq_iff, or_assoc, or_assoc]
  exact Iff.rfl

theorem isWhiteSpace_iff : isWhiteSpace c = true ↔
    (9 ≤ c.toNat ∧ c.toNat ≤ 13) ∨ c.toNat = 32 ∨ c.toNat = 133 ∨ c.toNat = 160 ∨
      c.toNat = 5760 ∨ (8192 ≤ c.toNat ∧ c.toNat ≤ 8202) ∨ c.toNat = 8232 ∨ c.toNat = 8233 ∨
      c.toNat = 8239 ∨ c.toNat = 8287 ∨ c.toNat = 12288 := by
  simp [isWhiteSpace, or_assoc]

theorem isNameChar_iff : isNameChar c = true ↔ isNameStart c = true ∨ isDigit c = true := by
  rw [isNameChar, Bool.or_eq_true]

theorem isPunctuation_iff : isPunctuation c = true ↔
    ¬ isWhiteSpace c = true ∧ ¬ isQuote c = true ∧ ¬ isNameChar c = true ∧
      ¬ isBracket c = true := by
  simp [isPunctuation, and_assoc]

section

variable (h : isWhiteSpace c = true)
include h

theorem isNameChar_of_isWhiteSpace : isNameChar c = false := by
  rw [← Bool.not_eq_true, isNameChar_iff]
  simp only [isWhiteSpace_iff, isDigit_iff, isNameStart_iff] at h ⊢
  omega

theorem isPunctuation_of_isWhiteSpace : isPunctuation c = false := by
  rw [← Bool.not_eq_true, isPunctuation_iff]
  exact fun hc => hc.1 h

theorem isDigit_or_point_of_isWhiteSpace : (isDigit c || c == '.') = false := by
  rw [← Bool.not_eq_true, Bool.or_eq_true, beq_iff]
  simp only [isWhiteSpace_iff, isDigit_iff, Char.reduceToNat] at h ⊢
  omega

end

/-! ### Lookups -/

/-- The descriptor with an id. -/
def described (id : String) : Descriptor := (standard.get? id).getD .unknown

/-- The descriptor that scans from a first character. The one that was registered last comes first,
    but the classes are disjoint. -/
theorem startingWith?_standard (c : Char) : standard.startingWith? c =
    if c == ')' then some (described "close_parenthesis")
    else if c == '(' then some (described "open_parenthesis")
    else if c == '\x7b' then some (described "parameter")
    else if isQuote c then some (described "string")
    else if isDigit c then some (described "number")
    else if isNameStart c then some (described "record_property")
    else if isPunctuation c then some (described "unknown")
    else none := by
  simp only [← Bool.cond_eq_ite]
  rfl

/-- A quote starts a string. -/
theorem startingWith?_of_isQuote (h : isQuote c = true) :
    standard.startingWith? c = some (described "string") := by
  rw [startingWith?_standard]
  simp only [beq_iff, isQuote_iff, Char.reduceToNat] at h ⊢
  split_ifs <;> first | rfl | omega

/-- A digit starts a number. -/
theorem startingWith?_of_isDigit (h : isDigit c = true) :
    standard.startingWith? c = some (described "number") := by
  rw [startingWith?_standard]
  simp only [beq_iff, isQuote_iff, isDigit_iff, Char.reduceToNat] at h ⊢
  split_ifs <;> first | rfl | omega

/-- A letter or an underscore starts a name. -/
theorem startingWith?_of_isNameStart (h : isNameStart c = true) :
    standard.startingWith? c = some (described "record_property") := by
  rw [startingWith?_standard]
  simp only [beq_iff, isQuote_iff, isDigit_iff, isNameStart_iff, Char.reduceToNat] at h ⊢
  split_ifs <;> first | rfl | omega

/-- Punctuation starts a run that is unknown unless it is reserved. -/
theorem startingWith?_of_isPunctuation (h : isPunctuation c = true) :
    standard.startingWith? c = some (described "unknown") := by
  rw [startingWith?_standard, if_pos h]
  simp only [isPunctuation_iff, isNameChar_iff, isBracket_iff, beq_iff, Char.reduceToNat] at h ⊢
  split_ifs <;> first | rfl | simp_all

/-- White space starts nothing. -/
theorem startingWith?_of_isWhiteSpace (h : isWhiteSpace c = true) :
    standard.startingWith? c = none := by
  rw [startingWith?_standard, isPunctuation_of_isWhiteSpace h, if_neg Bool.false_ne_true]
  simp only [isWhiteSpace_iff, beq_iff, isQuote_iff, isDigit_iff, isNameStart_iff,
    Char.reduceToNat] at h ⊢
  split_ifs <;> first | rfl | omega

/-! ### Runs -/

/-- Names, which can also be the spelling of an operator or a constant. -/
def isName : List Char → Bool := isRun isNameStart isNameChar

/-- A name has characters of names only. -/
theorem isNameChar_of_isName {text : List Char} (h : isName text = true) :
    ∀ c ∈ text, isNameChar c = true := by
  cases text with
  | nil => cases h
  | cons c cs =>
    obtain ⟨hstart, hcs⟩ := Bool.and_eq_true_iff.1 h
    exact List.forall_mem_cons.2 ⟨isNameChar_iff.2 (.inl hstart), List.all_eq_true.1 hcs⟩

/-- Runs of punctuation. -/
def isPunctuationRun : List Char → Bool := isRun isPunctuation isPunctuation

/-- Numerals and what looks like them. -/
def isDigitRun : List Char → Bool := isRun isDigit fun c => isDigit c || c == '.'

/-! ### Reserved words -/

/-- Whether no token of the standard grammar is spelled as a word. -/
def Unreserved (word : String) : Prop := ∀ d ∈ standard.entries, d.reservedWord ≠ some word

/-- A word is unreserved if the grammar does not find it. -/
theorem unreserved_iff {word : String} : Unreserved word ↔ standard.reserved? word = none := by
  rw [reserved?, List.find?_eq_none]
  constructor
  · intro h d hd
    rw [beq_iff_eq]
    exact h d (List.mem_reverse.1 hd)
  · intro h d hd hword
    exact h d (List.mem_reverse.2 hd) (beq_iff_eq.2 hword)

instance (word : String) : Decidable (Unreserved word) :=
  decidable_of_iff ((standard.reserved? word).isNone = true)
    (Option.isNone_iff_eq_none.trans unreserved_iff.symm)

/-- A text that is no reserved word keeps the descriptor that scanned it. -/
theorem resolve_of_unreserved {text : List Char} (h : Unreserved (String.ofList text))
    (d : Descriptor) : standard.resolve d text = d := by
  rw [resolve, unreserved_iff.1 h]
  split <;> rfl

/-- A text that is no reserved word is the literal of the descriptor that scanned it. -/
theorem finish_of_unreserved {d : Descriptor} {word : String} (hword : Unreserved word)
    (hd : d.carriesText = true) (counts : Counts) :
    standard.finish counts d word.toList = (⟨d, .text word⟩, counts) := by
  rw [← String.ofList_toList (s := word)] at hword
  rw [finish_of_carriesText (resolve_of_unreserved hword d) hd, String.ofList_toList]

/-- A reserved word gets its own descriptor. -/
theorem finish_of_reserved? {d scanned : Descriptor} {word : String}
    (hscanned : scanned.delimited = false) (hword : standard.reserved? word = some d)
    (hd : d.carriesText = true) (counts : Counts) :
    standard.finish counts scanned word.toList = (⟨d, .text word⟩, counts) := by
  have hresolve : standard.resolve scanned word.toList = d := by
    rw [resolve, hscanned, String.ofList_toList, hword]
    rfl
  rw [finish_of_carriesText hresolve hd, String.ofList_toList]

/-- An enclosed text is never a reserved word. -/
theorem finish_enclosed {d : Descriptor} (hdelimited : d.delimited = true)
    (hd : d.carriesText = true) (counts : Counts) (body : String) :
    standard.finish counts d body.toList = (⟨d, .text body⟩, counts) := by
  have hresolve : standard.resolve d body.toList = d := by
    rw [resolve, hdelimited]
    rfl
  rw [finish_of_carriesText hresolve hd, String.ofList_toList]

/-- Reserved words are spelled as names or as punctuation. -/
theorem isName_or_isPunctuationRun : ∀ d ∈ standard.entries, ∀ word ∈ d.reservedWord,
    isName word.toList = true ∨ isPunctuationRun word.toList = true := by
  decide

/-- The operators and constants. -/
def keywords : List Descriptor := booleanOperators ++ comparators ++ constants

/-- Operators and constants are found by their word and by their id, and carry their text. -/
theorem keywords_spec : ∀ d ∈ keywords, ∃ word, d.reservedWord = some word ∧
    standard.reserved? word = some d ∧ described d.id = d ∧ d.carriesText = true := by
  repeat refine List.forall_mem_cons.2 ⟨⟨_, rfl, rfl, rfl, rfl⟩, ?_⟩
  exact fun _ h => absurd h List.not_mem_nil

/-! ### Numerals -/

/-- No reserved word begins with a digit. -/
theorem unreserved_of_isDigitRun {text : List Char} (h : isDigitRun text = true) :
    Unreserved (String.ofList text) := by
  intro d hd hword
  have hrun := isName_or_isPunctuationRun d hd _ hword
  rw [String.toList_ofList] at hrun
  cases text with
  | nil => cases h
  | cons c cs =>
    have hdigit := (Bool.and_eq_true_iff.1 h).1
    -- Neither a name nor punctuation begins with a digit.
    rcases hrun with hname | hpunctuation
    · have hstart := (Bool.and_eq_true_iff.1 hname).1
      rw [isNameStart_iff] at hstart
      rw [isDigit_iff] at hdigit
      omega
    · have hstart := (Bool.and_eq_true_iff.1 hpunctuation).1
      exact (isPunctuation_iff.1 hstart).2.2.1 (isNameChar_iff.2 (.inr hdigit))

/-- A numeral that stands for a number is a token with this number. -/
theorem finish_numeral {text : List Char} {literal : Literal} (hrun : isDigitRun text = true)
    (hnumeral : isNumeral text = true) (hliteral : Literal.ofNumeral? text = some literal)
    (counts : Counts) :
    standard.finish counts (described "number") text =
      (⟨described "number", literal⟩, counts) := by
  have hformat : (described "number").acceptsFormat text = true := hnumeral
  have hkind : (described "number").kind = .number := rfl
  rw [finish, resolve_of_unreserved (unreserved_of_isDigitRun hrun)]
  simp only [hformat, hkind, hliteral]
  rfl

section

variable {text : List Char} (hne : text ≠ []) (hdigits : ∀ c ∈ text, isDigit c = true)
include hne hdigits

/-- Digits are a run of what looks like a numeral. -/
theorem isDigitRun_of_isDigit : isDigitRun text = true := by
  cases text with
  | nil => exact absurd rfl hne
  | cons c cs =>
    obtain ⟨hc, hcs⟩ := List.forall_mem_cons.1 hdigits
    refine Bool.and_eq_true_iff.2 ⟨hc, List.all_eq_true.2 fun x hx => ?_⟩
    rw [hcs x hx, Bool.true_or]

theorem isNumeral_of_isDigit : isNumeral text = true := by
  rw [isNumeral, List.takeWhile_eq_self_iff.2 hdigits, List.dropWhile_eq_nil_iff.2 hdigits,
    List.isEmpty_eq_false_iff.2 hne]
  rfl

end

/-! ### Tokens up to white space -/

/-- Whether a rest of a text is set off from the token before it. -/
def SetOff (rest : List Char) : Prop := ∀ c ∈ rest.head?, isWhiteSpace c = true

section

variable {counts counts' : Counts} {t : Token} {text rest : List Char} (hrest : SetOff rest)
include hrest

/-- A name that is set off is scanned whole. -/
theorem scan_name (hname : isName text = true)
    (hfinish : standard.finish counts (described "record_property") text = (t, counts')) :
    standard.scan counts (text ++ rest) = some (t, ⟨rest, counts'⟩) := by
  refine scan_run rfl rfl rfl (fun _ => startingWith?_of_isNameStart) hname ?_ hfinish
  intro x hx
  exact isNameChar_of_isWhiteSpace (hrest x hx)

/-- A run of punctuation that is set off is scanned whole. -/
theorem scan_punctuation (hrun : isPunctuationRun text = true)
    (hfinish : standard.finish counts (described "unknown") text = (t, counts')) :
    standard.scan counts (text ++ rest) = some (t, ⟨rest, counts'⟩) := by
  refine scan_run rfl rfl rfl (fun _ => startingWith?_of_isPunctuation) hrun ?_ hfinish
  intro x hx
  exact isPunctuation_of_isWhiteSpace (hrest x hx)

/-- A run of digits and points that is set off is scanned whole. -/
theorem scan_digits (hrun : isDigitRun text = true)
    (hfinish : standard.finish counts (described "number") text = (t, counts')) :
    standard.scan counts (text ++ rest) = some (t, ⟨rest, counts'⟩) := by
  refine scan_run rfl rfl rfl (fun _ => startingWith?_of_isDigit) hrun ?_ hfinish
  intro x hx
  exact isDigit_or_point_of_isWhiteSpace (hrest x hx)

end

end RecordQuery.Grammar
