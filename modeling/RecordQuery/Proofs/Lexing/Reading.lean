import Mathlib.Data.List.Basic
import RecordQuery.Token

/-!
# Reading tokens

How a lexer takes its text apart: what a descriptor makes of a text that begins as such a token is
spelled, and how the tokens of a text follow from its first token and the rest.

* `Lexer.tokens_of_next?`: reading goes on where the first token ends.
* `Descriptor.segment_run`, `Descriptor.segment_enclosed`: the two kinds of longer tokens, runs up
  to a character that stops them and texts up to a closing character.
* `Grammar.scan_of_segment`, `Grammar.scan_run`: the first token, from its text.
-/

namespace RecordQuery

namespace Lexer

variable {g : Grammar} {l l' : Lexer} {t : Token}

theorem collect_of_next?_eq_none (h : l.next? g = none) (read : List Token) :
    l.collect g read = read.reverse := by
  rw [collect]
  split
  · rfl
  · rename_i hnext
    rw [h] at hnext
    cases hnext

/-- Reading takes a token and goes on. -/
theorem collect_of_next? (h : l.next? g = some (t, l')) (read : List Token) :
    l.collect g read = l'.collect g (t :: read) := by
  rw [collect]
  split
  · rename_i hnext
    rw [h] at hnext
    cases hnext
  · rename_i hnext
    rw [h] at hnext
    cases hnext
    rfl

/-- Tokens read before only stand in front. -/
theorem collect_append (g : Grammar) (l : Lexer) (read earlier : List Token) :
    l.collect g (read ++ earlier) = earlier.reverse ++ l.collect g read := by
  induction l, read using collect.induct g with
  | case1 l read hnext =>
    rw [collect_of_next?_eq_none hnext, collect_of_next?_eq_none hnext, List.reverse_append]
  | case2 l read t l' hnext ih =>
    rw [collect_of_next? hnext, collect_of_next? hnext]
    exact ih

theorem tokens_of_next?_eq_none (h : l.next? g = none) : l.tokens g = [] :=
  collect_of_next?_eq_none h []

/-- The tokens of a text are its first token and those of the rest. -/
theorem tokens_of_next? (h : l.next? g = some (t, l')) : l.tokens g = t :: l'.tokens g := by
  rw [tokens, collect_of_next? h]
  exact collect_append g l' [] [t]

end Lexer

/-! ### Segments -/

namespace Descriptor

variable {d : Descriptor} {c : Char} {cs rest : List Char}

/-- A run of characters on which the token goes on ends where it does not, or with the text. -/
theorem segment_run {next : Char → Bool} (hdelimited : d.delimited = false)
    (hsingle : d.single = false) (hstop : d.stopChar = some fun x => !next x)
    (hcs : ∀ x ∈ cs, next x = true) (hrest : ∀ x ∈ rest.head?, next x = false) :
    d.segment c (cs ++ rest) = (c :: cs, rest) := by
  have hgo : (fun x => !d.stopsAt x) = next := by
    funext x
    rw [stopsAt, hstop]
    exact Bool.not_not (next x)
  rw [segment, hdelimited, hsingle, hgo, List.takeWhile_append_of_pos hcs,
    List.dropWhile_append_of_pos hcs]
  cases rest with
  | nil => simp
  | cons x rest => simp [hrest x rfl]

/-- An enclosed text ends at the first closing character, which belongs to no token. -/
theorem segment_enclosed (hdelimited : d.delimited = true)
    (hcs : ∀ x ∈ cs, x ≠ d.closing.getD c) :
    d.segment c (cs ++ d.closing.getD c :: rest) = (cs, rest) := by
  have hgo : ∀ x ∈ cs, (x != d.closing.getD c) = true := fun x hx => bne_iff_ne.2 (hcs x hx)
  rw [segment, hdelimited]
  simp [List.takeWhile_append_of_pos hgo, List.dropWhile_append_of_pos hgo]

theorem segment_single (hdelimited : d.delimited = false) (hsingle : d.single = true) :
    d.segment c rest = ([c], rest) := by
  rw [segment, hdelimited, hsingle]
  rfl

/-- Whether tokens carry their text, of whatever shape it is. -/
def carriesText (d : Descriptor) : Bool :=
  d.format.isNone && !d.counted && decide (d.kind ≠ .number)

end Descriptor

/-! ### The first token -/

namespace Grammar

variable {g : Grammar} {counts counts' : Counts} {d e : Descriptor} {t : Token}
  {c : Char} {text cs rest : List Char}

theorem finish_of_carriesText (hresolve : g.resolve d text = e) (he : e.carriesText = true) :
    g.finish counts d text = (⟨e, .text (String.ofList text)⟩, counts) := by
  rw [Descriptor.carriesText] at he
  rw [finish, hresolve]
  simp_all [Descriptor.acceptsFormat]

theorem finish_of_counted (hresolve : g.resolve d text = e) (hformat : e.format = none)
    (hcounted : e.counted = true) :
    g.finish counts d text = (⟨e, .position (counts.get e.id)⟩, counts.increment e.id) := by
  rw [finish, hresolve]
  simp [Descriptor.acceptsFormat, hformat, hcounted]

/-- The first token is that of the text which the descriptor of the first character takes. -/
theorem scan_of_segment (hstart : g.startingWith? c = some d)
    (hsegment : d.segment c cs = (text, rest)) (hfinish : g.finish counts d text = (t, counts')) :
    g.scan counts (c :: cs) = some (t, ⟨rest, counts'⟩) := by
  rw [scan, hstart]
  simp only [hsegment, hfinish]

/-- An enclosed text is read without its ends. -/
theorem scan_enclosed (hstart : g.startingWith? c = some d) (hdelimited : d.delimited = true)
    (htext : d.closing.getD c ∉ text) (hfinish : g.finish counts d text = (t, counts')) :
    g.scan counts (c :: (text ++ d.closing.getD c :: rest)) = some (t, ⟨rest, counts'⟩) := by
  refine scan_of_segment hstart (Descriptor.segment_enclosed hdelimited ?_) hfinish
  rintro x hx rfl
  exact htext hx

/-- Whether a text has a first character of one class and otherwise characters of another. -/
def isRun (first next : Char → Bool) : List Char → Bool
  | [] => false
  | c :: cs => first c && cs.all next

/-- A run is read whole if the token does not go on after it. -/
theorem scan_run {first next : Char → Bool} (hdelimited : d.delimited = false)
    (hsingle : d.single = false) (hstop : d.stopChar = some fun x => !next x)
    (hstart : ∀ c, first c = true → g.startingWith? c = some d)
    (hrun : isRun first next text = true) (hrest : ∀ x ∈ rest.head?, next x = false)
    (hfinish : g.finish counts d text = (t, counts')) :
    g.scan counts (text ++ rest) = some (t, ⟨rest, counts'⟩) := by
  cases text with
  | nil => cases hrun
  | cons c cs =>
    obtain ⟨hc, hcs⟩ := Bool.and_eq_true_iff.1 hrun
    exact scan_of_segment (hstart c hc)
      (Descriptor.segment_run hdelimited hsingle hstop (List.all_eq_true.1 hcs) hrest) hfinish

/-- White space that starts no token is skipped. -/
theorem scan_append (hblank : ∀ x ∈ cs, Text.isWhiteSpace x = true ∧ g.startingWith? x = none) :
    g.scan counts (cs ++ rest) = g.scan counts rest := by
  induction cs with
  | nil => rfl
  | cons x cs ih =>
    obtain ⟨hx, hcs⟩ := List.forall_mem_cons.1 hblank
    rw [List.cons_append, scan, hx.2]
    simp only [hx.1, if_true]
    exact ih hcs

end Grammar

end RecordQuery
