import RecordQuery.Proofs.Evaluation.Parameters
import RecordQuery.Proofs.Lexing.Segments

/-!
# Texts after each other

White space cuts a text: what is read before it does not depend on what comes after, and what is
read after it depends on what came before only in the numbers of the counted tokens. So the tokens
of two texts with white space between them are those of the first and those of the second, and
white space can be put between any two tokens of a text (`tokenize_apart`). The only exception is
enclosed text that is never closed, which takes all that follows it.

* `Lexer.ReadsTo`: reading some of the tokens.
* `Lexer.BreaksOff`, `Grammar.Unterminated`: enclosed text that is never closed.
* `Grammar.Splits`: white space is skipped and ends all runs, as in the standard grammar
  (`Grammar.splits_standard`).
* `Lexer.ReadsTo.replace_rest`: whatever follows some tokens, they stay the same if it ends all runs
  (`Grammar.EndsRuns`), as white space does.
* `Grammar.Splits.tokens_insert`: white space between tokens.
* `Token.renumber`, `Lexer.tokens_renumber`: reading with the counts of earlier tokens.
-/

namespace RecordQuery

variable {g : Grammar} {counts counts' : Counts} {t : Token} {ts : List Token} {l l' : Lexer}
  {c : Char} {d : Descriptor} {segment text rest rest' front back : List Char}

/-! ### Reading on -/

namespace Lexer

/-- Reading tokens, not always all of them, leads from one state of the reading to another. -/
inductive ReadsTo (g : Grammar) : Lexer → List Token → Lexer → Prop
  /-- No tokens. -/
  | nil {l : Lexer} : ReadsTo g l [] l
  /-- One more token. -/
  | cons {l l₁ l' : Lexer} {t : Token} {ts : List Token} :
    l.next? g = some (t, l₁) → ReadsTo g l₁ ts l' → ReadsTo g l (t :: ts) l'

/-- The next token is an enclosed text that is never closed. -/
def BreaksOff (g : Grammar) (l : Lexer) : Prop :=
  ∃ skipped c d body, l.rest = skipped ++ c :: body ∧ (∀ x ∈ skipped, g.Skips x) ∧
    g.IsLastFor c d ∧ d.delimited = true ∧ d.closing.getD c ∉ body

/-- Tokens that were read come before those that are read on. -/
theorem ReadsTo.tokens_eq (h : ReadsTo g l ts l') : l.tokens g = ts ++ l'.tokens g := by
  induction h with
  | nil => rfl
  | cons hnext _ ih => rw [tokens_of_next? hnext, ih, List.cons_append]

/-- Where nothing is left to be read, all tokens were read. -/
theorem ReadsTo.tokens_of_end (h : ReadsTo g l ts l') (hend : l'.next? g = none) :
    l.tokens g = ts := by
  rw [h.tokens_eq, tokens_of_next?_eq_none hend, List.append_nil]

/-- All tokens can be read. -/
theorem exists_readsTo (g : Grammar) (l : Lexer) :
    ∃ l', ReadsTo g l (l.tokens g) l' ∧ l'.next? g = none := by
  induction l using tokens_induct (g := g) with
  | nil l hnext => exact ⟨l, .nil, hnext⟩
  | cons l t l₁ hnext ih =>
    obtain ⟨l', hreads, hend⟩ := ih
    exact ⟨l', .cons hnext hreads, hend⟩

theorem rest_suffix_of_next? (h : l.next? g = some (t, l')) : l'.rest <:+ l.rest := by
  obtain ⟨skipped, segment, text, hcut, -, -⟩ := Grammar.scan_segment h
  exact ⟨skipped ++ segment, by rw [hcut, List.append_assoc]⟩

/-- After any tokens the end of the text is still to be read. -/
theorem ReadsTo.rest_suffix (h : ReadsTo g l ts l') : l'.rest <:+ l.rest := by
  induction h with
  | nil => exact List.suffix_rfl
  | cons hnext _ ih => exact ih.trans (rest_suffix_of_next? hnext)

/-- Only the next token decides which tokens follow. -/
theorem tokens_congr (h : l.next? g = l'.next? g) : l.tokens g = l'.tokens g := by
  cases hnext : l'.next? g with
  | none => rw [tokens_of_next?_eq_none hnext, tokens_of_next?_eq_none (h.trans hnext)]
  | some read =>
    obtain ⟨t, l₁⟩ := read
    rw [tokens_of_next? hnext, tokens_of_next? (h.trans hnext)]

end Lexer

/-- The last token of a text is an enclosed text that is never closed. -/
def Grammar.Unterminated (g : Grammar) (text : String) : Prop :=
  ∃ ts l, Lexer.ReadsTo g ⟨text.toList, []⟩ ts l ∧ l.BreaksOff g

/-- A text is cut in two between tokens, and the second part has a token. -/
def Grammar.CutsBetween (g : Grammar) (x y : String) : Prop :=
  ∃ ts l skipped, Lexer.ReadsTo g ⟨(x ++ y).toList, []⟩ ts l ∧ l.rest = skipped ++ y.toList ∧
    (∀ c ∈ skipped, g.Skips c) ∧ l.next? g ≠ none

/-! ### White space -/

/-- White space is skipped, and ends all runs. -/
structure Grammar.Splits (g : Grammar) : Prop where
  skips : ∀ c, Text.isWhiteSpace c = true → g.startingWith? c = none
  stops : ∀ d ∈ g.entries, ∀ c, Text.isWhiteSpace c = true → d.stopsAt c = true

/-- What follows ends all runs before it. -/
def Grammar.EndsRuns (g : Grammar) (rest : List Char) : Prop :=
  ∀ c ∈ rest.head?, ∀ d ∈ g.entries, d.stopsAt c = true

theorem Grammar.Splits.endsRuns (h : g.Splits) (hrest : SetOff rest) : g.EndsRuns rest :=
  fun c hc d hd => h.stops d hd c (hrest c hc)

theorem Grammar.Splits.skips_of_isWhiteSpace (h : g.Splits) (hc : Text.isWhiteSpace c = true) :
    g.Skips c :=
  ⟨hc, startsWith_of_startingWith? (h.skips c hc)⟩

theorem Grammar.Skips.startingWith? (h : g.Skips c) : g.startingWith? c = none := by
  rw [Grammar.startingWith?, List.find?_eq_none]
  intro d hd
  rw [h.2 d (List.mem_reverse.1 hd)]
  exact Bool.false_ne_true

/-- The next token is not changed by what is skipped before it. -/
theorem Lexer.next?_append {skipped : List Char} (hskipped : ∀ c ∈ skipped, g.Skips c) :
    next? g ⟨skipped ++ rest, counts⟩ = next? g ⟨rest, counts⟩ :=
  Grammar.scan_append fun c hc => ⟨(hskipped c hc).1, (hskipped c hc).startingWith?⟩

/-- Nor are the tokens after it. -/
theorem Lexer.tokens_append {skipped : List Char} (hskipped : ∀ c ∈ skipped, g.Skips c) :
    tokens g ⟨skipped ++ rest, counts⟩ = tokens g ⟨rest, counts⟩ :=
  tokens_congr (next?_append hskipped)

/-- What is scanned does not depend on what follows it, if it is closed. -/
theorem Descriptor.Scans.replace_rest (h : d.Scans c segment text rest)
    (hclosed : rest = [] → d.delimited = true → d.closing.getD c ∈ segment.tail)
    (hrest : ∀ x ∈ rest'.head?, x ∈ rest.head? ∨ d.stopsAt x = true) :
    d.Scans c segment text rest' := by
  cases h with
  | closed hdelimited hbody => exact .closed hdelimited hbody
  | unclosed hdelimited hbody => exact absurd (hclosed rfl hdelimited) hbody
  | single hdelimited hsingle => exact .single hdelimited hsingle
  | run hdelimited hsingle hmore hstop =>
    exact .run hdelimited hsingle hmore fun x hx => (hrest x hx).elim (hstop x) (·)

/-- A descriptor makes of a text what it scans. -/
theorem Descriptor.Scans.segment_eq (h : d.Scans c segment text rest) :
    ∃ cs, segment = c :: cs ∧ d.segment c (cs ++ rest) = (text, rest) := by
  cases h with
  | @closed body _ hdelimited hbody =>
    refine ⟨_, rfl, ?_⟩
    rw [List.append_assoc, List.singleton_append]
    exact segment_enclosed hdelimited fun x hx hc => hbody (hc ▸ hx)
  | unclosed hdelimited hbody =>
    have hgo : ∀ x ∈ text, (x != d.closing.getD c) = true :=
      fun x hx => bne_iff_ne.2 fun hc => hbody (hc ▸ hx)
    refine ⟨text, rfl, ?_⟩
    rw [List.append_nil, Descriptor.segment, if_pos hdelimited]
    simp only [List.takeWhile_eq_self_iff.2 hgo, List.dropWhile_eq_nil_iff.2 hgo, List.tail_nil]
  | single hdelimited hsingle => exact ⟨[], rfl, segment_single hdelimited hsingle⟩
  | @run cs _ hdelimited hsingle hmore hstop =>
    have hgo : ∀ x ∈ cs, (!d.stopsAt x) = true := fun x hx => by rw [hmore x hx]; rfl
    refine ⟨cs, rfl, ?_⟩
    rw [Descriptor.segment, hdelimited, hsingle, List.takeWhile_append_of_pos hgo,
      List.dropWhile_append_of_pos hgo]
    cases rest with
    | nil => simp
    | cons x rest => simp [hstop x rfl]

/-- What a descriptor takes stays the same if it is closed and what follows it is replaced by
    something that stops it. -/
theorem Descriptor.segment_replace (hrest' : ∀ x ∈ rest'.head?, d.stopsAt x = true)
    (h : (d.segment c (front ++ rest)).2 = back ++ rest)
    (hclosed : rest = [] → d.delimited = true → d.closing.getD c ∈ front) :
    d.segment c (front ++ rest') = ((d.segment c (front ++ rest)).1, back ++ rest') := by
  obtain ⟨segment, hcut, hscans⟩ := d.scans_segment c (front ++ rest)
  rw [h] at hcut hscans
  -- The segment lies before what is replaced.
  rw [← List.append_assoc, ← List.cons_append] at hcut
  have hsegment : c :: front = segment ++ back := List.append_cancel_right hcut
  have hscans' : d.Scans c segment (d.segment c (front ++ rest)).1 (back ++ rest') := by
    refine hscans.replace_rest (fun hnil hdelimited => ?_) fun x hx => ?_
    · obtain ⟨rfl, rfl⟩ := List.append_eq_nil_iff.1 hnil
      rw [List.append_nil] at hsegment
      rw [← hsegment]
      exact hclosed rfl hdelimited
    · cases back with
      | nil => exact .inr (hrest' x hx)
      | cons y back => exact .inl hx
  obtain ⟨cs, rfl, heq⟩ := hscans'.segment_eq
  obtain rfl : front = cs ++ back := (List.cons.inj hsegment).2
  rw [List.append_assoc cs back rest', heq]

/-- The first token stays the same if its text is closed and what follows it is replaced by
    something that ends all runs. -/
theorem Grammar.scan_replace (hrest' : g.EndsRuns rest')
    (h : g.scan counts (front ++ rest) = some (t, ⟨back ++ rest, counts'⟩))
    (hclosed : rest = [] → ¬Lexer.BreaksOff g ⟨front ++ rest, counts⟩) :
    g.scan counts (front ++ rest') = some (t, ⟨back ++ rest', counts'⟩) := by
  induction front with
  | nil =>
    have hlength := Lexer.rest_length_of_scan h
    rw [List.nil_append, List.length_append] at hlength
    omega
  | cons c front ih =>
    rw [List.cons_append, scan] at h ⊢
    cases hstart : g.startingWith? c with
    | none =>
      rw [hstart] at h
      simp only at h ⊢
      split at h
      · rename_i hwhite
        rw [if_pos hwhite]
        -- What is skipped does not close anything.
        refine ih h fun hnil hbreaks => hclosed hnil ?_
        obtain ⟨skipped, c', d, body, hcut, hskipped, hbody⟩ := hbreaks
        refine ⟨c :: skipped, c', d, body, congrArg (c :: ·) hcut, ?_, hbody⟩
        exact List.forall_mem_cons.2 ⟨⟨hwhite, startsWith_of_startingWith? hstart⟩, hskipped⟩
      · rename_i hwhite
        rw [if_neg hwhite]
        simp only [Option.some.injEq, Prod.mk.injEq, Lexer.mk.injEq] at h ⊢
        obtain ⟨ht, hfront, hcounts⟩ := h
        exact ⟨ht, by rw [List.append_cancel_right hfront], hcounts⟩
    | some d =>
      rw [hstart] at h
      simp only [Option.some.injEq, Prod.mk.injEq, Lexer.mk.injEq] at h ⊢
      obtain ⟨ht, hback, hcounts⟩ := h
      have hstops x (hx : x ∈ rest'.head?) := hrest' x hx d (mem_of_startingWith? hstart)
      -- If nothing follows, the segment was closed before the end, or reading would break off here.
      have hsegment := Descriptor.segment_replace hstops hback fun hnil hdelimited => by
        by_contra hopen
        refine hclosed hnil ⟨[], c, d, front, ?_, by simp, isLastFor_of_startingWith? hstart,
          hdelimited, hopen⟩
        rw [hnil, List.append_nil, List.nil_append]
      rw [hsegment]
      exact ⟨ht, rfl, hcounts⟩

/-- Tokens stay the same if what follows them is replaced by something that ends all runs. -/
theorem Lexer.ReadsTo.replace_rest (hrest' : g.EndsRuns rest')
    (h : ReadsTo g ⟨front ++ rest, counts⟩ ts ⟨back ++ rest, counts'⟩)
    (hclosed : rest = [] → ∀ us l, ReadsTo g ⟨front ++ rest, counts⟩ us l → ¬l.BreaksOff g) :
    ReadsTo g ⟨front ++ rest', counts⟩ ts ⟨back ++ rest', counts'⟩ := by
  generalize hl : (⟨front ++ rest, counts⟩ : Lexer) = l at h
  generalize hl' : (⟨back ++ rest, counts'⟩ : Lexer) = l' at h
  induction h generalizing front counts with
  | nil =>
    obtain ⟨hfront, rfl⟩ := Lexer.mk.inj (hl'.trans hl.symm)
    rw [List.append_cancel_right hfront]
    exact .nil
  | @cons _ l₁ _ t ts hnext hreads ih =>
    subst hl hl'
    -- What is to be replaced is still to be read after the first token.
    obtain ⟨middle, hmiddle⟩ := (List.suffix_append back rest).trans hreads.rest_suffix
    obtain ⟨rest₁, counts₁⟩ := l₁
    obtain rfl : middle ++ rest = rest₁ := hmiddle
    have hfirst := Grammar.scan_replace hrest' hnext fun hnil => hclosed hnil [] _ .nil
    exact .cons hfirst (ih (fun hnil us l hl => hclosed hnil _ l (.cons hnext hl)) rfl rfl)

/-- What ends all runs can follow some tokens, and what is skipped behind them, and is read after
    them. -/
theorem Lexer.ReadsTo.tokens_append {skipped : List Char} (hrest' : g.EndsRuns rest')
    (h : ReadsTo g ⟨front ++ rest, counts⟩ ts ⟨skipped ++ rest, counts'⟩)
    (hskipped : ∀ c ∈ skipped, g.Skips c)
    (hclosed : rest = [] → ∀ us l, ReadsTo g ⟨front ++ rest, counts⟩ us l → ¬l.BreaksOff g) :
    Lexer.tokens g ⟨front ++ rest', counts⟩ = ts ++ Lexer.tokens g ⟨rest', counts'⟩ := by
  rw [(h.replace_rest hrest' hclosed).tokens_eq, Lexer.tokens_append hskipped]

/-- White space after some tokens, and after what is skipped behind them, is skipped too, whatever
    comes then. -/
theorem Grammar.Splits.tokens_insert {skipped gap : List Char} (hg : g.Splits)
    (hgap : IsBlank gap) (hne : gap ≠ [])
    (h : Lexer.ReadsTo g ⟨front ++ rest, counts⟩ ts ⟨skipped ++ rest, counts'⟩)
    (hskipped : ∀ c ∈ skipped, g.Skips c)
    (hclosed : rest = [] →
      ∀ us l, Lexer.ReadsTo g ⟨front ++ rest, counts⟩ us l → ¬l.BreaksOff g)
    (rest' : List Char) :
    Lexer.tokens g ⟨front ++ (gap ++ rest'), counts⟩ =
      ts ++ Lexer.tokens g ⟨rest', counts'⟩ := by
  have hsetOff : SetOff (gap ++ rest') := by
    obtain ⟨c, cs, rfl⟩ := List.exists_cons_of_ne_nil hne
    rintro _ ⟨⟩
    exact hgap c List.mem_cons_self
  rw [h.tokens_append (hg.endsRuns hsetOff) hskipped hclosed,
    Lexer.tokens_append fun c hc => hg.skips_of_isWhiteSpace (hgap c hc)]

/-! ### Counts -/

/-- A counted token, counted on from earlier counts. -/
def Token.renumber (earlier : Counts) (t : Token) : Token :=
  match t.literal with
  | .position n =>
    if t.descriptor.counted then { t with literal := .position (n + earlier.get t.descriptor.id) }
    else t
  | _ => t

theorem Token.renumber_of_not_counted (h : t.descriptor.counted = false) (earlier : Counts) :
    t.renumber earlier = t := by
  rw [renumber]
  split
  · rw [h, if_neg Bool.false_ne_true]
  · rfl

/-- Counts that have grown from earlier ones as others did from nothing. -/
def Counts.GrownFrom (earlier counts counts' : Counts) : Prop :=
  ∀ id, counts'.get id = counts.get id + earlier.get id

theorem Counts.GrownFrom.increment {earlier : Counts} (h : GrownFrom earlier counts counts')
    (id : String) : GrownFrom earlier (counts.increment id) (counts'.increment id) := by
  intro other
  by_cases hid : other = id
  · subst hid
    rw [get_increment, get_increment, h other, Nat.add_right_comm]
  · rw [get_increment_of_ne hid, get_increment_of_ne hid, h other]

section

variable {earlier : Counts} (hcounts : Counts.GrownFrom earlier counts counts')
include hcounts

/-- A scanned text becomes the same token with earlier counts, counted on from them. -/
theorem Grammar.finish_renumber (d : Descriptor) (text : List Char) :
    (g.finish counts' d text).1 = (g.finish counts d text).1.renumber earlier ∧
      earlier.GrownFrom (g.finish counts d text).2 (g.finish counts' d text).2 := by
  rw [finish, finish]
  split
  · exact ⟨rfl, hcounts⟩
  split
  · rename_i hcounted
    refine ⟨?_, hcounts.increment _⟩
    simp only [Token.renumber, hcounted, if_true, hcounts _]
  rename_i hcounted
  rw [Bool.not_eq_true] at hcounted
  split
  · split
    · exact ⟨(Token.renumber_of_not_counted hcounted _).symm, hcounts⟩
    · exact ⟨rfl, hcounts⟩
  · exact ⟨rfl, hcounts⟩

/-- The first token is the same with earlier counts, counted on from them, and ends at the same
    place. -/
theorem Grammar.scan_renumber (cs : List Char) :
    (g.scan counts cs = none ∧ g.scan counts' cs = none) ∨
      ∃ t rest after after', g.scan counts cs = some (t, ⟨rest, after⟩) ∧
        g.scan counts' cs = some (t.renumber earlier, ⟨rest, after'⟩) ∧
          earlier.GrownFrom after after' := by
  induction cs with
  | nil => exact .inl ⟨rfl, rfl⟩
  | cons c cs ih =>
    cases hstart : g.startingWith? c with
    | none =>
      rw [scan, scan, hstart]
      simp only
      split
      · exact ih
      · exact .inr ⟨_, _, _, _, rfl, rfl, hcounts⟩
    | some d =>
      obtain ⟨ht, hgrown⟩ := finish_renumber (g := g) hcounts d (d.segment c cs).1
      exact .inr ⟨_, _, _, _, scan_of_segment hstart rfl rfl,
        scan_of_segment hstart rfl (Prod.ext ht rfl), hgrown⟩

/-- Reading with earlier counts changes the numbers of the counted tokens. -/
theorem Lexer.tokens_renumber (rest : List Char) :
    tokens g ⟨rest, counts'⟩ = (tokens g ⟨rest, counts⟩).map (Token.renumber earlier) := by
  generalize hl : (⟨rest, counts⟩ : Lexer) = l
  induction l using tokens_induct (g := g) generalizing rest counts counts' with
  | nil l hnext =>
    subst hl
    rcases Grammar.scan_renumber hcounts rest with ⟨-, hnone⟩ | ⟨t, _, _, _, hsome, -⟩
    · exact tokens_of_next?_eq_none hnone
    · exact absurd (hsome.symm.trans hnext) (by simp)
  | cons l t l' hnext ih =>
    subst hl
    rcases Grammar.scan_renumber hcounts rest with
      ⟨hnone, -⟩ | ⟨u, more, after, after', hsome, hsome', hgrown⟩
    · exact absurd (hnone.symm.trans hnext) (by simp)
    · obtain ⟨rfl, rfl⟩ := Prod.mk.inj (Option.some.inj (hsome.symm.trans hnext))
      have hnext' : next? g ⟨rest, counts'⟩ = some (u.renumber earlier, ⟨more, after'⟩) := hsome'
      rw [tokens_of_next? hnext', ih hgrown more rfl, List.map_cons]

end

/-- The count of an id after some tokens. -/
theorem Lexer.ReadsTo.get_counts (h : ReadsTo g l ts l') (id : String) :
    l'.counts.get id = l.counts.get id + ts.countP (·.countsAs id) := by
  induction h with
  | nil => rfl
  | cons hnext _ ih =>
    rw [ih, List.countP_cons]
    rcases (next?_origin hnext).count id with ⟨hcounts, -, hget⟩ | ⟨hcounts, hget⟩
    · rw [hget, hcounts, if_pos rfl]
      omega
    · rw [hget, hcounts]
      rfl

/-! ### The standard grammar -/

namespace Grammar

open RecordQuery.Text

/-- White space separates tokens in the standard grammar. -/
theorem splits_standard : standard.Splits where
  skips _ := startingWith?_of_isWhiteSpace
  stops := by
    have hpunctuation (c : Char) (h : isWhiteSpace c = true) : (!isPunctuation c) = true := by
      rw [isPunctuation_of_isWhiteSpace h, Bool.not_false]
    have hname (c : Char) (h : isWhiteSpace c = true) : (!isNameChar c) = true := by
      rw [isNameChar_of_isWhiteSpace h, Bool.not_false]
    have hnumber (c : Char) (h : isWhiteSpace c = true) : (!(Numeral.isDigit c || c == '.')) = true := by
      rw [isDigit_or_point_of_isWhiteSpace h, Bool.not_false]
    -- The other descriptors have no runs.
    have hothers : ∀ d ∈ standard.entries.drop 3, d.stopChar.isNone = true := by decide
    refine List.forall_mem_cons.2 ⟨hpunctuation, List.forall_mem_cons.2 ⟨hname,
      List.forall_mem_cons.2 ⟨hnumber, fun d hd c _ => ?_⟩⟩⟩
    rw [Descriptor.stopsAt, Option.isNone_iff_eq_none.1 (hothers d hd)]
    rfl

end Grammar

/-- A wildcard, counted on from a number. -/
def Token.advance (k : Nat) (t : Token) : Token :=
  match t.kind, t.literal with
  | .wildCard, .position n => { t with literal := .position (n + k) }
  | _, _ => t

open Grammar

/-- In the standard grammar only wildcards are counted. -/
theorem Token.renumber_eq_advance {text : String} (ht : t ∈ standard.tokenize text)
    (earlier : Counts) : t.renumber earlier = t.advance (earlier.get "wild_card") := by
  have hcounted : ∀ d ∈ standard.entries, d.counted = true →
      d.kind = .wildCard ∧ d.id = "wild_card" := by
    decide
  have hwildCard : ∀ d ∈ standard.entries, d.counted = false → d.kind ≠ .wildCard := by decide
  obtain ⟨before, after, horigin⟩ := Lexer.origin_of_mem_tokens ht
  cases horigin with
  | unknown => rfl
  | @counted d hd hc =>
    obtain ⟨hkind, hid⟩ := hcounted d hd hc
    simp only [renumber, advance, Token.kind, hc, hkind, hid, if_true]
  | @scanned d literal hd hc _ =>
    rw [renumber_of_not_counted hc, advance]
    split
    · rename_i hkind _
      exact absurd hkind (hwildCard d hd hc)
    · rfl

/-- After some tokens of a text the count of the wildcards is their number. -/
theorem Lexer.ReadsTo.get_wildCards {text : String}
    (h : ReadsTo standard ⟨text.toList, []⟩ (standard.tokenize text) l) :
    l.counts.get "wild_card" = wildCards (standard.tokenize text) := by
  rw [h.get_counts, wildCards, List.countP_congr fun t ht => by rw [countsAs_wildCard ht]]
  exact Nat.zero_add _

/-- White space keeps texts apart. If a text is not unterminated, the tokens of it and of another
    text after white space are those of the first and those of the second, whose wildcards are
    counted on. And white space can be put between any two tokens of a text. -/
theorem tokenize_apart {w : String} (hw : IsBlank w.toList) (hne : w ≠ "") :
    (∀ a b, ¬standard.Unterminated a → standard.tokenize (a ++ w ++ b) =
      standard.tokenize a ++
        (standard.tokenize b).map (Token.advance (wildCards (standard.tokenize a)))) ∧
    ∀ x y, standard.CutsBetween x y →
      standard.tokenize (x ++ w ++ y) = standard.tokenize (x ++ y) := by
  have hne' : w.toList ≠ [] := mt String.toList_eq_nil_iff.1 hne
  have htext (x y : String) : standard.tokenize (x ++ w ++ y) =
      Lexer.tokens standard ⟨x.toList ++ (w.toList ++ y.toList), []⟩ := by
    rw [tokenize, String.toList_append, String.toList_append, List.append_assoc]
  constructor
  · intro a b hterminated
    obtain ⟨⟨rest, counts⟩, hreads, hend⟩ := Lexer.exists_readsTo standard ⟨a.toList, []⟩
    have hinsert : Lexer.tokens standard ⟨a.toList ++ (w.toList ++ b.toList), []⟩ =
        standard.tokenize a ++ Lexer.tokens standard ⟨b.toList, counts⟩ := by
      have hreads' : Lexer.ReadsTo standard ⟨a.toList ++ [], []⟩ (standard.tokenize a)
          ⟨rest ++ [], counts⟩ := by
        rwa [List.append_nil, List.append_nil]
      refine splits_standard.tokens_insert hw hne' hreads' (skips_of_scan hend) ?_ b.toList
      intro _ us l hl hbreaks
      rw [List.append_nil] at hl
      exact hterminated ⟨us, l, hl, hbreaks⟩
    -- The second text is read with the counts that the first one leaves.
    have hcounts : Counts.GrownFrom counts [] counts := fun id => (Nat.zero_add _).symm
    calc standard.tokenize (a ++ w ++ b)
      _ = standard.tokenize a ++ Lexer.tokens standard ⟨b.toList, counts⟩ := by
        rw [htext, hinsert]
      _ = standard.tokenize a ++ (standard.tokenize b).map (Token.renumber counts) := by
        rw [Lexer.tokens_renumber hcounts]
        rfl
      _ = _ := by
        rw [← hreads.get_wildCards]
        exact congrArg _ (List.map_congr_left fun t ht => Token.renumber_eq_advance ht counts)
  · rintro x y ⟨ts, ⟨rest, counts⟩, skipped, hreads, hrest, hskipped, hnext⟩
    obtain rfl : rest = skipped ++ y.toList := hrest
    rw [String.toList_append] at hreads
    have hy : y.toList ≠ [] := by
      intro hnil
      rw [Lexer.next?_append hskipped, hnil] at hnext
      exact hnext rfl
    calc standard.tokenize (x ++ w ++ y)
      _ = ts ++ Lexer.tokens standard ⟨y.toList, counts⟩ := by
        rw [htext, splits_standard.tokens_insert hw hne' hreads hskipped
          fun hnil => absurd hnil hy]
      _ = Lexer.tokens standard ⟨x.toList ++ y.toList, []⟩ := by
        rw [hreads.tokens_eq, Lexer.tokens_append hskipped]
      _ = standard.tokenize (x ++ y) := by rw [tokenize, String.toList_append]

/-- A text without quotes and braces has no enclosed text. -/
theorem Grammar.not_unterminated {text : String}
    (h : text.toList.any (fun c => isQuote c || c == '\x7b') = false) :
    ¬standard.Unterminated text := by
  have henclosed : ∀ d ∈ standard.entries, d.delimited = true →
      d = described "string" ∨ d = described "parameter" := by
    intro d hd hdelimited
    have hmem : d ∈ standard.entries.filter (·.delimited) := List.mem_filter.2 ⟨hd, hdelimited⟩
    have hfilter : standard.entries.filter (·.delimited) =
        [described "string", described "parameter"] := rfl
    simpa [hfilter] using hmem
  rintro ⟨ts, l, hreads, skipped, c, d, body, hrest, -, ⟨hstart, before, after, hentries, -⟩,
    hdelimited, -⟩
  have hc : c ∈ text.toList := hreads.rest_suffix.subset (by simp [hrest])
  have hplain : (isQuote c || c == '\x7b') = false :=
    Bool.eq_false_iff.2 fun hmark => Bool.eq_false_iff.1 h (List.any_eq_true.2 ⟨c, hc, hmark⟩)
  obtain ⟨hquote, hbrace⟩ := Bool.or_eq_false_iff.1 hplain
  -- Its first character would be a quote or a brace.
  rcases henclosed d (by simp [hentries]) hdelimited with rfl | rfl
  · exact Bool.false_ne_true (hquote.symm.trans hstart)
  · exact Bool.false_ne_true (hbrace.symm.trans hstart)

/-- The wildcard after the tab is the second one, and the equals sign can be set off. -/
theorem tokenize_apart_tab :
    let name : Token := ⟨described "record_property", .text "a"⟩
    let eq : Token := ⟨described "equals", .text "="⟩
    let wildCard (n : Nat) : Token := ⟨described "wild_card", .position n⟩
    let string : Token := ⟨described "string", .text "b"⟩
    IsBlank "\t".toList ∧ "\t" ≠ "" ∧ ¬standard.Unterminated "a = %@" ∧
      standard.CutsBetween "a" "= %@" ∧
      standard.tokenize "a = %@\t%@ 'b" = [name, eq, wildCard 0, wildCard 1, string] ∧
      standard.tokenize "a\t= %@" = [name, eq, wildCard 0] := by
  intro name eq wildCard string
  have hw : IsBlank "\t".toList := by decide
  have hne : "\t" ≠ "" := by decide
  have hterminated : ¬standard.Unterminated "a = %@" := not_unterminated rfl
  have hcut : standard.CutsBetween "a" "= %@" := by
    have hnext : Lexer.next? standard ⟨"= %@".toList, []⟩ = some (eq, ⟨" %@".toList, []⟩) := rfl
    refine ⟨[name], ⟨"= %@".toList, []⟩, [], .cons rfl .nil, rfl, by simp, ?_⟩
    rw [hnext]
    exact Option.some_ne_none _
  have hfirst : standard.tokenize "a = %@" = [name, eq, wildCard 0] :=
    (Lexer.ReadsTo.cons rfl (.cons rfl (.cons rfl .nil))).tokens_of_end rfl
  have hsecond : standard.tokenize "%@ 'b" = [wildCard 0, string] :=
    (Lexer.ReadsTo.cons rfl (.cons rfl .nil)).tokens_of_end rfl
  have hwhole : standard.tokenize "a= %@" = [name, eq, wildCard 0] :=
    (Lexer.ReadsTo.cons rfl (.cons rfl (.cons rfl .nil))).tokens_of_end rfl
  obtain ⟨happend, hinsert⟩ := tokenize_apart hw hne
  refine ⟨hw, hne, hterminated, hcut, ?_, ?_⟩
  · have h := happend "a = %@" "%@ 'b" hterminated
    rw [hfirst, hsecond] at h
    exact h
  · exact (hinsert "a" "= %@" hcut).trans hwhole

end RecordQuery
