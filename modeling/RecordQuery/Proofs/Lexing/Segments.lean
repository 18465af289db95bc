import Mathlib.Data.List.TakeWhile
import RecordQuery.Proofs.Lexing.Numbering

/-!
# Segments

Whatever the grammar, reading a text takes it apart and loses nothing: the text is made of single
characters that are skipped and of one segment for each token, in the order of the tokens
(`tokenize_takesApart`). How far a segment reaches is settled by the descriptor that scans it, from
the first character on. That the token may be resolved to another descriptor afterwards, or turn out
to be unknown, does not move its end.

* `Grammar.IsLastFor`, `Grammar.Skips`: the descriptor that scans from a character, and characters
  that no token begins with.
* `Descriptor.Scans`: the characters that a descriptor takes, and the text that it makes of them.
* `Grammar.Segment`, `Grammar.TakesApart`: the segment of a token, and a text cut into segments.
* `Grammar.scan_segment`: the first token of a text has a segment, after what is skipped.
-/

namespace RecordQuery

/-! ### Cutting a text -/

/-- Of the descriptors that accept a first character, this one was registered last. -/
def Grammar.IsLastFor (g : Grammar) (c : Char) (d : Descriptor) : Prop :=
  d.startsWith c = true ∧ ∃ before after, g.entries = before ++ d :: after ∧
    ∀ e ∈ after, e.startsWith c = false

/-- White space that no descriptor accepts as a first character. -/
def Grammar.Skips (g : Grammar) (c : Char) : Prop :=
  Text.isWhiteSpace c = true ∧ ∀ d ∈ g.entries, d.startsWith c = false

/-- The characters that a descriptor takes, `c` being the first of them; the text that it makes of
    them; and what is left. -/
inductive Descriptor.Scans (d : Descriptor) (c : Char) :
    List Char → List Char → List Char → Prop
  /-- An enclosed text ends at the first closing character, and is read without its ends. -/
  | closed {body rest : List Char} : d.delimited = true → d.closing.getD c ∉ body →
      Scans d c (c :: (body ++ [d.closing.getD c])) body rest
  /-- An enclosed text that is never closed takes all there is. -/
  | unclosed {body : List Char} : d.delimited = true → d.closing.getD c ∉ body →
      Scans d c (c :: body) body []
  /-- A token of one character. -/
  | single {rest : List Char} : d.delimited = false → d.single = true → Scans d c [c] [c] rest
  /-- A run goes on up to the first character that stops it. -/
  | run {more rest : List Char} : d.delimited = false → d.single = false →
      (∀ x ∈ more, d.stopsAt x = false) → (∀ x ∈ rest.head?, d.stopsAt x = true) →
        Scans d c (c :: more) (c :: more) rest

/-- The characters of a token, the text that is read from them, what follows, and the token. -/
inductive Grammar.Segment (g : Grammar) :
    List Char → List Char → List Char → Token → Prop
  /-- Some descriptor accepts the first character. -/
  | scanned {c : Char} {d : Descriptor} {segment text rest : List Char} (counts : Counts) :
      g.IsLastFor c d → d.Scans c segment text rest →
        Segment g segment text rest (g.finish counts d text).1
  /-- No descriptor accepts it, and it is no white space. -/
  | unknown {c : Char} {rest : List Char} : (∀ d ∈ g.entries, d.startsWith c = false) →
      Text.isWhiteSpace c = false → Segment g [c] [c] rest (.unknown [c])

/-- A text is cut into characters that are skipped and the segments of tokens. None of these is
    empty, and a token that carries a text carries the one that is read from its segment. -/
inductive Grammar.TakesApart (g : Grammar) : List Char → List Token → Prop
  /-- The end. -/
  | nil : TakesApart g [] []
  /-- A character that belongs to no token. -/
  | skip {c : Char} {rest : List Char} {ts : List Token} :
      g.Skips c → TakesApart g rest ts → TakesApart g (c :: rest) ts
  /-- A token. -/
  | token {segment text rest : List Char} {t : Token} {ts : List Token} :
      segment ≠ [] → g.Segment segment text rest t →
        (∀ s, t.literal = .text s → s = String.ofList text) →
          TakesApart g rest ts → TakesApart g (segment ++ rest) (t :: ts)

variable {g : Grammar} {counts : Counts} {t : Token} {ts : List Token} {l l' : Lexer} {c : Char}
  {d : Descriptor} {cs segment text rest : List Char}

/-! ### One token -/

/-- What a descriptor makes of a text is a segment and what is left after it. -/
theorem Descriptor.scans_segment (d : Descriptor) (c : Char) (cs : List Char) :
    ∃ segment, c :: cs = segment ++ (d.segment c cs).2 ∧
      d.Scans c segment (d.segment c cs).1 (d.segment c cs).2 := by
  rw [segment]
  split
  · rename_i hdelimited
    dsimp only
    -- The body is free of closing characters, and what follows it, if anything does, is one.
    have hbody : d.closing.getD c ∉ cs.takeWhile (· != d.closing.getD c) :=
      fun hmem => absurd (List.mem_takeWhile_imp hmem) (by simp)
    have hcut := List.takeWhile_append_dropWhile (p := (· != d.closing.getD c)) (l := cs)
    have hhead := List.head?_dropWhile_not (· != d.closing.getD c) cs
    cases hrest : cs.dropWhile (· != d.closing.getD c) with
    | nil =>
      rw [hrest, List.append_nil] at hcut
      refine ⟨c :: cs, (List.append_nil _).symm, ?_⟩
      rw [hcut] at hbody ⊢
      exact .unclosed hdelimited hbody
    | cons x rest =>
      rw [hrest] at hcut hhead
      obtain rfl : x = d.closing.getD c := by simpa using hhead
      refine ⟨_, ?_, .closed hdelimited hbody⟩
      rw [List.tail_cons, List.cons_append, List.append_assoc, List.singleton_append, hcut]
  · rename_i hdelimited
    rw [Bool.not_eq_true] at hdelimited
    split
    · rename_i hsingle
      exact ⟨[c], rfl, .single hdelimited hsingle⟩
    · rename_i hsingle
      rw [Bool.not_eq_true] at hsingle
      refine ⟨c :: cs.takeWhile (!d.stopsAt ·), ?_, .run hdelimited hsingle ?_ ?_⟩
      · rw [List.cons_append, List.takeWhile_append_dropWhile]
      · intro x hx
        simpa using List.mem_takeWhile_imp hx
      · intro x hx
        have hhead := List.head?_dropWhile_not (!d.stopsAt ·) cs
        rw [Option.mem_def.1 hx] at hhead
        simpa using hhead

theorem Descriptor.Scans.ne_nil (h : d.Scans c segment text rest) : segment ≠ [] := by
  cases h <;> exact List.cons_ne_nil _ _

namespace Grammar

/-- What is found from the end of a list is the last that is looked for. -/
theorem last_of_find?_reverse {p : Descriptor → Bool} {entries : List Descriptor}
    (h : entries.reverse.find? p = some d) :
    p d = true ∧ ∃ before after, entries = before ++ d :: after ∧ ∀ e ∈ after, p e = false := by
  obtain ⟨hd, after, before, hentries, hafter⟩ := List.find?_eq_some_iff_append.1 h
  refine ⟨hd, before.reverse, after.reverse, ?_, fun e he => ?_⟩
  · rw [← List.reverse_reverse entries, hentries]
    simp
  · simpa using hafter e (List.mem_reverse.1 he)

theorem isLastFor_of_startingWith? (h : g.startingWith? c = some d) : g.IsLastFor c d :=
  last_of_find?_reverse h

theorem startsWith_of_startingWith? (h : g.startingWith? c = none) :
    ∀ d ∈ g.entries, d.startsWith c = false := by
  intro d hd
  simpa using List.find?_eq_none.1 h d (List.mem_reverse.2 hd)

/-- A token that carries a text carries the one that it is made of. -/
theorem text_of_finish {s : String} (h : (g.finish counts d text).1.literal = .text s) :
    s = String.ofList text := by
  have hnumeral (literal : Literal) (hliteral : Literal.ofNumeral? text = some literal) :
      literal ≠ .text s := by
    rintro rfl
    rw [Literal.ofNumeral?] at hliteral
    split at hliteral
    · cases hliteral
    · cases hdouble : Numeral.double? text <;> simp [hdouble] at hliteral
  rw [finish] at h
  split at h
  · exact (Literal.text.inj h).symm
  split at h
  · cases h
  split at h
  · split at h
    · exact absurd h (hnumeral _ ‹_›)
    · exact (Literal.text.inj h).symm
  · exact (Literal.text.inj h).symm

theorem Segment.ne_nil (h : g.Segment segment text rest t) : segment ≠ [] := by
  cases h with
  | scanned _ _ hscans => exact hscans.ne_nil
  | unknown _ _ => exact List.cons_ne_nil _ _

theorem Segment.eq_ofList (h : g.Segment segment text rest t) :
    ∀ s, t.literal = .text s → s = String.ofList text := by
  intro s hs
  cases h with
  | scanned _ _ _ => exact text_of_finish hs
  | unknown _ _ => exact (Literal.text.inj hs).symm

/-- Only what is skipped stands before the segment of the first token. -/
theorem scan_segment (h : g.scan counts cs = some (t, l)) :
    ∃ skipped segment text, cs = skipped ++ (segment ++ l.rest) ∧ (∀ c ∈ skipped, g.Skips c) ∧
      g.Segment segment text l.rest t := by
  induction cs with
  | nil => cases h
  | cons c cs ih =>
    rw [scan] at h
    split at h
    · rename_i hstart
      have hnone := startsWith_of_startingWith? hstart
      split at h
      · rename_i hwhite
        obtain ⟨skipped, segment, text, rfl, hskipped, hsegment⟩ := ih h
        exact ⟨c :: skipped, segment, text, rfl,
          List.forall_mem_cons.2 ⟨⟨hwhite, hnone⟩, hskipped⟩, hsegment⟩
      · rename_i hwhite
        cases h
        exact ⟨[], [c], [c], rfl, by simp, .unknown hnone (Bool.not_eq_true _ ▸ hwhite)⟩
    · rename_i d hstart
      cases h
      obtain ⟨segment, hcut, hscans⟩ := d.scans_segment c cs
      exact ⟨[], segment, _, hcut, by simp,
        .scanned counts (isLastFor_of_startingWith? hstart) hscans⟩

/-- A text without tokens is skipped. -/
theorem skips_of_scan (h : g.scan counts cs = none) : ∀ c ∈ cs, g.Skips c := by
  induction cs with
  | nil => simp
  | cons c cs ih =>
    rw [scan] at h
    split at h
    · rename_i hstart
      split at h
      · rename_i hwhite
        exact List.forall_mem_cons.2 ⟨⟨hwhite, startsWith_of_startingWith? hstart⟩, ih h⟩
      · cases h
    · cases h

/-! ### All tokens -/

theorem TakesApart.append {skipped : List Char} (hskipped : ∀ c ∈ skipped, g.Skips c)
    (h : g.TakesApart rest ts) : g.TakesApart (skipped ++ rest) ts := by
  induction skipped with
  | nil => exact h
  | cons c skipped ih =>
    obtain ⟨hc, hskipped⟩ := List.forall_mem_cons.1 hskipped
    exact .skip hc (ih hskipped)

/-- There are no more tokens than characters. -/
theorem TakesApart.length_le (h : g.TakesApart cs ts) : ts.length ≤ cs.length := by
  induction h with
  | nil => exact Nat.le_refl _
  | skip _ _ ih => exact Nat.le_succ_of_le ih
  | token hne _ _ _ ih =>
    have := List.length_pos_iff.2 hne
    rw [List.length_append, List.length_cons]
    omega

end Grammar

/-- What is still to be read is taken apart into the tokens still to be read. -/
theorem Lexer.takesApart (l : Lexer) : g.TakesApart l.rest (l.tokens g) := by
  induction l using tokens_induct (g := g) with
  | nil l hnext =>
    have h : g.TakesApart (l.rest ++ []) [] := .append (Grammar.skips_of_scan hnext) .nil
    rwa [List.append_nil] at h
  | cons l t l' hnext ih =>
    obtain ⟨skipped, segment, text, hcut, hskipped, hsegment⟩ := Grammar.scan_segment hnext
    rw [hcut]
    exact .append hskipped (.token hsegment.ne_nil hsegment hsegment.eq_ofList ih)

/-- Reading loses nothing: under every grammar a text is made of the characters that are skipped and
    of the segments of its tokens, in their order, so that it has no more tokens than characters.
    Each step takes a segment off what is still to be read, after what is skipped before it; or all
    that is left is skipped. -/
theorem tokenize_takesApart (g : Grammar) (text : String) :
    g.TakesApart text.toList (g.tokenize text) ∧ (g.tokenize text).length ≤ text.length ∧
      ∀ l : Lexer, match l.next? g with
        | none => ∀ c ∈ l.rest, g.Skips c
        | some (t, l') => ∃ skipped segment read, l.rest = skipped ++ (segment ++ l'.rest) ∧
            (∀ c ∈ skipped, g.Skips c) ∧ segment ≠ [] ∧ g.Segment segment read l'.rest t := by
  have htext : g.TakesApart text.toList (g.tokenize text) := Lexer.takesApart ⟨text.toList, []⟩
  refine ⟨htext, ?_, fun l => ?_⟩
  · rw [← String.length_toList]
    exact htext.length_le
  · split
    · rename_i hnext
      exact Grammar.skips_of_scan hnext
    · rename_i t l' hnext
      obtain ⟨skipped, segment, read, hcut, hskipped, hsegment⟩ := Grammar.scan_segment hnext
      exact ⟨skipped, segment, read, hcut, hskipped, hsegment.ne_nil, hsegment⟩

end RecordQuery
