import Mathlib.Data.List.ReduceOption
import RecordQuery.Proofs.Lexing.Segments

/-!
# Counting

The number of a counted token is how many tokens before it are counted under its id. So it depends
on nothing else that stands in the text: not on tokens of other ids, not on what is enclosed in a
single token, and not on texts that would be counted but have the wrong shape. The counts that the
lexer keeps are a way to have this number at hand, whichever way the tokens are asked for
(`tokenize_numbered`).

* `Grammar.ReadsAs`, `Grammar.ReadsAfter`: reading without counts, on which tokens are numbered by
  those before them.
* `Lexer.CountsOf`: the counts of a lexer are those of the tokens it has read. Every step keeps this
  (`Lexer.CountsOf.next?`).
* `Lexer.take_eq`: tokens that are asked for one by one.
-/

namespace RecordQuery

/-- The number that a literal is, if it is that of a counted token. -/
def Literal.position? : Literal → Option Nat
  | position n => some n
  | _ => none

/-- The numbers of the tokens with an id, in order of appearance. -/
def Token.positions (id : String) (ts : List Token) : List Nat :=
  (ts.filter (·.descriptor.id == id)).filterMap (·.literal.position?)

/-- A counted token carries how many tokens before it are counted under its id. Other tokens carry
    no such number. -/
def Token.IsNumberedAfter (before : List Token) (t : Token) : Prop :=
  t.literal.position? =
    if t.descriptor.counted then some (before.countP (·.countsAs t.descriptor.id)) else none

/-! ### Reading without counts -/

/-- What a text that a descriptor scanned is read as, after other tokens. -/
inductive Grammar.ReadsAs (g : Grammar) (before : List Token) (scanned : Descriptor)
    (text : List Char) : Token → Prop
  /-- It has not the shape that its descriptor asks for. -/
  | refused : (g.resolve scanned text).acceptsFormat text = false →
      ReadsAs g before scanned text (.unknown text)
  /-- It is counted, and carries how many tokens before it are counted under its id. -/
  | counted {d : Descriptor} : g.resolve scanned text = d → d.acceptsFormat text = true →
      d.counted = true →
        ReadsAs g before scanned text ⟨d, .position (before.countP (·.countsAs d.id))⟩
  /-- It is not counted, and carries its value if it is a number. -/
  | number {d : Descriptor} {literal : Literal} : g.resolve scanned text = d →
      d.acceptsFormat text = true → d.counted = false → d.kind = .number →
        Literal.ofNumeral? text = some literal → ReadsAs g before scanned text ⟨d, literal⟩
  /-- It would be a number, but has no value. -/
  | valueless {d : Descriptor} : g.resolve scanned text = d → d.acceptsFormat text = true →
      d.counted = false → d.kind = .number → Literal.ofNumeral? text = none →
        ReadsAs g before scanned text (.unknown text)
  /-- It is not counted and no number, and carries its text. -/
  | text {d : Descriptor} : g.resolve scanned text = d → d.acceptsFormat text = true →
      d.counted = false → d.kind ≠ .number →
        ReadsAs g before scanned text ⟨d, .text (String.ofList text)⟩

/-- What a text is read as, after other tokens. -/
inductive Grammar.ReadsAfter (g : Grammar) : List Token → List Char → List Token → Prop
  /-- The end. -/
  | nil {before : List Token} : ReadsAfter g before [] []
  /-- A character that belongs to no token. -/
  | skip {before ts : List Token} {c : Char} {rest : List Char} : g.Skips c →
      ReadsAfter g before rest ts → ReadsAfter g before (c :: rest) ts
  /-- A character that the grammar does not know. -/
  | stray {before ts : List Token} {c : Char} {rest : List Char} :
      (∀ d ∈ g.entries, d.startsWith c = false) → Text.isWhiteSpace c = false →
        ReadsAfter g (before ++ [.unknown [c]]) rest ts →
          ReadsAfter g before (c :: rest) (.unknown [c] :: ts)
  /-- What a descriptor takes is one token. If the descriptor is that of enclosed texts, this is all
      up to the closing character, whatever it would be read as elsewhere. -/
  | token {before ts : List Token} {c : Char} {d : Descriptor} {segment text rest : List Char}
      {t : Token} : g.IsLastFor c d → d.Scans c segment text rest → g.ReadsAs before d text t →
        ReadsAfter g (before ++ [t]) rest ts → ReadsAfter g before (segment ++ rest) (t :: ts)

variable {g : Grammar} {counts : Counts} {before ts : List Token} {t : Token} {l l' : Lexer}
  {d : Descriptor} {cs text : List Char} {id : String}

/-! ### Numbers -/

theorem Literal.position?_of_ofNumeral? {literal : Literal}
    (h : Literal.ofNumeral? text = some literal) : literal.position? = none := by
  rw [ofNumeral?] at h
  split at h
  · cases h
    rfl
  · obtain ⟨x, -, rfl⟩ := Option.map_eq_some_iff.1 h
    rfl

/-- What a scanned text is read as is numbered by the tokens before it. -/
theorem Grammar.ReadsAs.isNumberedAfter (h : g.ReadsAs before d text t) :
    t.IsNumberedAfter before := by
  rw [Token.IsNumberedAfter]
  cases h with
  | refused _ => rfl
  | counted _ _ hcounted => rw [if_pos hcounted]; rfl
  | number _ _ hcounted _ hliteral =>
    rw [Literal.position?_of_ofNumeral? hliteral, if_neg (by simp [hcounted])]
  | valueless _ _ _ _ _ => rfl
  | text _ _ hcounted _ => rw [if_neg (by simp [hcounted])]; rfl

theorem Token.isNumberedAfter_unknown (before : List Token) (text : List Char) :
    (Token.unknown text).IsNumberedAfter before := rfl

/-- Every token that is read is numbered by those before it. -/
theorem Grammar.ReadsAfter.isNumberedAfter (h : g.ReadsAfter before cs ts)
    {front after : List Token} (hts : ts = front ++ t :: after) :
    t.IsNumberedAfter (before ++ front) := by
  induction h generalizing front with
  | nil => simp at hts
  | skip _ _ ih => exact ih hts
  | stray _ _ _ ih =>
    rcases List.cons_eq_append_iff.1 hts with ⟨rfl, hts⟩ | ⟨front, rfl, hts⟩
    · obtain ⟨rfl, -⟩ := List.cons.inj hts
      exact Token.isNumberedAfter_unknown _ _
    · simpa using ih (List.cons.inj hts).2
  | token _ _ hreads _ ih =>
    rcases List.cons_eq_append_iff.1 hts with ⟨rfl, hts⟩ | ⟨front, rfl, hts⟩
    · obtain ⟨rfl, -⟩ := List.cons.inj hts
      simpa using hreads.isNumberedAfter
    · simpa using ih (List.cons.inj hts).2

namespace Token

/-- A token adds a number to those of the id that it is counted under. -/
theorem IsNumberedAfter.positions_cons (h : t.IsNumberedAfter before) (id : String)
    (ts : List Token) :
    positions id (t :: ts) =
      if t.countsAs id then before.countP (·.countsAs id) :: positions id ts
      else positions id ts := by
  rw [IsNumberedAfter] at h
  by_cases hid : t.descriptor.id = id
  · subst hid
    cases hcounted : t.descriptor.counted <;> simp [positions, countsAs, hcounted, h]
  · simp [positions, countsAs, hid]

/-- If all tokens are numbered by those before them, the numbers of an id go on from how many tokens
    before were counted under it. -/
theorem positions_eq (h : ∀ {front t after}, ts = front ++ t :: after →
    t.IsNumberedAfter (before ++ front)) (id : String) :
    positions id ts = List.range' (before.countP (·.countsAs id)) (ts.countP (·.countsAs id)) := by
  induction ts generalizing before with
  | nil => rfl
  | cons t ts ih =>
    have ht : t.IsNumberedAfter before := by simpa using @h [] t ts rfl
    have hts := @ih (before ++ [t]) fun {front u after} hfront => by
      simpa using @h (t :: front) u after (congrArg (t :: ·) hfront)
    rw [ht.positions_cons, hts, List.countP_append, List.countP_singleton, List.countP_cons]
    by_cases hcounts : t.countsAs id = true
    · simp [hcounts, List.range'_succ]
    · simp [hcounts]

end Token

/-! ### The lexer -/

/-- The counts of a lexer are those of the tokens that it has read. -/
def Lexer.CountsOf (before : List Token) (l : Lexer) : Prop :=
  ∀ id, l.counts.get id = before.countP (·.countsAs id)

/-- Reading a token keeps the counts right. -/
theorem Lexer.CountsOf.next? (h : l.CountsOf before) (hnext : l.next? g = some (t, l')) :
    l'.CountsOf (before ++ [t]) := by
  intro id
  rw [List.countP_append, List.countP_singleton, ← h id]
  rcases (next?_origin hnext).count id with ⟨hcounts, -, hget⟩ | ⟨hcounts, hget⟩
  · rw [hget, if_pos hcounts]
  · rw [hget, if_neg (by simp [hcounts]), Nat.add_zero]

namespace Grammar

/-- The token of a scanned text is numbered by the tokens before it, if the counts are theirs. -/
theorem readsAs_finish (hcounts : ∀ id, counts.get id = before.countP (·.countsAs id))
    (d : Descriptor) (text : List Char) :
    g.ReadsAs before d text (g.finish counts d text).1 := by
  rw [finish]
  split
  · rename_i hformat
    exact .refused (by simpa using hformat)
  rename_i hformat
  rw [Bool.not_eq_true, Bool.not_eq_false'] at hformat
  split
  · rename_i hcounted
    rw [hcounts]
    exact .counted rfl hformat hcounted
  rename_i hcounted
  rw [Bool.not_eq_true] at hcounted
  split
  · rename_i hkind
    split
    · exact .number rfl hformat hcounted hkind ‹_›
    · exact .valueless rfl hformat hcounted hkind ‹_›
  · exact .text rfl hformat hcounted ‹_›

/-- The first token of a text, and what is read after it. -/
theorem readsAfter_of_scan (hcounts : ∀ id, counts.get id = before.countP (·.countsAs id))
    (h : g.scan counts cs = some (t, l)) (hrest : g.ReadsAfter (before ++ [t]) l.rest ts) :
    g.ReadsAfter before cs (t :: ts) := by
  induction cs with
  | nil => cases h
  | cons c cs ih =>
    rw [scan] at h
    split at h
    · rename_i hstart
      have hnone := startsWith_of_startingWith? hstart
      split at h
      · exact .skip ⟨‹_›, hnone⟩ (ih h)
      · rename_i hwhite
        cases h
        exact .stray hnone (Bool.not_eq_true _ ▸ hwhite) hrest
    · rename_i d hstart
      cases h
      obtain ⟨segment, hcut, hscans⟩ := d.scans_segment c cs
      rw [hcut]
      exact .token (isLastFor_of_startingWith? hstart) hscans (readsAs_finish hcounts d _) hrest

/-- A text without tokens is skipped. -/
theorem readsAfter_of_skips (h : ∀ c ∈ cs, g.Skips c) : g.ReadsAfter before cs [] := by
  induction cs with
  | nil => exact .nil
  | cons c cs ih =>
    obtain ⟨hc, hcs⟩ := List.forall_mem_cons.1 h
    exact .skip hc (ih hcs)

end Grammar

namespace Lexer

/-- A lexer reads a text after the tokens that it has counted. -/
theorem CountsOf.readsAfter (h : l.CountsOf before) : g.ReadsAfter before l.rest (l.tokens g) := by
  -- The tokens before grow by the one that is read, and the counts with them.
  induction l using tokens_induct (g := g) generalizing before with
  | nil l hnext => exact Grammar.readsAfter_of_skips (Grammar.skips_of_scan hnext)
  | cons l t l' hnext ih => exact Grammar.readsAfter_of_scan h hnext (ih (h.next? hnext))

/-- Tokens that are asked for one by one are the first ones, and then none. The others are still to
    be read. -/
theorem take_eq (n : Nat) (l : Lexer) :
    (take g n l).1 =
        ((l.tokens g).take n).map some ++ List.replicate (n - (l.tokens g).length) none ∧
      (take g n l).2.tokens g = (l.tokens g).drop n := by
  induction n generalizing l with
  | zero => simp [take]
  | succ n ih =>
    rw [take]
    cases hnext : l.next? g with
    | none =>
      rw [tokens_of_next?_eq_none hnext]
      exact ⟨rfl, tokens_of_next?_eq_none rfl⟩
    | some read =>
      obtain ⟨t, l'⟩ := read
      obtain ⟨hread, htokens⟩ := ih l'
      rw [tokens_of_next? hnext]
      simp [hread, htokens]

end Lexer

/-- Under every grammar the numbers of the tokens with an id are 0, 1, 2 and so on, in order of
    appearance, as each is how many tokens before it are counted under the id. Tokens of other ids
    have no part in this; nor has a text that is refused for its shape, which is an unknown token,
    nor what is enclosed, which belongs to one token. The tokens are the same if some are asked for
    one by one, and then all others. -/
theorem tokenize_numbered (g : Grammar) (text : String) :
    let ts := g.tokenize text
    (∀ id, Token.positions id ts = List.range (ts.countP (·.countsAs id))) ∧
      (∀ before t after, ts = before ++ t :: after → t.IsNumberedAfter before) ∧
      g.ReadsAfter [] text.toList ts ∧
      ∀ n, let (read, l) := Lexer.take g n ⟨text.toList, []⟩
        read = (ts.take n).map some ++ List.replicate (n - ts.length) none ∧
          read.reduceOption ++ l.tokens g = ts := by
  intro ts
  let start : Lexer := ⟨text.toList, []⟩
  have hstart : start.CountsOf [] := fun _ => rfl
  -- Before the first token nothing was counted, as the empty counts say.
  have hreads : g.ReadsAfter [] text.toList ts := hstart.readsAfter
  refine ⟨fun id => ?_, fun _ _ _ hts => hreads.isNumberedAfter hts, hreads, fun n => ?_⟩
  · rw [List.range_eq_range']
    exact @Token.positions_eq [] ts (fun hts => hreads.isNumberedAfter hts) id
  · have hsome (us : List Token) : (us.map some).reduceOption = us := by
      rw [List.reduceOption, List.filterMap_map]
      exact List.filterMap_some
    obtain ⟨hread, htokens⟩ := Lexer.take_eq (g := g) n start
    refine ⟨hread, ?_⟩
    rw [hread, htokens, List.reduceOption_append, List.reduceOption_replicate_none,
      List.append_nil, hsome]
    exact List.take_append_drop n ts

end RecordQuery
