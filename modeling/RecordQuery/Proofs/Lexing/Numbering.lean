import RecordQuery.Proofs.Lexing.RoundTrip

/-!
# Where tokens come from

Every token of a text is either unknown, or has a descriptor of the grammar and carries what this
descriptor asks for. Counted tokens carry their number, and as the lexer counts each of them once,
those with one id are numbered in order of appearance (`Lexer.literals_counted`), for every grammar
and every text.

* `Lexer.next?_origin`: what one step of the lexer can do.
* `Lexer.origin_of_mem_tokens`: the origin of every token.
-/

namespace RecordQuery

namespace Counts

theorem get_increment_of_ne {id other : String} (h : other ≠ id) (counts : Counts) :
    (counts.increment id).get other = counts.get other := by
  induction counts with
  | nil => simp [increment, get, List.lookup_cons, beq_false_of_ne h]
  | cons entry counts ih =>
    obtain ⟨key, n⟩ := entry
    rw [increment]
    split
    · rename_i hkey
      have hne : (other == key) = false := beq_false_of_ne (hkey ▸ h)
      simp [get, List.lookup_cons, hne]
    · rw [get, get, List.lookup_cons, List.lookup_cons]
      split
      · rfl
      · exact ih

end Counts

variable {g : Grammar} {counts : Counts} {t : Token} {l l' : Lexer}

/-! ### One token -/

/-- What a token can be that is read after the given counts, and the counts after it. -/
inductive Token.Origin (g : Grammar) (counts : Counts) : Token → Counts → Prop
  /-- The grammar does not know it. -/
  | unknown (text : List Char) : Origin g counts (.unknown text) counts
  /-- It is counted, and carries its number. -/
  | counted {d : Descriptor} : d ∈ g.entries → d.counted = true →
      Origin g counts ⟨d, .position (counts.get d.id)⟩ (counts.increment d.id)
  /-- It is not counted, and carries its text unless it is a number. -/
  | scanned {d : Descriptor} {literal : Literal} : d ∈ g.entries → d.counted = false →
      (d.kind ≠ .number → ∃ text, literal = .text text) → Origin g counts ⟨d, literal⟩ counts

/-- Whether a token is counted under an id. -/
def Token.countsAs (id : String) (t : Token) : Bool :=
  t.descriptor.counted && t.descriptor.id == id

/-- A token that is counted under an id carries the number of those before it, and only such a token
    changes the count of the id. -/
theorem Token.Origin.count {counts' : Counts} (h : Token.Origin g counts t counts') (id : String) :
    (t.countsAs id = true ∧ t.literal = .position (counts.get id) ∧
        counts'.get id = counts.get id + 1) ∨
      (t.countsAs id = false ∧ counts'.get id = counts.get id) := by
  cases h with
  | unknown text => exact .inr ⟨rfl, rfl⟩
  | scanned _ hcounted _ => exact .inr ⟨by simp [countsAs, hcounted], rfl⟩
  | @counted d _ hcounted =>
    by_cases hid : d.id = id
    · subst hid
      exact .inl ⟨by simp [countsAs, hcounted], rfl, counts.get_increment d.id⟩
    · exact .inr ⟨by simp [countsAs, hid], Counts.get_increment_of_ne (Ne.symm hid) counts⟩

namespace Grammar

theorem mem_of_startingWith? {c : Char} {d : Descriptor} (h : g.startingWith? c = some d) :
    d ∈ g.entries :=
  List.mem_reverse.1 (List.mem_of_find?_eq_some h)

/-- A scanned text keeps its descriptor or gets that of a reserved word. -/
theorem resolve_mem {scanned : Descriptor} (h : scanned ∈ g.entries) (text : List Char) :
    g.resolve scanned text ∈ g.entries := by
  rw [resolve]
  split
  · exact h
  · cases hword : g.reserved? (String.ofList text) with
    | none => exact h
    | some d => exact List.mem_reverse.1 (List.mem_of_find?_eq_some hword)

theorem finish_origin {d : Descriptor} (h : d ∈ g.entries) (text : List Char) :
    Token.Origin g counts (g.finish counts d text).1 (g.finish counts d text).2 := by
  have hmem := resolve_mem h text
  rw [finish]
  split
  · exact .unknown text
  split
  · exact .counted hmem ‹_›
  have hcounted : (g.resolve d text).counted = false := by rwa [Bool.not_eq_true] at *
  split
  · split
    · exact .scanned hmem hcounted fun hkind => absurd ‹_› hkind
    · exact .unknown text
  · exact .scanned hmem hcounted fun _ => ⟨_, rfl⟩

/-- The first token of a text has an origin. -/
theorem scan_origin {cs : List Char} (h : g.scan counts cs = some (t, l)) :
    Token.Origin g counts t l.counts := by
  induction cs with
  | nil => cases h
  | cons c cs ih =>
    rw [scan] at h
    split at h
    · split at h
      · exact ih h
      · cases h
        exact .unknown [c]
    · rename_i d hstart
      cases h
      exact finish_origin (mem_of_startingWith? hstart) _

end Grammar

/-! ### All tokens -/

namespace Lexer

theorem next?_origin (h : l.next? g = some (t, l')) : Token.Origin g l.counts t l'.counts :=
  Grammar.scan_origin h

/-- Induction on the tokens of a text, from the last one to the first. -/
theorem tokens_induct {motive : Lexer → List Token → Prop}
    (nil : ∀ l, l.next? g = none → motive l [])
    (cons : ∀ l t l', l.next? g = some (t, l') → motive l' (l'.tokens g) →
      motive l (t :: l'.tokens g)) (l : Lexer) : motive l (l.tokens g) := by
  induction l, ([] : List Token) using collect.induct g with
  | case1 l _ hnext =>
    rw [tokens_of_next?_eq_none hnext]
    exact nil l hnext
  | case2 l _ t l' hnext ih =>
    rw [tokens_of_next? hnext]
    exact cons l t l' hnext ih

/-- Every token has an origin, after whatever counts it was read. -/
theorem origin_of_mem_tokens (h : t ∈ l.tokens g) :
    ∃ before after, Token.Origin g before t after := by
  revert h
  induction l using tokens_induct (g := g) with
  | nil l _ => exact fun h => absurd h List.not_mem_nil
  | cons l u l' hnext ih =>
    intro h
    rcases List.mem_cons.1 h with rfl | h
    · exact ⟨_, _, next?_origin hnext⟩
    · exact ih h

/-- The tokens counted under an id are numbered in order of appearance, from the count on with which
    the reading begins. -/
theorem literals_counted (id : String) (l : Lexer) :
    ((l.tokens g).filter (·.countsAs id)).map (·.literal) =
      (List.range' (l.counts.get id) ((l.tokens g).countP (·.countsAs id))).map .position := by
  induction l using tokens_induct (g := g) with
  | nil l _ => rfl
  | cons l t l' hnext ih =>
    rw [List.filter_cons, List.countP_cons]
    rcases (next?_origin hnext).count id with ⟨hcounts, hliteral, hget⟩ | ⟨hcounts, hget⟩
    · rw [hget] at ih
      simp [hcounts, hliteral, ih, List.range'_succ]
    · rw [hget] at ih
      simpa [hcounts] using ih

end Lexer

end RecordQuery
