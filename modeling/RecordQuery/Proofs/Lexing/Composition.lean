import RecordQuery.Proofs.Lexing.Concatenation

/-!
# Texts inside other texts

A text can be written into another one as it is. Whatever stands before it has been read when it
begins, if that ends in a token of one character; and it has been read when the other text goes on,
if what comes then ends all runs, as white space and a closing parenthesis do. Only the numbers of
the wildcards depend on what was read before.

* `Grammar.IsFixed`: a piece of text whose tokens are the same wherever it stands.
* `Grammar.tokenize_append`: one text right after another.
* `Grammar.tokenize_framed`, `Grammar.tokenize_framed_two`: texts between fixed pieces.
-/

namespace RecordQuery.Grammar

open RecordQuery.Text

/-- A space is skipped. -/
theorem skips_space : ∀ c ∈ [' '], standard.Skips c :=
  List.forall_mem_singleton.2 (splits_standard.skips_of_isWhiteSpace rfl)

/-- A space ends all runs. -/
theorem endsRuns_space (rest : List Char) : standard.EndsRuns (' ' :: rest) :=
  splits_standard.endsRuns (by rintro _ ⟨⟩; rfl)

/-- A text that adds the same tokens wherever it stands, none of them counted. -/
structure IsFixed (text : String) (ts : List Token) : Prop where
  tokenize : ∀ rest, standard.tokenize (text ++ rest) = ts ++ standard.tokenize rest
  advance : ∀ k, ts.map (Token.advance k) = ts

namespace IsFixed

variable {x y : String} {ts us : List Token}

theorem empty : IsFixed "" [] where
  tokenize rest := by rw [String.empty_append, List.nil_append]
  advance _ := rfl

theorem append (hx : IsFixed x ts) (hy : IsFixed y us) : IsFixed (x ++ y) (ts ++ us) where
  tokenize rest := by
    rw [String.append_assoc, hx.tokenize, hy.tokenize, List.append_assoc]
  advance k := by rw [List.map_append, hx.advance, hy.advance]

/-- What is read without counting anything, up to characters that are skipped. -/
theorem of_readsTo_skipped {skipped : List Char}
    (h : ∀ rest, Lexer.ReadsTo standard ⟨x.toList ++ rest, []⟩ ts ⟨skipped ++ rest, []⟩)
    (hskipped : ∀ c ∈ skipped, standard.Skips c) (hadvance : ∀ k, ts.map (Token.advance k) = ts) :
    IsFixed x ts where
  tokenize rest := by
    rw [Grammar.tokenize, String.toList_append, (h _).tokens_eq, Lexer.tokens_append hskipped,
      Grammar.tokenize]
  advance := hadvance

/-- What is read without counting anything, whatever follows. -/
theorem of_readsTo (h : ∀ rest, Lexer.ReadsTo standard ⟨x.toList ++ rest, []⟩ ts ⟨rest, []⟩)
    (hadvance : ∀ k, ts.map (Token.advance k) = ts) : IsFixed x ts :=
  of_readsTo_skipped (fun rest => List.nil_append rest ▸ h rest) (by simp) hadvance

end IsFixed

/-- A closing parenthesis ends all runs. -/
theorem endsRuns_closing (rest : List Char) : standard.EndsRuns (')' :: rest) := by
  have hstops : ∀ d ∈ standard.entries, d.stopsAt ')' = true := by decide
  rintro _ ⟨⟩
  exact hstops

/-- If a text is not unterminated, and what follows it ends all runs, its tokens come first and those
    of what follows come next, with their wildcards counted on. -/
theorem tokenize_append {a b : String} (ha : ¬standard.Unterminated a)
    (hb : standard.EndsRuns b.toList) :
    standard.tokenize (a ++ b) = standard.tokenize a ++
      (standard.tokenize b).map (Token.advance (wildCards (standard.tokenize a))) := by
  obtain ⟨⟨skipped, counts⟩, hreads, hend⟩ := Lexer.exists_readsTo standard ⟨a.toList, []⟩
  have hreads' : Lexer.ReadsTo standard ⟨a.toList ++ [], []⟩ (standard.tokenize a)
      ⟨skipped ++ [], counts⟩ := by
    rwa [List.append_nil, List.append_nil]
  have hclosed us l (hl : Lexer.ReadsTo standard ⟨a.toList ++ [], []⟩ us l) :
      ¬l.BreaksOff standard := by
    rw [List.append_nil] at hl
    exact fun hbreaks => ha ⟨us, l, hl, hbreaks⟩
  have hcounts : Counts.GrownFrom counts [] counts := fun id => (Nat.zero_add _).symm
  calc standard.tokenize (a ++ b)
    _ = standard.tokenize a ++ Lexer.tokens standard ⟨b.toList, counts⟩ := by
      rw [tokenize, String.toList_append,
        hreads'.tokens_append hb (skips_of_scan hend) fun _ => hclosed]
    _ = standard.tokenize a ++ (standard.tokenize b).map (Token.renumber counts) := by
      rw [Lexer.tokens_renumber hcounts]
      rfl
    _ = _ := by
      rw [← hreads.get_wildCards]
      exact congrArg _ (List.map_congr_left fun t ht => Token.renumber_eq_advance ht counts)

/-- A text before a fixed one that ends all runs. Whatever comes then has its wildcards counted
    on. -/
theorem tokenize_append_fixed {a back : String} {us : List Token}
    (ha : ¬standard.Unterminated a) (hback : IsFixed back us)
    (hends : ∀ rest, standard.EndsRuns (back.toList ++ rest)) (rest : String) :
    standard.tokenize (a ++ (back ++ rest)) = standard.tokenize a ++ (us ++
      (standard.tokenize rest).map (Token.advance (wildCards (standard.tokenize a)))) := by
  have hrest : standard.EndsRuns (back ++ rest).toList := String.toList_append ▸ hends rest.toList
  rw [tokenize_append ha hrest, hback.tokenize, List.map_append, hback.advance]

/-- A text between two fixed ones. -/
theorem tokenize_framed {front a back : String} {ts us : List Token} (hfront : IsFixed front ts)
    (ha : ¬standard.Unterminated a) (hback : IsFixed back us)
    (hends : ∀ rest, standard.EndsRuns (back.toList ++ rest)) :
    standard.tokenize (front ++ a ++ back) = ts ++ (standard.tokenize a ++ us) := by
  have hempty : standard.tokenize "" = [] := Lexer.ReadsTo.nil.tokens_of_end rfl
  have h := tokenize_append_fixed ha hback hends ""
  rw [String.append_empty, hempty, List.map_nil, List.append_nil] at h
  rw [String.append_assoc, hfront.tokenize, h]

/-- Two texts between three fixed ones. -/
theorem tokenize_framed_two {front a middle b back : String} {ts us vs : List Token}
    (hfront : IsFixed front ts) (ha : ¬standard.Unterminated a) (hmiddle : IsFixed middle us)
    (hb : ¬standard.Unterminated b) (hback : IsFixed back vs)
    (hends : ∀ rest, standard.EndsRuns (middle.toList ++ rest))
    (hends' : ∀ rest, standard.EndsRuns (back.toList ++ rest)) :
    standard.tokenize (front ++ a ++ middle ++ b ++ back) = ts ++ (standard.tokenize a ++ (us ++
      ((standard.tokenize b).map (Token.advance (wildCards (standard.tokenize a))) ++ vs))) := by
  have h := tokenize_framed .empty hb hback hends'
  rw [String.empty_append, List.nil_append] at h
  have hassoc : front ++ a ++ middle ++ b ++ back = front ++ (a ++ (middle ++ (b ++ back))) := by
    simp only [String.append_assoc]
  rw [hassoc, hfront.tokenize, tokenize_append_fixed ha hmiddle hends, h, List.map_append,
    hback.advance]

end RecordQuery.Grammar
