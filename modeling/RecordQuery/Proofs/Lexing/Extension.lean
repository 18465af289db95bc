import Mathlib.Data.List.Infix
import RecordQuery.Proofs.Lexing.Concatenation

/-!
# Extended grammars

A descriptor that is registered under a new id comes last, so it is asked first, for every character
and for every text that is scanned. If it begins no tokens of its own, all it can do is to take over
the texts that spell its reserved word. A text in which this word does not occur is therefore read
as before the extension, and means the same (`tokenize_register`).

* `Grammar.entries_register`: a new id comes last.
* `Grammar.startingWith?_register`, `Grammar.reserved?_register`: what the new descriptor leaves to
  the others.
* `Grammar.scan_register`: the first token, from the two and from where scanned texts stand.
-/

namespace RecordQuery

variable {g : Grammar} {id word : String} {d scanned : Descriptor} {counts : Counts} {c : Char}
  {cs text : List Char}

/-- A text that is not enclosed is scanned from the start of what is read. -/
theorem Descriptor.segment_prefix (h : scanned.delimited = false) (c : Char) (cs : List Char) :
    (scanned.segment c cs).1 <+: c :: cs := by
  obtain ⟨segment, hcut, hscans⟩ := scanned.scans_segment c cs
  rw [hcut]
  generalize scanned.segment c cs = cut at hscans ⊢
  obtain ⟨text, rest⟩ := cut
  cases hscans with
  | closed hdelimited _ => exact absurd hdelimited (by simp [h])
  | unclosed hdelimited _ => exact absurd hdelimited (by simp [h])
  | single _ _ => exact List.prefix_append _ _
  | run _ _ _ _ => exact List.prefix_append _ _

namespace Grammar

/-! ### A new id -/

theorem place_of_forall_ne {entries : List Descriptor} (h : ∀ e ∈ entries, e.id ≠ d.id) :
    place d entries = entries ++ [d] := by
  induction entries with
  | nil => rfl
  | cons e entries ih =>
    obtain ⟨he, hentries⟩ := List.forall_mem_cons.1 h
    rw [place, if_neg he, ih hentries, List.cons_append]

/-- A descriptor with a new id comes after all others. -/
theorem entries_register (hid : g.get? id = none) (d : Descriptor) :
    (g.register id d).entries = g.entries ++ [{ d with id := id }] := by
  refine place_of_forall_ne fun e he => ?_
  simpa using List.find?_eq_none.1 hid e he

/-- Which descriptor a token begins with is not affected by one that begins no tokens. -/
theorem startingWith?_register (hid : g.get? id = none) (hfirst : d.firstChar = none) (c : Char) :
    (g.register id d).startingWith? c = g.startingWith? c := by
  have hc : ({ d with id := id } : Descriptor).startsWith c = false := by
    rw [Descriptor.startsWith, hfirst]
    rfl
  rw [startingWith?, entries_register hid, List.reverse_append, List.reverse_singleton,
    List.singleton_append, List.find?_cons_of_neg (by simp [hc])]
  rfl

/-- Which descriptor a word belongs to is not affected by one with another word. -/
theorem reserved?_register (hid : g.get? id = none) (hword : d.reservedWord ≠ some word) :
    (g.register id d).reserved? word = g.reserved? word := by
  rw [reserved?, entries_register hid, List.reverse_append, List.reverse_singleton,
    List.singleton_append, List.find?_cons_of_neg (by simpa using hword)]
  rfl

/-! ### One token -/

/-- A text that is not the new reserved word becomes the token that it was. -/
theorem finish_register (hid : g.get? id = none)
    (htext : scanned.delimited = false → d.reservedWord ≠ some (String.ofList text)) :
    (g.register id d).finish counts scanned text = g.finish counts scanned text := by
  have hresolve : (g.register id d).resolve scanned text = g.resolve scanned text := by
    rw [resolve, resolve]
    split
    · rfl
    · rename_i hdelimited
      rw [reserved?_register hid (htext (Bool.not_eq_true _ ▸ hdelimited))]
  rw [finish, finish, hresolve]

/-- The first token of a text in which the reserved word does not occur. -/
theorem scan_register (hid : g.get? id = none) (hfirst : d.firstChar = none)
    (hword : d.reservedWord = some word) (hcs : ¬word.toList <:+: cs) :
    (g.register id d).scan counts cs = g.scan counts cs := by
  induction cs with
  | nil => rfl
  | cons c cs ih =>
    rw [scan, scan, startingWith?_register hid hfirst]
    cases g.startingWith? c with
    | none => simp only [ih fun h => hcs (List.infix_cons h)]
    | some scanned =>
      -- What is scanned occurs in the text, so it is not the word.
      have htext : scanned.delimited = false →
          d.reservedWord ≠ some (String.ofList (scanned.segment c cs).1) := by
        intro hdelimited heq
        obtain rfl := Option.some.inj (hword.symm.trans heq)
        rw [String.toList_ofList] at hcs
        exact hcs (scanned.segment_prefix hdelimited c cs).isInfix
      simp only [finish_register hid htext]

end Grammar

/-! ### All tokens -/

/-- A text without the new reserved word has the tokens that it had. -/
theorem Lexer.tokens_register (hid : g.get? id = none) (hfirst : d.firstChar = none)
    (hword : d.reservedWord = some word) (l : Lexer) (hl : ¬word.toList <:+: l.rest) :
    l.tokens (g.register id d) = l.tokens g := by
  have hscan (l : Lexer) (hl : ¬word.toList <:+: l.rest) :
      l.next? (g.register id d) = l.next? g :=
    Grammar.scan_register hid hfirst hword hl
  induction l using tokens_induct (g := g) with
  | nil l hnext => rw [tokens_of_next?_eq_none ((hscan l hl).trans hnext)]
  | cons l t l' hnext ih =>
    rw [tokens_of_next? ((hscan l hl).trans hnext),
      ih fun h => hl (h.trans (rest_suffix_of_next? hnext).isInfix)]

/-- A grammar that is extended by a descriptor that begins no tokens reads a text in which the
    reserved word of this descriptor does not occur as before. So a condition with this text
    compiles to the same tree, or fails to compile for the same reasons, and the same records match.
    -/
theorem tokenize_register (hid : g.get? id = none) (hfirst : d.firstChar = none)
    (hword : d.reservedWord = some word) {text : String} (htext : ¬word.toList <:+: text.toList) :
    (g.register id d).tokenize text = g.tokenize text ∧
      ∀ clause, let extended := Compiled.ofText (g.register id d) text clause
        let original := Compiled.ofText g text clause
        extended.tree = original.tree ∧ ∀ ctx, extended.test ctx = original.test ctx := by
  have htokens : (g.register id d).tokenize text = g.tokenize text :=
    Lexer.tokens_register hid hfirst hword ⟨text.toList, []⟩ htext
  have hcompiled (clause : Option String) :
      Compiled.ofText (g.register id d) text clause = Compiled.ofText g text clause := by
    rw [Compiled.ofText, Compiled.ofText, htokens]
  exact ⟨htokens, fun clause => ⟨by rw [hcompiled], fun ctx => by rw [hcompiled]⟩⟩

/-- A comparator that holds if a string contains another does not affect a condition in which its
    word occurs in parts only. -/
theorem tokenize_register_contains :
    let meaning : Extension := fun operands _ =>
      Operator.onStrings "CONTAINS" (fun s t => decide (t.toList <:+: s.toList))
        (operands.left.getD .null) (operands.right.getD .null)
    let d := Descriptor.comparator "CONTAINS" (.extension meaning)
    let text := "CONTAIN = 'S (' AND %@ != contains"
    let g := Grammar.standard.register "contains" d
    Grammar.standard.get? "contains" = none ∧ d.firstChar = none ∧
      d.reservedWord = some "CONTAINS" ∧ ¬"CONTAINS".toList <:+: text.toList ∧
      g.tokenize text = Grammar.standard.tokenize text ∧
      ∀ clause, let extended := Compiled.ofText g text clause
        let original := Compiled.ofText .standard text clause
        extended.tree = original.tree ∧ ∀ ctx, extended.test ctx = original.test ctx := by
  intro meaning d text g
  have hid : Grammar.standard.get? "contains" = none := rfl
  have htext : ¬"CONTAINS".toList <:+: text.toList := by decide +kernel
  exact ⟨hid, rfl, rfl, htext, tokenize_register hid rfl rfl htext⟩

end RecordQuery
