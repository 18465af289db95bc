import Mathlib.Data.List.TakeWhile
import RecordQuery.Ordering

/-!
# Writing ordering clauses

A clause can be written in many ways: with more or less white space, with blank segments between its
commas, with words after the first two of a segment, which mean nothing. A grammar of these ways
says which entries a clause has without cutting it into pieces (`OrderEntry.IsClause`), and every
text is a clause in it. Reading gives the entries of which the text is a clause, and no others
(`OrderEntry.ofClause_eq_iff`).

* `Text.words_append_cons`, `Text.words_append_of_word`: the words of a text, from the left.
* `Text.exists_cut`: the first word of a text.
* `OrderEntry.Writes`: the ways to write one entry.
* `OrderEntry.toClause`: one way to write a list of entries.
-/

namespace RecordQuery

/-! ### Cutting at separators -/

namespace Text

variable {p : Char → Bool} {c : Char} {cs : List Char}

/-- Cutting at separators is that of the library. -/
theorem splitAt_eq_splitOnP (p : Char → Bool) (cs : List Char) :
    splitAt p cs = cs.splitOnP p := by
  induction cs with
  | nil => exact List.splitOnP_nil.symm
  | cons c cs ih =>
    obtain ⟨piece, pieces, hcs⟩ := List.exists_cons_of_ne_nil (List.splitOnP_ne_nil p cs)
    rw [splitAt] at ih
    rw [splitAt, List.foldr_cons, ih, List.splitOnP_cons_eq_if_modifyHead, hcs]
    rfl

theorem words_append_cons (hc : p c = true) (a b : List Char) :
    words p (a ++ c :: b) = words p a ++ words p b := by
  simp only [words, splitAt_eq_splitOnP, List.splitOnP_append_cons a b hc, List.filter_append]

/-- Separators before a text do not matter. -/
theorem words_append (h : ∀ x ∈ cs, p x = true) (b : List Char) :
    words p (cs ++ b) = words p b := by
  induction cs with
  | nil => rfl
  | cons c cs ih =>
    obtain ⟨hc, hcs⟩ := List.forall_mem_cons.1 h
    rw [List.cons_append, ← List.nil_append (c :: (cs ++ b)), words_append_cons hc, ih hcs]
    rfl

theorem words_of_forall (h : ∀ x ∈ cs, p x = true) : words p cs = [] := by
  rw [← List.append_nil cs, words_append h]
  rfl

/-- A word ends with the text or before a separator. -/
theorem words_append_of_word {word rest : List Char} (hne : word ≠ [])
    (hword : ∀ x ∈ word, p x = false) (hrest : ∀ x ∈ rest.head?, p x = true) :
    words p (word ++ rest) = word :: words p rest := by
  have hone : words p word = [word] := by
    rw [words, splitAt_eq_splitOnP, List.splitOnP_eq_singleton hword]
    simp [hne]
  cases rest with
  | nil => rw [List.append_nil, hone, words_of_forall (by simp)]
  | cons c rest =>
    have hc : p c = true := hrest c rfl
    rw [words_append_cons hc, hone, ← List.nil_append (c :: rest), words_append_cons hc]
    rfl

/-- A text has only separators, or a first word between separators and what follows it. -/
theorem exists_cut (p : Char → Bool) (cs : List Char) :
    (∀ x ∈ cs, p x = true) ∨ ∃ before word rest, cs = before ++ (word ++ rest) ∧
      (∀ x ∈ before, p x = true) ∧ word ≠ [] ∧ (∀ x ∈ word, p x = false) ∧
        ∀ x ∈ rest.head?, p x = true := by
  have hbefore : ∀ x ∈ cs.takeWhile p, p x = true := fun x hx => List.mem_takeWhile_imp hx
  have hcut := List.takeWhile_append_dropWhile (p := p) (l := cs)
  have hhead := List.head?_dropWhile_not p cs
  generalize cs.dropWhile p = tail at hcut hhead
  cases tail with
  | nil =>
    rw [List.append_nil] at hcut
    exact .inl (hcut ▸ hbefore)
  | cons c tail =>
    have hc : p c = false := by simpa using hhead
    have hcut' := List.takeWhile_append_dropWhile (p := (!p ·)) (l := tail)
    refine .inr ⟨_, c :: tail.takeWhile (!p ·), tail.dropWhile (!p ·), ?_, hbefore,
      List.cons_ne_nil _ _, ?_, ?_⟩
    · rw [List.cons_append, hcut', hcut]
    · exact List.forall_mem_cons.2 ⟨hc, fun x hx => by simpa using List.mem_takeWhile_imp hx⟩
    · intro x hx
      have hhead' := List.head?_dropWhile_not (!p ·) tail
      rw [Option.mem_def.1 hx] at hhead'
      simpa using hhead'

end Text

/-! ### Clauses -/

namespace OrderEntry

/-- White space only. -/
def IsBlank (cs : List Char) : Prop := ∀ c ∈ cs, Text.isWhiteSpace c = true

/-- Some characters, none of which is white space or a comma. -/
def IsWord (cs : List Char) : Prop := cs ≠ [] ∧ ∀ c ∈ cs, Text.isWhiteSpace c = false ∧ c ≠ ','

/-- What can follow the words of a segment that mean something: more words, set off from them. -/
def IsRest (cs : List Char) : Prop :=
  (∀ c ∈ cs, c ≠ ',') ∧ ∀ c ∈ cs.head?, Text.isWhiteSpace c = true

/-- The word that makes an entry descending. -/
def descWord : List Char := ['D', 'E', 'S', 'C']

/-- The ways to write an entry. -/
inductive Writes (e : OrderEntry) : List Char → Prop
  /-- The name alone. -/
  | name {before after : List Char} : e.descending = false → IsBlank before → IsBlank after →
      Writes e (before ++ (e.property.toList ++ after))
  /-- The name and a word that does not make it descending. -/
  | ascending {before gap word rest : List Char} : e.descending = false → IsBlank before →
      IsBlank gap → gap ≠ [] → IsWord word → word ≠ descWord → IsRest rest →
        Writes e (before ++ (e.property.toList ++ (gap ++ (word ++ rest))))
  /-- The name and the word that makes it descending. -/
  | descending {before gap rest : List Char} : e.descending = true → IsBlank before →
      IsBlank gap → gap ≠ [] → IsRest rest →
        Writes e (before ++ (e.property.toList ++ (gap ++ (descWord ++ rest))))

/-- The clauses with given entries. -/
inductive IsClause : List OrderEntry → List Char → Prop
  /-- A blank segment. -/
  | blank {cs : List Char} : IsBlank cs → IsClause [] cs
  /-- A segment with an entry. -/
  | entry {e : OrderEntry} {cs : List Char} : IsWord e.property.toList → e.Writes cs →
      IsClause [e] cs
  /-- Two clauses with a comma between them. -/
  | comma {es fs : List OrderEntry} {cs ds : List Char} : IsClause es cs → IsClause fs ds →
      IsClause (es ++ fs) (cs ++ ',' :: ds)

/-- An entry as it is usually written. -/
def display (e : OrderEntry) : String := e.property ++ if e.descending then " DESC" else ""

/-- A list of entries as it is usually written. -/
def toClause (es : List OrderEntry) : String := ", ".intercalate (es.map display)

variable {e : OrderEntry} {es : List OrderEntry} {cs : List Char}

/-! ### Reading -/

/-- The entries of a text. -/
def ofChars (cs : List Char) : List OrderEntry :=
  (Text.splitAt (· == ',') cs).filterMap fun segment =>
    ofWords? (Text.words Text.isWhiteSpace segment)

theorem ofClause_some (clause : String) : ofClause (some clause) = ofChars clause.toList := rfl

/-- A comma cuts a clause in two. -/
theorem ofChars_append (cs ds : List Char) :
    ofChars (cs ++ ',' :: ds) = ofChars cs ++ ofChars ds := by
  simp only [ofChars, Text.splitAt_eq_splitOnP]
  rw [List.splitOnP_append_cons cs ds rfl, List.filterMap_append]

/-- Without a comma there is one entry at most. -/
theorem ofChars_of_segment (h : ∀ c ∈ cs, c ≠ ',') :
    ofChars cs = (ofWords? (Text.words Text.isWhiteSpace cs)).toList := by
  rw [ofChars, Text.splitAt_eq_splitOnP,
    List.splitOnP_eq_singleton fun c hc => beq_false_of_ne (h c hc), List.filterMap_cons]
  cases ofWords? (Text.words Text.isWhiteSpace cs) <;> rfl

/-! ### What is written -/

/-- A comma is no white space. -/
theorem IsBlank.ne_comma (h : IsBlank cs) : ∀ c ∈ cs, c ≠ ',' := by
  rintro c hc rfl
  exact absurd (h ',' hc) (by decide)

theorem IsWord.ne_comma (h : IsWord cs) : ∀ c ∈ cs, c ≠ ',' := fun c hc => (h.2 c hc).2

theorem isWord_descWord : IsWord descWord := by
  refine ⟨List.cons_ne_nil _ _, fun c hc => ?_⟩
  simp only [descWord, List.mem_cons, List.not_mem_nil, or_false] at hc
  rcases hc with rfl | rfl | rfl | rfl <;> exact ⟨rfl, by decide⟩

/-- White space that is there sets off what follows it. -/
theorem IsBlank.sets_off (h : IsBlank cs) (hne : cs ≠ []) (rest : List Char) :
    ∀ c ∈ (cs ++ rest).head?, Text.isWhiteSpace c = true := by
  intro c hc
  cases cs with
  | nil => exact absurd rfl hne
  | cons x cs =>
    cases hc
    exact h _ List.mem_cons_self

/-- A word that is set off from what follows is the first one. -/
theorem IsWord.words_append (h : IsWord cs) {rest : List Char}
    (hrest : ∀ c ∈ rest.head?, Text.isWhiteSpace c = true) :
    Text.words Text.isWhiteSpace (cs ++ rest) = cs :: Text.words Text.isWhiteSpace rest :=
  Text.words_append_of_word h.1 (fun c hc => (h.2 c hc).1) hrest

/-- A written entry is one segment. -/
theorem Writes.ne_comma (hname : IsWord e.property.toList) (h : e.Writes cs) :
    ∀ c ∈ cs, c ≠ ',' := by
  cases h with
  | name _ hbefore hafter =>
    simp only [List.forall_mem_append]
    exact ⟨hbefore.ne_comma, hname.ne_comma, hafter.ne_comma⟩
  | ascending _ hbefore hgap _ hword _ hrest =>
    simp only [List.forall_mem_append]
    exact ⟨hbefore.ne_comma, hname.ne_comma, hgap.ne_comma, hword.ne_comma, hrest.1⟩
  | descending _ hbefore hgap _ hrest =>
    simp only [List.forall_mem_append]
    exact ⟨hbefore.ne_comma, hname.ne_comma, hgap.ne_comma, isWord_descWord.ne_comma, hrest.1⟩

/-- The words of a written entry begin with its name, and then comes the word that makes it
    descending if it is. -/
theorem Writes.exists_words (hname : IsWord e.property.toList) (h : e.Writes cs) :
    ∃ rest, Text.words Text.isWhiteSpace cs = e.property.toList :: rest ∧
      (rest.head? == some descWord) = e.descending := by
  cases h with
  | @name before after hdesc hbefore hafter =>
    have hhead : ∀ c ∈ after.head?, Text.isWhiteSpace c = true := fun c hc =>
      hafter c (List.mem_of_mem_head? hc)
    rw [Text.words_append hbefore, hname.words_append hhead, Text.words_of_forall hafter, hdesc]
    exact ⟨_, rfl, rfl⟩
  | ascending hdesc hbefore hgap hne hword hother hrest =>
    rw [Text.words_append hbefore, hname.words_append (hgap.sets_off hne _),
      Text.words_append hgap, hword.words_append hrest.2, hdesc]
    exact ⟨_, rfl, beq_false_of_ne fun h => hother (Option.some.inj h)⟩
  | descending hdesc hbefore hgap hne hrest =>
    rw [Text.words_append hbefore, hname.words_append (hgap.sets_off hne _),
      Text.words_append hgap, isWord_descWord.words_append hrest.2, hdesc]
    exact ⟨_, rfl, rfl⟩

/-- A written entry is read as that entry. -/
theorem Writes.ofChars_eq (hname : IsWord e.property.toList) (h : e.Writes cs) :
    ofChars cs = [e] := by
  obtain ⟨rest, hwords, hdesc⟩ := h.exists_words hname
  rw [ofChars_of_segment (h.ne_comma hname), hwords, ofWords?, String.ofList_toList]
  rw [descWord] at hdesc
  rw [hdesc]
  rfl

/-- A clause has the entries that it is written for. -/
theorem IsClause.ofChars_eq (h : IsClause es cs) : ofChars cs = es := by
  induction h with
  | blank hblank =>
    rw [ofChars_of_segment hblank.ne_comma, Text.words_of_forall hblank]
    rfl
  | entry hname hwrites => exact hwrites.ofChars_eq hname
  | comma _ _ ihes ihfs => rw [ofChars_append, ihes, ihfs]

/-- Whatever follows the name in a segment, the segment is a way to write an entry. -/
theorem exists_writes (property : String) {before after : List Char} (hbefore : IsBlank before)
    (hset : ∀ c ∈ after.head?, Text.isWhiteSpace c = true) (hafter : ∀ c ∈ after, c ≠ ',') :
    ∃ descending, Writes ⟨property, descending⟩ (before ++ (property.toList ++ after)) := by
  rcases Text.exists_cut Text.isWhiteSpace after with
    hblank | ⟨gap, word, rest, rfl, hgap, hne, hword, hrest⟩
  · exact ⟨false, .name rfl hbefore hblank⟩
  simp only [List.forall_mem_append] at hafter
  obtain ⟨-, hword', hrest'⟩ := hafter
  have hrest : IsRest rest := ⟨hrest', hrest⟩
  -- Without a gap the second word would go on where the name ends.
  have hgap' : gap ≠ [] := by
    rintro rfl
    obtain ⟨c, word, rfl⟩ := List.exists_cons_of_ne_nil hne
    have hc := hword c List.mem_cons_self
    rw [hset c rfl] at hc
    cases hc
  by_cases hdesc : word = descWord
  · exact ⟨true, hdesc ▸ .descending rfl hbefore hgap hgap' hrest⟩
  · exact ⟨false, .ascending rfl hbefore hgap hgap'
      ⟨hne, fun c hc => ⟨hword c hc, hword' c hc⟩⟩ hdesc hrest⟩

/-- Every segment is a clause. -/
theorem exists_isClause_of_segment (h : ∀ c ∈ cs, c ≠ ',') : ∃ es, IsClause es cs := by
  rcases Text.exists_cut Text.isWhiteSpace cs with
    hblank | ⟨before, name, after, rfl, hbefore, hne, hname, hset⟩
  · exact ⟨[], .blank hblank⟩
  simp only [List.forall_mem_append] at h
  obtain ⟨-, hname', hafter⟩ := h
  obtain ⟨property, rfl⟩ : ∃ property : String, property.toList = name :=
    ⟨String.ofList name, String.toList_ofList⟩
  obtain ⟨descending, hwrites⟩ := exists_writes property hbefore hset hafter
  exact ⟨_, .entry ⟨hne, fun c hc => ⟨hname c hc, hname' c hc⟩⟩ hwrites⟩

/-- Every text is a clause. -/
theorem exists_isClause (cs : List Char) : ∃ es, IsClause es cs := by
  by_cases h : ',' ∈ cs
  · obtain ⟨a, b, hcut⟩ := List.append_of_mem h
    have hlength : cs.length = a.length + (b.length + 1) := by
      rw [hcut, List.length_append, List.length_cons]
    -- Both sides of a comma are shorter, and the entries of both are those of the whole.
    obtain ⟨es, hes⟩ := exists_isClause a
    obtain ⟨fs, hfs⟩ := exists_isClause b
    exact ⟨es ++ fs, hcut ▸ .comma hes hfs⟩
  · exact exists_isClause_of_segment fun c hc heq => h (heq ▸ hc)
termination_by cs.length

/-- A text is a clause with the entries that are read from it, and with no others. -/
theorem isClause_iff : IsClause es cs ↔ ofChars cs = es := by
  refine ⟨IsClause.ofChars_eq, fun h => ?_⟩
  obtain ⟨fs, hfs⟩ := exists_isClause cs
  rwa [← h, hfs.ofChars_eq]

/-- The entries of a clause have words as their names. -/
theorem IsClause.isWord (h : IsClause es cs) : ∀ e ∈ es, IsWord e.property.toList := by
  induction h with
  | blank _ => simp
  | entry hname _ => simpa using hname
  | comma _ _ ihes ihfs => exact List.forall_mem_append.2 ⟨ihes, ihfs⟩

/-! ### The usual way to write entries -/

/-- White space before a clause does not matter. -/
theorem IsClause.append {before : List Char} (hbefore : IsBlank before) (h : IsClause es cs) :
    IsClause es (before ++ cs) := by
  have hblank (ds : List Char) (hds : IsBlank ds) : IsBlank (before ++ ds) :=
    List.forall_mem_append.2 ⟨hbefore, hds⟩
  induction h with
  | blank h => exact .blank (hblank _ h)
  | entry hname hwrites =>
    refine .entry hname ?_
    cases hwrites with
    | name hdesc h hafter =>
      rw [← List.append_assoc]
      exact .name hdesc (hblank _ h) hafter
    | ascending hdesc h hgap hne hword hother hrest =>
      rw [← List.append_assoc]
      exact .ascending hdesc (hblank _ h) hgap hne hword hother hrest
    | descending hdesc h hgap hne hrest =>
      rw [← List.append_assoc]
      exact .descending hdesc (hblank _ h) hgap hne hrest
  | comma _ hfs ihes _ =>
    rw [← List.append_assoc]
    exact .comma ihes hfs

theorem isBlank_nil : IsBlank [] := List.forall_mem_nil _

theorem isBlank_space : IsBlank [' '] := List.forall_mem_singleton.2 rfl

/-- The usual way to write an entry is one of the ways. -/
theorem writes_display (e : OrderEntry) : e.Writes e.display.toList := by
  have hname (h : e.descending = false) : e.Writes (e.property.toList ++ []) :=
    .name h isBlank_nil isBlank_nil
  have hdesc (h : e.descending = true) :
      e.Writes (e.property.toList ++ ([' '] ++ (descWord ++ []))) :=
    .descending h isBlank_nil isBlank_space (List.cons_ne_nil _ _) ⟨by simp, by simp⟩
  rw [display, String.toList_append]
  cases h : e.descending
  · exact hname h
  · exact hdesc h

/-- The usual way to write entries is a clause, if their names are words. -/
theorem isClause_toClause (h : ∀ e ∈ es, IsWord e.property.toList) :
    IsClause es (toClause es).toList := by
  rw [toClause, String.toList_intercalate]
  induction es with
  | nil => exact .blank isBlank_nil
  | cons e es ih =>
    obtain ⟨he, hes⟩ := List.forall_mem_cons.1 h
    have hfirst : IsClause [e] e.display.toList := .entry he e.writes_display
    cases es with
    | nil => simpa using hfirst
    | cons f es =>
      have hrest := (ih hes).append isBlank_space
      have hboth := hfirst.comma hrest
      simpa [List.intercalate_cons_cons] using hboth

/-- Reading a clause finds the entries that it is written for, however it is written. Whatever is
    read, each entry has a name without white space or commas, and reading the entries as they are
    usually written finds them again; they can be so written if all their names are such. The
    entries of two clauses with a comma between them are those of the first and then those of the
    second. -/
theorem ofClause_eq_iff :
    (∀ es clause, ofClause (some clause) = es ↔ IsClause es clause.toList) ∧
      (∀ clause, ∀ e ∈ ofClause clause, IsWord e.property.toList) ∧
      (∀ clause, ofClause (some (toClause (ofClause clause))) = ofClause clause) ∧
      (∀ es, IsClause es (toClause es).toList ↔ ∀ e ∈ es, IsWord e.property.toList) ∧
      ∀ a b, ofClause (some (a ++ "," ++ b)) = ofClause (some a) ++ ofClause (some b) := by
  have hword (clause) : ∀ e ∈ ofClause clause, IsWord e.property.toList := by
    cases clause with
    | none => simp [ofClause]
    | some clause => exact (isClause_iff.2 rfl).isWord
  refine ⟨fun es clause => isClause_iff.symm, hword,
    fun clause => (isClause_toClause (hword clause)).ofChars_eq,
    fun es => ⟨IsClause.isWord, isClause_toClause⟩, fun a b => ?_⟩
  have hcut : (a ++ "," ++ b).toList = a.toList ++ ',' :: b.toList := by
    simp
  rw [ofClause_some, hcut, ofChars_append, ofClause_some, ofClause_some]

example : ofClause (some " a ASC ,, DESC   DESC x") = [⟨"a", false⟩, ⟨"DESC", true⟩] := by decide

end OrderEntry

end RecordQuery
