import RecordQuery.Batch
import RecordQuery.Proofs.Evaluation.Patterns
import RecordQuery.Proofs.Sorting

/-!
# Batches

What a batch gives, said without the loop: the candidates that have a record, the first of them on
which the condition fails, and else those that match, sorted. That patterns are kept from one record
to the next cannot be seen, unless an operator that a caller added looks at them.

* `Query.candidates`: the items that the condition is tested on, with their records.
* `Compiled.holdsOn`, `Compiled.accepts`, `Compiled.failure?`: what a condition says of one record,
  without any cache.
* `Compiled.select_eq`: the loop.
* `Query.filterAndSort_first_error_or_stable_sort`: the batch.
-/

namespace RecordQuery

variable {α κ : Type}

/-! ### Candidates -/

/-- The items that have a record, with their records. -/
def withRecords (find? : α → Option Record) (items : List α) : List (α × Record) :=
  items.filterMap fun a => (find? a).map (a, ·)

theorem withRecords_cons (find? : α → Option Record) (a : α) (items : List α) :
    withRecords find? (a :: items) =
      ((find? a).map (a, ·)).toList ++ withRecords find? items := by
  rw [withRecords, List.filterMap_cons]
  cases find? a <;> rfl

/-- What is tested: the given keys, as far as they have records, or else the keys of the source, and
    of these only those whose records have the type of the query, if it has one. -/
def Query.candidates (q : Query) (keys? : Option (List κ)) (source : Source κ) :
    List (κ × Record) :=
  match keys? with
  | some keys => withRecords source.find? keys
  | none => (withRecords source.find? source.keys).filter fun item =>
      q.recordType.all fun t => item.2.type? == some t

/-- Looking records up without a type is looking them up. -/
theorem Source.findTyped?_none (s : Source κ) : s.findTyped? none = s.find? := by
  funext key
  rw [findTyped?]
  cases s.find? key <;> rfl

/-- A record is found under a key and a type if it has the type. -/
theorem Source.findTyped?_some (s : Source κ) (t : String) :
    s.findTyped? (some t) = fun key => if s.hasType t key then s.find? key else none := by
  funext key
  rw [findTyped?, hasType]
  cases s.find? key <;> rfl

/-- Checking the type of each record when it is looked up is checking it afterwards. -/
theorem withRecords_findTyped? (source : Source κ) (wanted : Option String) (keys : List κ) :
    withRecords (source.findTyped? wanted) keys =
      (withRecords source.find? keys).filter fun item =>
        wanted.all fun t => item.2.type? == some t := by
  induction keys with
  | nil => rfl
  | cons key keys ih =>
    rw [withRecords_cons, withRecords_cons, ih, List.filter_append, Source.findTyped?]
    cases source.find? key with
    | none => rfl
    | some record =>
      by_cases htype : (wanted.all fun t => record.type? == some t) = true <;> simp [htype]

/-! ### One record -/

namespace Compiled

variable (c : Compiled) (params : Params) (record : Record)

/-- Whether a record matches, when no patterns are kept. -/
def holdsOn : Except EvalError Bool := (c.test { record := record, params := params }).1

/-- Whether a record matches. One on which the condition fails does not. -/
def accepts : Bool :=
  match c.holdsOn params record with
  | .ok holds => holds
  | .error _ => false

/-- Why the condition fails on a record. -/
def failure? : Option EvalError :=
  match c.holdsOn params record with
  | .ok _ => none
  | .error e => some e

/-- Why the condition fails on the first candidate on which it does. -/
def firstFailure? (candidates : List (α × Record)) : Option EvalError :=
  candidates.findSome? fun item => c.failure? params item.2

/-- The candidates that match. -/
def kept (candidates : List (α × Record)) : List (α × Record) :=
  candidates.filter fun item => c.accepts params item.2

/-- The order of items by their records. -/
def orderItems (cs : Comparisons) (a b : α × Record) : Ordering := c.order cs a.2 b.2

variable {c params record}

theorem failure?_eq_some_iff {e : EvalError} :
    c.failure? params record = some e ↔ c.holdsOn params record = .error e := by
  rw [failure?]
  cases c.holdsOn params record <;> simp

theorem failure?_eq_none_iff :
    c.failure? params record = none ↔ ∃ holds, c.holdsOn params record = .ok holds := by
  rw [failure?]
  cases c.holdsOn params record <;> simp

/-- Patterns that were kept before do not affect whether a record matches. -/
theorem test_of_areSound (hc : c.IgnoresPatterns) {patterns : Option PatternCache}
    (h : AreSound patterns) (params : Params) (record : Record) :
    ∃ after, AreSound after ∧ c.test { record := record, params := params, patterns := patterns } =
      (c.holdsOn params record, after) := by
  obtain ⟨hsame, hafter, -⟩ :=
    test_agree hc ⟨h, areSound_none⟩ { record := record, params := params }
  exact ⟨_, hafter, Prod.ext hsame rfl⟩

/-! ### The loop -/

/-- The first candidate on which the condition fails ends the loop. If there is none, those that
    match are added to those selected before. -/
theorem select_eq (hc : c.IgnoresPatterns) (find? : α → Option Record) (items : List α)
    {patterns : Option PatternCache} (h : AreSound patterns) (selected : List (α × Record)) :
    c.select find? params patterns selected items =
      match c.firstFailure? params (withRecords find? items) with
      | some e => .error e
      | none => .ok (selected.reverse ++ c.kept params (withRecords find? items)) := by
  -- The cache changes from one record to the next. All that is known of it is that it stays sound.
  induction items generalizing patterns selected with
  | nil => simp [select, withRecords, firstFailure?, kept]
  | cons a items ih =>
    rw [select, withRecords_cons]
    cases find? a with
    | none => exact ih h selected
    | some record =>
      obtain ⟨after, hafter, htest⟩ := test_of_areSound hc h params record
      simp only [htest, Option.map_some, Option.toList_some, List.singleton_append, firstFailure?,
        kept, List.findSome?_cons, List.filter_cons, failure?, accepts]
      cases hholds : c.holdsOn params record with
      | error e => rfl
      | ok holds =>
        cases holds with
        | false => exact ih hafter selected
        | true =>
          refine (ih hafter ((a, record) :: selected)).trans ?_
          simp [firstFailure?, kept, failure?, accepts]

/-- The first failure is that of a candidate before which there was none. -/
theorem firstFailure?_eq_some {before after : List (α × Record)} {item : α × Record} {e : EvalError}
    (hbefore : ∀ item ∈ before, ∃ holds, c.holdsOn params item.2 = .ok holds)
    (he : c.holdsOn params item.2 = .error e) :
    c.firstFailure? params (before ++ item :: after) = some e :=
  List.findSome?_eq_some_iff.2 ⟨before, item, after, rfl, failure?_eq_some_iff.2 he,
    fun item hitem => failure?_eq_none_iff.2 (hbefore item hitem)⟩

theorem firstFailure?_eq_none {candidates : List (α × Record)}
    (h : ∀ item ∈ candidates, ∃ holds, c.holdsOn params item.2 = .ok holds) :
    c.firstFailure? params candidates = none :=
  List.findSome?_eq_none_iff.2 fun item hitem => failure?_eq_none_iff.2 (h item hitem)

/-! ### Sorting -/

theorem sort_perm (c : Compiled) (order : α → α → Ordering) (items : List α) :
    (c.sort order items).Perm items := by
  rw [sort]
  split
  · exact .refl _
  · exact stableSort_perm order items

theorem sort_of_entries_eq_nil (hentries : c.entries = []) (order : α → α → Ordering)
    (items : List α) : c.sort order items = items := by
  rw [sort, hentries]
  rfl

/-- With entries items are sorted stably, if the order is a preorder on them. -/
theorem isStableSort_sort (hentries : c.entries ≠ []) {order : α → α → Ordering} {items : List α}
    (horder : IsPreorderOn order items) : IsStableSort order items (c.sort order items) := by
  rw [sort, if_neg (by simpa using hentries)]
  exact isStableSort_stableSort horder

/-- A batch is a filter and a sort, unless the condition fails on a candidate. -/
theorem filterAndSort_eq (hc : c.IgnoresPatterns) (cs : Comparisons) (find? : α → Option Record)
    (params : Params) (items : List α) :
    c.filterAndSort cs find? params items =
      match c.firstFailure? params (withRecords find? items) with
      | some e => .error e
      | none => .ok ((c.sort (c.orderItems cs)
          (c.kept params (withRecords find? items))).map (·.1)) := by
  rw [filterAndSort, select_eq hc find? items areSound_empty]
  cases c.firstFailure? params (withRecords find? items) <;> rfl

end Compiled

/-! ### Batches -/

namespace Query

/-- The same for a query: that types are checked while keys are looked up makes no difference. -/
theorem filterAndSort_eq {q : Query} {env : Environment} (hq : (q.compiledIn env).IgnoresPatterns)
    (keys? : Option (List κ)) (source : Source κ) (params : Params) :
    q.filterAndSort env keys? source params =
      match (q.compiledIn env).firstFailure? params (q.candidates keys? source) with
      | some e => .error e
      | none => .ok (((q.compiledIn env).sort ((q.compiledIn env).orderItems env.comparisons)
          ((q.compiledIn env).kept params (q.candidates keys? source))).map (·.1)) := by
  cases keys? with
  | some keys =>
    have hcandidates : withRecords (source.findTyped? none) keys =
        q.candidates (some keys) source := by
      rw [withRecords_findTyped?]
      exact List.filter_eq_self.2 fun _ _ => rfl
    rw [← hcandidates]
    exact Compiled.filterAndSort_eq hq _ _ params keys
  | none =>
    rw [candidates, ← withRecords_findTyped?]
    exact Compiled.filterAndSort_eq hq _ _ params source.keys

/-- What a batch gives. If the condition fails on a candidate, the result is the error of the first
    one on which it does. Otherwise the result are the keys of the candidates that match, each as
    often as it was given: without an ordering clause in the order of the candidates, and else as
    the stable sort of them, which is unique if the order is a preorder on their records. -/
theorem filterAndSort_first_error_or_stable_sort {q : Query} {env : Environment}
    (hq : (q.compiledIn env).IgnoresPatterns) (keys? : Option (List κ)) (source : Source κ)
    (params : Params) :
    let c := q.compiledIn env
    let candidates := q.candidates keys? source
    let kept := candidates.filter fun item => c.accepts params item.2
    (∀ before item after e, candidates = before ++ item :: after →
      (∀ item ∈ before, ∃ holds, c.holdsOn params item.2 = .ok holds) →
      c.holdsOn params item.2 = .error e →
      q.filterAndSort env keys? source params = .error e) ∧
    ((∀ item ∈ candidates, ∃ holds, c.holdsOn params item.2 = .ok holds) →
      ∃ result, q.filterAndSort env keys? source params = .ok (result.map (·.1)) ∧
        result.Perm kept ∧ (c.entries = [] → result = kept) ∧
        (c.entries ≠ [] → IsPreorderOn (c.order env.comparisons) (kept.map (·.2)) →
          ∀ sorted, IsStableSort (fun a b => c.order env.comparisons a.2 b.2) kept sorted ↔
            sorted = result)) := by
  intro c candidates kept
  rw [filterAndSort_eq hq]
  constructor
  · intro before item after e hcandidates hbefore he
    have hfailure : c.firstFailure? params candidates = some e := by
      rw [hcandidates]
      exact Compiled.firstFailure?_eq_some hbefore he
    simp only [c, candidates] at hfailure
    rw [hfailure]
  · intro hall
    have hfailure : c.firstFailure? params candidates = none := Compiled.firstFailure?_eq_none hall
    simp only [c, candidates] at hfailure
    rw [hfailure]
    refine ⟨_, rfl, Compiled.sort_perm .., fun hentries => ?_, fun hentries horder sorted => ?_⟩
    · exact Compiled.sort_of_entries_eq_nil hentries _ _
    · have hstable := Compiled.isStableSort_sort hentries horder.map
      exact ⟨fun h => h.unique horder.map hstable, fun h => h ▸ hstable⟩

/-- The query `n` with the clause `n` keeps two of three records, which are given in descending
    order. -/
theorem filterAndSort_two_of_three :
    let n : Token :=
      ⟨{ kind := .property, result := some .primitive, operator := some .property }, .text "n"⟩
    let c : Compiled := ⟨.ok (.ofToken n), [⟨"n", false⟩]⟩
    let q : Query := { conditions := "n", clause := some "n", compiled := some c }
    let record (value : Int64) : Record :=
      { get := fun _ => .integer value, id := .integer value, type? := none }
    let source := Source.ofArray #[record 2, record 1, record 0]
    let kept := [(0, record 2), (1, record 1)]
    c.IgnoresPatterns ∧
      (∀ item ∈ q.candidates none source, ∃ holds, c.holdsOn .none item.2 = .ok holds) ∧
      c.entries ≠ [] ∧ IsPreorderOn (c.order {}) (kept.map (·.2)) ∧
      q.filterAndSort {} none source .none = .ok [1, 0] := by
  intro n c q record source kept
  have hignores : c.IgnoresPatterns := by
    rintro _ ⟨⟩ m hm op hop
    rw [Node.inorder_ofToken, List.mem_singleton] at hm
    subst hm
    cases hop
    trivial
  have hholds (record : Record) : c.holdsOn .none record = .ok (record.get "n").isTruthy := by
    rw [Compiled.holdsOn]
    simp only [Compiled.test, c, Node.holds, Node.evaluate, Node.fold_eq_recurse, Node.recurse_eq]
    rfl
  have hall : ∀ item ∈ q.candidates none source, ∃ holds, c.holdsOn .none item.2 = .ok holds :=
    fun item _ => ⟨_, hholds item.2⟩
  have hkept : (q.candidates none source).filter (fun item => c.accepts .none item.2) = kept := by
    simp only [Compiled.accepts, hholds]
    rfl
  have horder : IsPreorderOn (c.order {}) (kept.map (·.2)) := by
    have hmem {r : Record} (hr : r ∈ kept.map (·.2)) : r = record 2 ∨ r = record 1 := by
      simpa [kept] using hr
    refine ⟨fun ha hb => ?_, fun ha hb hc => ?_⟩
    · rcases hmem ha with rfl | rfl <;> rcases hmem hb with rfl | rfl <;> decide
    · rcases hmem ha with rfl | rfl <;> rcases hmem hb with rfl | rfl <;>
        rcases hmem hc with rfl | rfl <;> decide
  have hstable : IsStableSort (fun a b => c.order {} a.2 b.2) kept
      [(1, record 1), (0, record 2)] := by
    refine ⟨.swap _ _ _, List.pairwise_pair.2 (by decide), fun item hitem => ?_⟩
    simp only [kept, List.mem_cons, List.not_mem_nil, or_false] at hitem
    rcases hitem with rfl | rfl <;> rfl
  obtain ⟨result, hresult, -, -, hunique⟩ :=
    (@filterAndSort_first_error_or_stable_sort _ q {} hignores none source .none).2 hall
  have hsorted := hunique (List.cons_ne_nil _ _)
  rw [show q.compiledIn {} = c from rfl, hkept] at hsorted
  obtain rfl := (hsorted horder _).1 hstable
  exact ⟨hignores, hall, List.cons_ne_nil _ _, horder, hresult⟩

end Query

end RecordQuery
