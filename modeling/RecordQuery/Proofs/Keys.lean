import RecordQuery.Proofs.Indexing
import RecordQuery.Proofs.Lexing.Concatenation

/-!
# Keys for a batch

A batch on the records of a type checks the type of each record when it is looked up, and does not
ask the collection for the keys of that type. It could: leaving keys out beforehand is the same as
not finding their records (`Compiled.select_filter`), since either way nothing is evaluated on them.
A list of records can be filtered and sorted without keys, or with its indices as keys; these are
then those of the records.

* `Query.filterAndSort_keysOfType`: the keys of a type, chosen by the batch or given to it.
* `Query.filterRecords_indices`: records, by themselves or by their indices.
-/

namespace RecordQuery

variable {α κ : Type} {c : Compiled} {cs : Comparisons} {params : Params}
  {patterns : Option PatternCache} {find? : α → Option Record}

/-! ### Leaving out keys -/

namespace Compiled

/-- Leaving out items is the same as not finding their records. -/
theorem select_filter (p : α → Bool) (selected : List (α × Record)) (items : List α) :
    c.select find? params patterns selected (items.filter p) =
      c.select (fun a => if p a then find? a else none) params patterns selected items := by
  induction items generalizing patterns selected with
  | nil => rfl
  | cons a items ih =>
    by_cases hp : p a = true
    · rw [List.filter_cons_of_pos hp, select, select, if_pos hp]
      cases find? a with
      | none => exact ih selected
      | some record =>
        dsimp only
        generalize c.test { record := record, params := params, patterns := patterns } = outcome
        obtain ⟨_ | _ | _, after⟩ := outcome
        · rfl
        · exact ih selected
        · exact ih ((a, record) :: selected)
    · rw [List.filter_cons_of_neg hp, select, if_neg hp]
      exact ih selected

/-- Leaving items out is finding no record for them. -/
theorem filterAndSort_filter (p : α → Bool) (items : List α) :
    c.filterAndSort cs find? params (items.filter p) =
      c.filterAndSort cs (fun a => if p a then find? a else none) params items := by
  rw [filterAndSort, filterAndSort, select_filter]

end Compiled

namespace Query

variable {q : Query} {t : String}

/-- A batch on the records of a type has the keys, or the error, that it has if it is given the keys
    of the records of that type. -/
theorem filterAndSort_keysOfType (h : q.recordType = some t) (env : Environment)
    (source : Source κ) (params : Params) :
    q.filterAndSort env none source params =
      q.filterAndSort env (some (source.keysOfType t)) source params := by
  rw [filterAndSort, filterAndSort, h]
  simp only [Source.findTyped?_none, Source.findTyped?_some, Source.keysOfType,
    Compiled.filterAndSort_filter]

/-- Of four records two have the type. The condition fails on one of the others, and is not evaluated
    on it. -/
theorem filterAndSort_keysOfType_two_of_four :
    let q : Query := { conditions := "n < 2", recordType := some "A" }
    let record (n : Value) (type? : Option String) : Record :=
      { get := fun _ => n, id := .null, type? := type? }
    let source := Source.ofArray #[record (.integer 1) (some "A"), record (.string "x") (some "B"),
      record (.integer 0) none, record (.integer 0) (some "A")]
    q.recordType = some "A" ∧ source.keysOfType "A" = [0, 3] ∧
      (∃ e, (q.compiledIn {}).holdsOn .none (record (.string "x") (some "B")) = .error e) ∧
      q.filterAndSort {} none source .none = .ok [0, 3] := by
  intro q record source
  let c := q.compiledIn {}
  let token (id : String) (literal : Literal) : Token := ⟨Grammar.described id, literal⟩
  let tree : Node := ⟨token "lesser" (.text "<"),
    some (.ofToken (token "record_property" (.text "n"))),
    some (.ofToken (token "number" (.integer 2)))⟩
  have htokens : Grammar.standard.tokenize "n < 2" = [token "record_property" (.text "n"),
      token "lesser" (.text "<"), token "number" (.integer 2)] :=
    (Lexer.ReadsTo.cons rfl (.cons rfl (.cons rfl .nil))).tokens_of_end rfl
  have hcondition : Condition [token "record_property" (.text "n"), token "lesser" (.text "<"),
      token "number" (.integer 2)] tree :=
    .chain (.clause (.comparison (.leaf ⟨rfl, rfl, rfl, rfl⟩) ⟨rfl, rfl, rfl, rfl⟩
      (.leaf ⟨rfl, rfl, rfl, rfl⟩)))
  have htree : c.tree = .ok tree := by
    rw [show c.tree = buildTree (Grammar.standard.tokenize "n < 2") from rfl, htokens]
    exact hcondition.buildTree_eq (by decide)
  have htest (n : Value) (type? : Option String) (patterns : Option PatternCache) :
      c.test { record := record n type?, patterns := patterns } =
        ((Operator.ordered "<" (·.isLT) n (.integer 2)).map Value.isTruthy, patterns) := by
    rw [Compiled.test, htree]
    simp only [Node.holds, Node.evaluate, Node.fold_eq_recurse, Node.recurse_eq]
    rfl
  have hkeys : source.keysOfType "A" = [0, 3] := by decide
  have hrun : q.filterAndSort {} (some [0, 3]) source .none =
      c.filterAndSort {} (source.findTyped? none) .none [0, 3] := rfl
  have hsource : source.findTyped? none 0 = some (record (.integer 1) (some "A")) ∧
      source.findTyped? none 3 = some (record (.integer 0) (some "A")) := ⟨rfl, rfl⟩
  refine ⟨rfl, hkeys, ?_, ?_⟩
  · have hholds := congrArg Prod.fst (htest (.string "x") (some "B") none)
    exact ⟨_, hholds⟩
  · rw [@filterAndSort_keysOfType _ q "A" rfl, hkeys, hrun, Compiled.filterAndSort]
    simp only [Compiled.select, hsource, htest]
    rfl

/-- Filtering and sorting records, with or without a clause and whatever their types are, has the
    error that filtering and sorting their indices has; and without an error the records found are
    those at the indices found, in their order. -/
theorem filterRecords_indices (q : Query) (env : Environment) (view : α → Record)
    (records : List α) (params : Params) :
    let source := Source.ofArray (records.map view).toArray
    let batch := q.filterAndSort env (some (List.range records.length)) source params
    (∀ e, q.filterRecords env view records params = .error e ↔ batch = .error e) ∧
      ∀ found, q.filterRecords env view records params = .ok found ↔
        ∃ indices, batch = .ok indices ∧ indices.map (records[·]?) = found.map some := by
  intro source batch
  obtain ⟨found?, hindices, hrecords⟩ :=
    @Compiled.filterAndSort_zipIdx _ (q.compiledIn env) env.comparisons params view records
  have hbatch : batch = found?.map (List.map (·.1.2)) := by
    rw [← hindices]
    simp only [batch, source, filterAndSort, Source.findTyped?_none, Source.ofArray,
      List.getElem?_toArray, List.getElem?_map]
  have hget (items : List {p // p ∈ records.zipIdx}) :
      (items.map (·.1.2)).map (records[·]?) = (items.map (·.1.1)).map some := by
    rw [List.map_map, List.map_map]
    exact List.map_congr_left fun p _ => List.mk_mem_zipIdx_iff_getElem?.1 p.2
  rw [filterRecords, hrecords, hbatch]
  cases found? with
  | error e => simp [Except.map]
  | ok items =>
    simp only [Except.map, reduceCtorEq, Except.ok.injEq, exists_eq_left', hget, true_and,
      implies_true]
    intro found
    exact (List.map_inj_right fun _ _ => Option.some.inj).symm

end Query

end RecordQuery
