import RecordQuery.Check
import RecordQuery.Proofs.Evaluation.KeptPatterns
import RecordQuery.Proofs.Evaluation.Safety
import RecordQuery.Proofs.Indexing
import RecordQuery.Proofs.RecordOrder

/-!
# Checks

What a check gives, said on the objects of the document. The condition comes first: if it does not
compile, or is only to be compiled, nothing else is looked at. Otherwise the objects are the
records, and the check fails on the first one on which the condition does, or else has those that
match as its output, sorted (`check_filters_and_sorts`). In between they are filtered and sorted by
their indices, which cannot be seen.

* `Params.SuppliedBy`: the parameters that a text supplies.
* `StoredRecord.ofObject`: the record that an object is read as.
* `CheckOptions.check_eq`: a check as a batch on these records.
-/

namespace RecordQuery

open Grammar

/-! ### Documents -/

/-- The parameters that a text supplies: none without a text, by position if it is an array, and by
    name if it is an object. -/
inductive Params.SuppliedBy : Option String → Params → Prop
  /-- No text. -/
  | nothing : SuppliedBy Option.none .none
  /-- An array. -/
  | array {text : String} {items : List Json} : Json.ofText? text = some (.array items) →
    SuppliedBy (some text) (.positional (Json.toValues items))
  /-- An object. -/
  | object {text : String} {members : Members Json} : Json.ofText? text = some (.object members) →
    SuppliedBy (some text) (.named (Json.toProperties members))

/-- The record of the object at an index. Its identifier is its `guid`, if it has one, or else the
    index, and its type is its `type`, if this is a string. -/
def StoredRecord.ofObject (index : Nat) (members : Members Json) : StoredRecord where
  id := match Members.find? members "guid" with
    | some guid => guid.toValue
    | none => .ofInt index
  type? := match Members.find? members "type" with
    | some (.string t) => some t
    | _ => none
  properties := Json.toProperties members

theorem StoredRecord.ofElement?_object (index : Nat) (members : Members Json) :
    ofElement? index (.object members) = some (ofObject index members) := rfl

/-- Objects are read one by one, each with its index. -/
theorem Json.readRecords_objects (read : List StoredRecord) (index : Nat)
    (objects : List (Members Json)) :
    readRecords read index (objects.map .object) =
      .ok (read.reverse ++ objects.mapIdx fun i => StoredRecord.ofObject (index + i)) := by
  induction objects generalizing read index with
  | nil => simp [readRecords]
  | cons members objects ih =>
    rw [List.map_cons, readRecords, StoredRecord.ofElement?_object]
    have hshift : (fun i => StoredRecord.ofObject (index + 1 + i)) =
        fun i => StoredRecord.ofObject (index + (i + 1)) := by
      funext i
      rw [Nat.add_assoc, Nat.add_comm 1]
    dsimp only
    rw [ih, hshift, List.mapIdx_cons, List.reverse_cons, List.append_assoc]
    rfl

namespace CheckOptions

variable {o : CheckOptions} {cs : Comparisons} {params : Params} {input : String}
  {objects : List (Members Json)}

theorem readParams_of_suppliedBy {text : Option String} (h : Params.SuppliedBy text params) :
    readParams text = .ok params := by
  cases h with
  | nothing => rfl
  | array htext | object htext =>
    rw [readParams, htext]
    rfl

theorem readInput_of_objects (h : Json.ofText? input = some (.array (objects.map .object))) :
    readInput (some input) = .ok (objects.mapIdx StoredRecord.ofObject) := by
  rw [readInput, h]
  simp only [Json.toRecords, Json.readRecords_objects, Nat.zero_add]
  rfl

end CheckOptions

/-! ### Conditions -/

/-- The conditions of the language do not look at the patterns kept. -/
theorem Compiled.ignoresPatterns_ofText (text : String) (clause : Option String) :
    (Compiled.ofText .standard text clause).IgnoresPatterns := by
  intro tree htree
  refine Node.ignoresPatterns_of_isBuiltIn fun m hm op hop => ?_
  by_cases hne : standard.tokenize text = []
  · obtain rfl := eq_alwaysTrue_of_ofText htree hne
    obtain rfl := List.mem_singleton.1 hm
    cases hop
    rfl
  · have hmem := Node.descriptor_mem_standard (isTreeOf_of_ofText htree hne) hm
    exact isBuiltIn_standard _ hmem op hop

/-! ### Checks -/

/-- The records of an array by index, filtered and sorted and then looked up. -/
theorem Query.filterAndSort_ofArray {q : Query} (hq : q.recordType = none) (env : Environment)
    (records : List StoredRecord) (params : Params) :
    (q.filterAndSort env none (.ofArray (records.toArray.map StoredRecord.view)) params).map
        (List.filterMap (records.toArray[·]?)) =
      (q.compiledIn env).filterAndSort env.comparisons (some ∘ StoredRecord.view) params
        records := by
  rw [← Compiled.filterAndSort_range, filterAndSort, hq]
  simp only [Source.findTyped?_none, Source.ofArray, List.map_toArray, List.size_toArray,
    List.length_map, List.getElem?_toArray, List.getElem?_map]

namespace CheckOptions

variable {o : CheckOptions} {cs : Comparisons} {params : Params} {input : String}
  {objects : List (Members Json)}

/-- A condition that compiles is run as a batch on the records of the document. -/
theorem check_eq (hready : o.query.buildError? { comparisons := cs } = none)
    (hrun : o.compileOnly = false) (hparams : Params.SuppliedBy o.params params)
    (hinput : o.input = some input)
    (hobjects : Json.ofText? input = some (.array (objects.map .object))) :
    o.check { comparisons := cs } =
      match (Compiled.ofText .standard o.conditions o.clause).filterAndSort cs
        (some ∘ StoredRecord.view) params (objects.mapIdx StoredRecord.ofObject) with
      | .error e => .error (.eval e)
      | .ok found => .ok (.output (.array (found.map StoredRecord.toJson))) := by
  have hbatch := o.query.filterAndSort_ofArray rfl { comparisons := cs }
    (objects.mapIdx StoredRecord.ofObject) params
  have hcompiled : o.query.compiledIn { comparisons := cs } =
    Compiled.ofText .standard o.conditions o.clause := rfl
  rw [hcompiled] at hbatch
  rw [← hbatch, check, hready, hrun, readParams_of_suppliedBy hparams, hinput,
    readInput_of_objects hobjects]
  simp only [bind, Except.bind]
  generalize o.query.filterAndSort _ _ _ _ = batch
  cases batch <;> rfl

/-- A check looks at the condition first. If it does not compile, the check fails for the reasons
    that it does not, and if it is only to be compiled, nothing else is done, whatever the
    parameters and the input are. Otherwise, with parameters and a document of objects, the check
    fails on the first object on which the condition does; and if it fails on none, the output are
    the objects that match, each as often as it occurs. Without an ordering clause they are in the
    order of the document. With one they have to be sortable by the clause and then by identifier,
    and if this order is a preorder on them, they are in the one order of a stable sort. -/
theorem check_filters_and_sorts (o : CheckOptions) (cs : Comparisons) :
    let c := Compiled.ofText .standard o.conditions o.clause
    let outcome := o.check { comparisons := cs }
    (∀ e, c.tree = .error e → outcome = .error (.build e)) ∧
    (∀ tree, c.tree = .ok tree → o.compileOnly = true → outcome = .ok .valid) ∧
    ∀ tree params input (objects : List (Members Json)), c.tree = .ok tree → o.compileOnly = false →
      Params.SuppliedBy o.params params → o.input = some input →
      Json.ofText? input = some (.array (objects.map .object)) →
      let records := objects.mapIdx StoredRecord.ofObject
      let kept := records.filter fun r => c.accepts params r.view
      (∀ before r after e, records = before ++ r :: after →
        (∀ r ∈ before, ∃ holds, c.holdsOn params r.view = .ok holds) →
        c.holdsOn params r.view = .error e → outcome = .error (.eval e)) ∧
      ((∀ r ∈ records, ∃ holds, c.holdsOn params r.view = .ok holds) →
        (c.entries = [] →
          outcome = .ok (.output (.array (kept.map StoredRecord.toJson)))) ∧
        (c.entries ≠ [] → IsSortable (c.order cs) (kept.map StoredRecord.view) →
          ∃ found : List StoredRecord,
            outcome = .ok (.output (.array (found.map StoredRecord.toJson))) ∧ found.Perm kept ∧
            (IsPreorderOn (c.order cs) (kept.map StoredRecord.view) →
              ∀ sorted, IsStableSort (fun r s => c.order cs r.view s.view) kept sorted ↔
                sorted = found))) := by
  intro c outcome
  have hcompiled : o.query.compiledIn { comparisons := cs } = c := rfl
  have hready {tree : Node} (htree : c.tree = .ok tree) :
      o.query.buildError? { comparisons := cs } = none := by
    rw [Query.buildError?, hcompiled, htree]
  refine ⟨fun e htree => ?_, fun tree htree honly => ?_, ?_⟩
  · have herror : o.query.buildError? { comparisons := cs } = some e := by
      rw [Query.buildError?, hcompiled, htree]
    simp only [outcome, check, herror]
  · simp only [outcome, check, hready htree, honly, if_true]
  intro tree params input objects htree hrun hparams hinput hobjects records kept
  have hcheck : outcome = _ := check_eq (hready htree) hrun hparams hinput hobjects
  rw [Compiled.filterAndSort_records (Compiled.ignoresPatterns_ofText _ _)] at hcheck
  refine ⟨fun before r after e hrecords hbefore he => ?_, fun hall => ?_⟩
  · have hfailure : records.findSome? (fun r => c.failure? params r.view) = some e :=
      List.findSome?_eq_some_iff.2 ⟨before, r, after, hrecords, Compiled.failure?_eq_some_iff.2 he,
        fun r hr => Compiled.failure?_eq_none_iff.2 (hbefore r hr)⟩
    simp only [records, c] at hfailure
    rw [hcheck, hfailure]
  · have hfailure : records.findSome? (fun r => c.failure? params r.view) = none :=
      List.findSome?_eq_none_iff.2 fun r hr => Compiled.failure?_eq_none_iff.2 (hall r hr)
    -- Nothing fails, so what matches is sorted.
    have houtcome : outcome = .ok (.output (.array
        ((c.sort (fun r s => c.order cs r.view s.view) kept).map StoredRecord.toJson))) := by
      simp only [records, c] at hfailure
      rw [hcheck, hfailure]
    refine ⟨fun hentries => ?_, fun hentries _ => ?_⟩
    · rw [houtcome, Compiled.sort_of_entries_eq_nil hentries]
    · refine ⟨_, houtcome, Compiled.sort_perm .., fun horder sorted => ?_⟩
      have hstable := Compiled.isStableSort_sort hentries horder.map
      exact ⟨fun h => h.unique horder.map hstable, fun h => h ▸ hstable⟩

/-- Of three objects two match, and are put in the order of the clause. -/
theorem check_filters_and_sorts_three :
    let input := "[\x7b\"n\":2\x7d,\x7b\"n\":0\x7d,\x7b\"guid\":7,\"n\":1\x7d]"
    let o : CheckOptions :=
      { conditions := "n >= %@", clause := some "n", input := some input, params := some "[1]" }
    let c := Compiled.ofText .standard o.conditions o.clause
    let params : Params := .positional [.integer 1]
    let objects : List (Members Json) :=
      [[("n", .integer 2)], [("n", .integer 0)], [("guid", .integer 7), ("n", .integer 1)]]
    let records := objects.mapIdx StoredRecord.ofObject
    let kept := records.filter fun r => c.accepts params r.view
    (∃ tree, c.tree = .ok tree) ∧ o.compileOnly = false ∧ Params.SuppliedBy o.params params ∧
      o.input = some input ∧ Json.ofText? input = some (.array (objects.map .object)) ∧
      (∀ r ∈ records, ∃ holds, c.holdsOn params r.view = .ok holds) ∧ c.entries ≠ [] ∧
      IsPreorderOn (c.order {}) (kept.map StoredRecord.view) ∧
      o.check {} = .ok (.output (.array
        [.object [("guid", .integer 7), ("n", .integer 1)], .object [("n", .integer 2)]])) := by
  intro input o c params objects records kept
  let token (id : String) (literal : Literal) : Token := ⟨described id, literal⟩
  let tokens : List Token := [token "record_property" (.text "n"),
    token "greater_equals" (.text ">="), token "wild_card" (.position 0)]
  let tree : Node := ⟨token "greater_equals" (.text ">="),
    some (.ofToken (token "record_property" (.text "n"))),
    some (.ofToken (token "wild_card" (.position 0)))⟩
  have htokens : standard.tokenize "n >= %@" = tokens :=
    (Lexer.ReadsTo.cons rfl (.cons rfl (.cons rfl .nil))).tokens_of_end rfl
  have hcondition : Condition tokens tree :=
    .chain (.clause (.comparison (.leaf ⟨rfl, rfl, rfl, rfl⟩) ⟨rfl, rfl, rfl, rfl⟩
      (.leaf ⟨rfl, rfl, rfl, rfl⟩)))
  have htree : c.tree = .ok tree := by
    rw [show c.tree = buildTree (standard.tokenize "n >= %@") from rfl, htokens]
    exact hcondition.buildTree_eq (by decide)
  have hinput : Json.ofText? "[\x7b\"n\":2\x7d,\x7b\"n\":0\x7d,\x7b\"guid\":7,\"n\":1\x7d]" =
      some (.array [.object [("n", .integer 2)], .object [("n", .integer 0)],
        .object [("guid", .integer 7), ("n", .integer 1)]]) := rfl
  have hlist : Json.ofText? "[1]" = some (.array [.integer 1]) := rfl
  have hholds (r : StoredRecord) : c.holdsOn params r.view =
      (Operator.ordered ">=" (·.isGE) (r.properties.get "n") (.integer 1)).map Value.isTruthy := by
    rw [Compiled.holdsOn, Compiled.test, htree]
    simp only [Node.holds, Node.evaluate, Node.fold_eq_recurse, Node.recurse_eq]
    rfl
  let first := StoredRecord.ofObject 0 [("n", .integer 2)]
  let last := StoredRecord.ofObject 2 [("guid", .integer 7), ("n", .integer 1)]
  have hrecords : records = [first, .ofObject 1 [("n", .integer 0)], last] := rfl
  have hall : ∀ r ∈ records, ∃ holds, c.holdsOn params r.view = .ok holds := by
    intro r hr
    simp only [hrecords, List.mem_cons, List.not_mem_nil, or_false] at hr
    rw [hholds]
    rcases hr with rfl | rfl | rfl <;> exact ⟨_, rfl⟩
  have hkept : kept = [first, last] := by
    simp only [kept, Compiled.accepts, hholds]
    rfl
  have hentries : c.entries = [⟨"n", false⟩] := by decide
  have hcompare : c.order {} = Comparisons.order {} [⟨"n", false⟩] := by
    funext r s
    rw [Compiled.order, htree, hentries]
  have horder : IsPreorderOn (c.order {}) (kept.map StoredRecord.view) := by
    rw [hcompare, hkept]
    refine Comparisons.isPreorder_order (List.forall_mem_singleton.2 ?_) ?_
    · refine Value.isPreorder_order_integers.mono ?_
      rintro _ ⟨r, hr, rfl⟩
      rcases List.mem_pair.1 hr with rfl | rfl <;> exact ⟨_, rfl⟩
    · refine Value.isPreorder_order_integers.mono ?_
      rintro _ ⟨r, hr, rfl⟩
      rcases List.mem_pair.1 hr with rfl | rfl <;> exact ⟨_, rfl⟩
  have hstable : IsStableSort (fun r s => c.order {} r.view s.view) kept [last, first] := by
    rw [hcompare, hkept]
    refine ⟨.swap _ _ _, List.pairwise_pair.2 (by decide), fun r hr => ?_⟩
    simp only [List.mem_cons, List.not_mem_nil, or_false] at hr
    rcases hr with rfl | rfl <;> rfl
  obtain ⟨-, -, hrun⟩ := check_filters_and_sorts o {}
  have hne : c.entries ≠ [] := by simp [hentries]
  obtain ⟨found, hfound, -, hunique⟩ :=
    ((hrun tree params input objects htree rfl (.array hlist) rfl hinput).2 hall).2 hne (.inr horder)
  obtain rfl := (hunique horder _).1 hstable
  exact ⟨⟨tree, htree⟩, rfl, .array hlist, rfl, hinput, hall, hne, horder, hfound⟩

end CheckOptions

end RecordQuery
