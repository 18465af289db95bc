import RecordQuery.Proofs.Batch

/-!
# Records without keys, and by index

A batch looks at its items only through their records, so it does the same to items and to what they
are images of (`Compiled.filterAndSort_map`), whatever the condition and the order are. Records can
therefore be filtered and sorted by their indices, and the indices be replaced by records
afterwards: no index is out of range, and none is mistaken for another one
(`Compiled.filterAndSort_range`).

* `Compiled.filterAndSort_records`: the batch on a list of things that are records themselves.
-/

namespace RecordQuery.Compiled

variable {α β : Type} {c : Compiled} {cs : Comparisons} {params : Params}
  {patterns : Option PatternCache} {find? : α → Option Record}

/-! ### Images -/

/-- Sorting images is sorting what they are images of. -/
theorem sort_map (f : β → α) {order : α → α → Ordering} (items : List β) :
    c.sort order (items.map f) = (c.sort (fun a b => order (f a) (f b)) items).map f := by
  rw [sort, sort]
  split
  · rfl
  · exact stableSort_map f items

/-- Selecting images is selecting what they are images of. -/
theorem select_map (f : β → α) (selected : List (β × Record)) (items : List β) :
    c.select find? params patterns (selected.map (Prod.map f id)) (items.map f) =
      (c.select (find? ∘ f) params patterns selected items).map (List.map (Prod.map f id)) := by
  induction items generalizing patterns selected with
  | nil => simp [select, Except.map]
  | cons b items ih =>
    rw [List.map_cons, select, select, Function.comp_apply]
    cases find? (f b) with
    | none => exact ih selected
    | some record =>
      dsimp only
      generalize c.test { record := record, params := params, patterns := patterns } = outcome
      obtain ⟨_ | holds, after⟩ := outcome
      · rfl
      · cases holds with
        | true => exact ih ((b, record) :: selected)
        | false => exact ih selected

/-- What is done to images of items is done to the items. -/
theorem filterAndSort_map (f : β → α) (items : List β) :
    c.filterAndSort cs find? params (items.map f) =
      (c.filterAndSort cs (find? ∘ f) params items).map (List.map f) := by
  have hselect := @select_map _ _ c params (some {}) find? f [] items
  rw [List.map_nil] at hselect
  rw [filterAndSort, filterAndSort, hselect]
  cases c.select (find? ∘ f) params (some {}) [] items with
  | error e => rfl
  | ok selected =>
    simp only [Except.map, sort_map, List.map_map]
    rfl

/-! ### Lists of records -/

/-- Things that are records themselves are filtered and sorted without any keys. -/
theorem filterAndSort_records (hc : c.IgnoresPatterns) (cs : Comparisons) (view : α → Record)
    (params : Params) (records : List α) :
    c.filterAndSort cs (some ∘ view) params records =
      match records.findSome? fun r => c.failure? params (view r) with
      | some e => .error e
      | none => .ok (c.sort (fun a b => c.order cs (view a) (view b))
          (records.filter fun r => c.accepts params (view r))) := by
  have hrecords : withRecords (some ∘ view) records = records.map fun r => (r, view r) :=
    congrFun List.filterMap_eq_map records
  rw [filterAndSort_eq hc, hrecords, firstFailure?, kept, List.findSome?_map, List.filter_map,
    sort_map, List.map_map]
  simp only [Function.comp_def, List.map_id_fun']
  rfl

/-- Filtering and sorting the indices of records and doing so to the records are the same batch, on the
    records with their indices. -/
theorem filterAndSort_zipIdx (view : α → Record) (records : List α) :
    ∃ batch : Except EvalError (List {p // p ∈ records.zipIdx}),
      c.filterAndSort cs (fun i => records[i]?.map view) params (List.range records.length) =
        batch.map (List.map (·.1.2)) ∧
      c.filterAndSort cs (some ∘ view) params records = batch.map (List.map (·.1.1)) := by
  -- Both are images of the records with their indices, as a type of their own.
  let item (p : {p // p ∈ records.zipIdx}) : α := p.1.1
  let index (p : {p // p ∈ records.zipIdx}) : Nat := p.1.2
  have hget (p) : records[index p]? = some (item p) := List.mk_mem_zipIdx_iff_getElem?.1 p.2
  have hitems : records.zipIdx.attach.map item = records :=
    (List.attach_map_val ..).trans (List.zipIdx_map_fst 0 records)
  have hindices : records.zipIdx.attach.map index = List.range records.length := by
    rw [List.range_eq_range', ← List.zipIdx_map_snd 0 records]
    exact List.attach_map_val ..
  have hfind : (fun i => records[i]?.map view) ∘ index = (some ∘ view) ∘ item :=
    funext fun p => by simp [hget]
  refine ⟨c.filterAndSort cs ((some ∘ view) ∘ item) params records.zipIdx.attach, ?_, ?_⟩
  · rw [← hindices, filterAndSort_map, hfind]
  · exact (congrArg _ hitems.symm).trans (filterAndSort_map item _)

/-- Filtering and sorting the indices of records, and then taking the records at the indices that
    are found, is filtering and sorting the records. -/
theorem filterAndSort_range (view : α → Record) (records : List α) :
    (c.filterAndSort cs (fun i => records[i]?.map view) params (List.range records.length)).map
        (List.filterMap (records[·]?)) =
      c.filterAndSort cs (some ∘ view) params records := by
  obtain ⟨batch, hindices, hitems⟩ := @filterAndSort_zipIdx _ c cs params view records
  rw [hindices, hitems]
  cases batch with
  | error e => rfl
  | ok found =>
    have hget : ((records[·]?) ∘ fun p : {p // p ∈ records.zipIdx} => p.1.2) =
        some ∘ fun p => p.1.1 :=
      funext fun p => List.mk_mem_zipIdx_iff_getElem?.1 p.2
    rw [Except.map, Except.map, Except.map, List.filterMap_map, hget, List.filterMap_eq_map]

end RecordQuery.Compiled
