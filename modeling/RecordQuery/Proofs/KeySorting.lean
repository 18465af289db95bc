import Mathlib.Data.List.Perm.Basic
import Mathlib.Data.Set.List
import RecordQuery.Proofs.Batch

/-!
# Sorting keys

Keys are sorted by their records, and those without a record come last. Nothing has to be assumed of
the order of the records for that: missing ones are told from others by the order of the keys
itself, and neither way of sorting can mix them up (`PutsLast.exists_stableSort_eq`). The keys that
have records are sorted as the order of the records has it, which is the only stable sort of them if
that order is a preorder.

* `PutsLast`: an order in which some items come after all others, and are equal.
* `PutsLast.insertionSort_eq`, `PutsLast.exists_mergeSort_eq`: the two ways to sort.
* `Query.sortKeys_found_first`: the keys.
-/

namespace RecordQuery

variable {α β κ : Type} {order : α → α → Ordering} {last : α → Bool} {items : List α} {a b c : α}

/-! ### Items that come last -/

/-- An order in which the items with a property come after all others, and are equal. -/
structure PutsLast (order : α → α → Ordering) (last : α → Bool) : Prop where
  lt : ∀ {a b}, last a = false → last b = true → order a b = .lt
  gt : ∀ {a b}, last a = true → last b = false → order a b = .gt
  eq : ∀ {a b}, last a = true → last b = true → order a b = .eq

namespace PutsLast

variable (h : PutsLast order last)
include h

theorem ne_lt (ha : last a = true) (b : α) : order a b ≠ .lt := by
  cases hb : last b with
  | true => simp [h.eq ha hb]
  | false => simp [h.gt ha hb]

theorem isLE_of_last (a : α) (hb : last b = true) : (order a b).isLE = true := by
  cases ha : last a with
  | true => simp [h.eq ha hb]
  | false => simp [h.lt ha hb]

/-! ### Sorting by insertion -/

/-- An item that comes last is put before all that are inserted already, in decreasing order. -/
theorem insertDescending_of_last (ha : last a = true) (l : List α) :
    insertDescending order a l = a :: l := by
  cases l with
  | nil => rfl
  | cons b l => rw [insertDescending, if_neg (by simpa using h.ne_lt ha b)]

/-- Any other item is put after those that come last. -/
theorem insertDescending_append (ha : last a = false) {l : List α} (hl : ∀ b ∈ l, last b = true)
    (rest : List α) :
    insertDescending order a (l ++ rest) = l ++ insertDescending order a rest := by
  induction l with
  | nil => rfl
  | cons b l ih =>
    obtain ⟨hb, hl⟩ := List.forall_mem_cons.1 hl
    rw [List.cons_append, insertDescending, if_pos (by simp [h.lt ha hb]), ih hl, List.cons_append]

/-- Inserting items one by one puts those that come last in front, in decreasing order, and inserts
    the others behind them. -/
theorem foldl_insertDescending (items : List α) {l : List α} (hl : ∀ b ∈ l, last b = true)
    (rest : List α) :
    items.foldl (fun sorted a => insertDescending order a sorted) (l ++ rest) =
      (items.filter last).reverse ++ l ++
        (items.filter (!last ·)).foldl (fun sorted a => insertDescending order a sorted) rest := by
  induction items generalizing l rest with
  | nil => rfl
  | cons a items ih =>
    rw [List.foldl_cons]
    cases ha : last a with
    | true =>
      rw [h.insertDescending_of_last ha, ← List.cons_append,
        ih (List.forall_mem_cons.2 ⟨ha, hl⟩) rest]
      simp [ha]
    | false =>
      rw [h.insertDescending_append ha hl, ih hl]
      simp [ha]

/-- Sorting by insertion is sorting the other items by insertion. -/
theorem insertionSort_eq (items : List α) :
    insertionSort order items =
      insertionSort order (items.filter (!last ·)) ++ items.filter last := by
  have hfold := h.foldl_insertDescending items (l := []) (by simp) []
  rw [insertionSort, insertionSort, ← List.nil_append [], hfold]
  simp

/-! ### Sorting by merging -/

/-- Merging keeps the items that come last at the end, and in their order. -/
theorem exists_merge_eq {f g l m : List α} (hf : ∀ a ∈ f, last a = false)
    (hg : ∀ a ∈ g, last a = false) (hl : ∀ a ∈ l, last a = true) (hm : ∀ a ∈ m, last a = true) :
    ∃ first, (f ++ l).merge (g ++ m) (fun a b => (order a b).isLE) = first ++ (l ++ m) ∧
      ∀ a ∈ first, last a = false := by
  -- One item is taken at a time, from the front of either list.
  induction f generalizing g with
  | nil =>
    induction g with
    | nil =>
      refine ⟨[], ?_, by simp⟩
      exact List.merge_of_le fun a b _ hb => h.isLE_of_last a (hm b hb)
    | cons y g ih =>
      obtain ⟨hy, hg'⟩ := List.forall_mem_cons.1 hg
      cases l with
      | nil => exact ⟨y :: g, List.nil_merge _, hg⟩
      | cons x l =>
        obtain ⟨first, hmerge, hfirst⟩ := ih hg'
        refine ⟨y :: first, ?_, List.forall_mem_cons.2 ⟨hy, hfirst⟩⟩
        rw [List.nil_append, List.cons_append, List.cons_merge_cons,
          if_neg (by simp [h.gt (hl x List.mem_cons_self) hy])]
        exact congrArg (y :: ·) hmerge
  | cons x f ihf =>
    obtain ⟨hx, hf'⟩ := List.forall_mem_cons.1 hf
    have hcons (g : List α) (hg : ∀ a ∈ g, last a = false) :
        ∃ first, x :: (f ++ l).merge (g ++ m) (fun a b => (order a b).isLE) =
          first ++ (l ++ m) ∧ ∀ a ∈ first, last a = false := by
      obtain ⟨first, hmerge, hfirst⟩ := ihf hf' hg
      exact ⟨x :: first, congrArg (x :: ·) hmerge, List.forall_mem_cons.2 ⟨hx, hfirst⟩⟩
    induction g with
    | nil =>
      cases m with
      | nil => exact ⟨x :: f, by simp, hf⟩
      | cons y m =>
        have hle : (order x y).isLE = true := h.isLE_of_last x (hm y List.mem_cons_self)
        rw [List.cons_append, List.nil_append, List.cons_merge_cons, if_pos hle]
        exact hcons [] (by simp)
    | cons y g ihg =>
      obtain ⟨hy, hg'⟩ := List.forall_mem_cons.1 hg
      rw [List.cons_append, List.cons_append, List.cons_merge_cons]
      split
      · exact hcons (y :: g) hg
      · obtain ⟨first, hmerge, hfirst⟩ := ihg hg'
        exact ⟨y :: first, congrArg (y :: ·) hmerge, List.forall_mem_cons.2 ⟨hy, hfirst⟩⟩

/-- Sorting by merging keeps the items that come last at the end, and in their order. -/
theorem exists_mergeSort_eq (items : List α) :
    ∃ first, items.mergeSort (fun a b => (order a b).isLE) = first ++ items.filter last ∧
      ∀ a ∈ first, last a = false := by
  match hitems : items with
  | [] => exact ⟨[], by simp⟩
  | [a] =>
    cases ha : last a with
    | true => exact ⟨[], by simp [ha]⟩
    | false => exact ⟨[a], by simp [ha]⟩
  | a :: b :: rest =>
    -- Both halves have the items that come last at their end, and merging puts them together there.
    let half := (items.length + 1) / 2
    obtain ⟨f, hfront, hf⟩ := exists_mergeSort_eq (items.take half)
    obtain ⟨g, hback, hg⟩ := exists_mergeSort_eq (items.drop half)
    have hmerge := h.exists_merge_eq hf hg (l := (items.take half).filter last)
      (m := (items.drop half).filter last) (by simp) (by simp)
    rw [← hfront, ← hback, ← List.filter_append, List.take_append_drop] at hmerge
    subst hitems
    rw [List.mergeSort]
    simpa only [List.MergeSort.Internal.splitInTwo_fst,
      List.MergeSort.Internal.splitInTwo_snd] using hmerge
termination_by items.length
decreasing_by
  all_goals simp [hitems]; omega

/-! ### Sorting -/

/-- Whatever the order of the other items is, sorting puts those that come last at the end and keeps
    them as they stood. -/
theorem exists_stableSort_eq (items : List α) :
    ∃ first, stableSort order items = first ++ items.filter last ∧
      first.Perm (items.filter (!last ·)) := by
  rw [stableSort]
  split
  · exact ⟨_, h.insertionSort_eq items, insertionSort_perm order _⟩
  · obtain ⟨first, hsort, hfirst⟩ := h.exists_mergeSort_eq items
    refine ⟨first, hsort, ?_⟩
    -- The rest has the other items, since sorting loses none of them.
    have hperm := (List.mergeSort_perm items fun a b => (order a b).isLE).filter (!last ·)
    rw [hsort, List.filter_append, List.filter_eq_self.2 (by simpa using hfirst)] at hperm
    simpa [List.filter_filter] using hperm

/-- The whole order is a preorder if it is one on the other items. -/
theorem isPreorderOn (hfirst : IsPreorderOn order (items.filter (!last ·))) :
    IsPreorderOn order items := by
  have hmem {a : α} (ha : a ∈ items) (hlast : last a = false) : a ∈ items.filter (!last ·) :=
    List.mem_filter.2 ⟨ha, by simp [hlast]⟩
  constructor
  · intro a b ha hb
    cases hla : last a <;> cases hlb : last b
    · exact hfirst.swap (hmem ha hla) (hmem hb hlb)
    · rw [h.lt hla hlb, h.gt hlb hla]
      rfl
    · rw [h.gt hla hlb, h.lt hlb hla]
      rfl
    · rw [h.eq hla hlb, h.eq hlb hla]
      rfl
  · intro a b c ha hb hc hab hbc
    cases hla : last a <;> cases hlc : last c
    · cases hlb : last b with
      | false => exact hfirst.trans (hmem ha hla) (hmem hb hlb) (hmem hc hlc) hab hbc
      | true => exact absurd (h.gt hlb hlc) hbc
    · simp [h.lt hla hlc]
    · cases hlb : last b with
      | false => exact absurd (h.gt hla hlb) hab
      | true => exact absurd (h.gt hlb hlc) hbc
    · simp [h.eq hla hlc]

/-- The other items are sorted among themselves, if the order is a preorder on them. -/
theorem isStableSort {first : List α} (hsort : stableSort order items = first ++ items.filter last)
    (hperm : first.Perm (items.filter (!last ·)))
    (hfirst : IsPreorderOn order (items.filter (!last ·))) :
    IsStableSort order (items.filter (!last ·)) first := by
  have hstable := isStableSort_stableSort (h.isPreorderOn hfirst)
  rw [hsort] at hstable
  refine ⟨hperm, (List.pairwise_append.1 hstable.ascending).1, fun a ha => ?_⟩
  obtain ⟨hmem, hlast⟩ := List.mem_filter.1 ha
  rw [Bool.not_eq_true'] at hlast
  -- An item is equal to none of those that come last.
  have hnone : equals order a (items.filter last) = [] := by
    refine List.filter_eq_nil_iff.2 fun b hb => ?_
    simp [h.lt hlast (List.mem_filter.1 hb).2]
  have hall : equals order a items = equals order a (items.filter (!last ·)) := by
    rw [equals, equals, List.filter_filter]
    refine List.filter_congr fun b _ => ?_
    cases hb : last b with
    | false => simp
    | true => simp [h.lt hlast hb]
  have happend := hstable.stable a hmem
  rw [equals, List.filter_append, ← equals, ← equals, hnone, List.append_nil] at happend
  rw [happend, hall]

end PutsLast

/-! ### Images -/

/-- Images are in a preorder if what they are images of is, by their images. -/
theorem IsPreorderOn.of_comap {f : β → α} {items : List β}
    (h : IsPreorderOn (fun a b => order (f a) (f b)) items) :
    IsPreorderOn order (items.map f) where
  swap ha hb := by
    obtain ⟨a, ha', rfl⟩ := List.mem_map.1 ha
    obtain ⟨b, hb', rfl⟩ := List.mem_map.1 hb
    exact h.swap ha' hb'
  trans ha hb hc := by
    obtain ⟨a, ha', rfl⟩ := List.mem_map.1 ha
    obtain ⟨b, hb', rfl⟩ := List.mem_map.1 hb
    obtain ⟨c, hc', rfl⟩ := List.mem_map.1 hc
    exact h.trans ha' hb' hc'

/-- What is sorted as images of other items is a sort of these. -/
theorem IsStableSort.of_map {f : β → α} (hf : f.Injective) {items sorted : List β}
    (h : IsStableSort order (items.map f) (sorted.map f)) :
    IsStableSort (fun a b => order (f a) (f b)) items sorted where
  perm := (List.map_perm_map_iff hf).1 h.perm
  ascending := List.pairwise_map.1 h.ascending
  stable a ha := by
    have hequals := h.stable (f a) (List.mem_map_of_mem ha)
    rw [equals, equals, List.filter_map, List.filter_map] at hequals
    exact List.map_injective_iff.2 hf hequals

/-- A list that has the items of an image in another order is an image. -/
theorem exists_map_eq_of_perm {f : β → α} {items : List β} {l : List α}
    (h : l.Perm (items.map f)) : ∃ sorted : List β, sorted.map f = l := by
  have hl : l ∈ Set.range (List.map f) := by
    rw [Set.range_list_map]
    intro a ha
    obtain ⟨b, -, rfl⟩ := List.mem_map.1 (h.mem_iff.1 ha)
    exact ⟨b, rfl⟩
  exact hl

/-- If all items are equal, sorting leaves them as they are. -/
theorem IsStableSort.eq_self {sorted : List α} (h : IsStableSort order items sorted)
    (hall : ∀ a b, order a b = .eq) : sorted = items := by
  have horder : IsPreorderOn order items :=
    ⟨fun _ _ => by simp [hall], fun _ _ _ _ _ => by simp [hall]⟩
  have hself : IsStableSort order items items :=
    ⟨.refl _, List.pairwise_of_forall fun a b => by simp [hall], fun _ _ => rfl⟩
  exact h.unique horder hself

/-! ### Keys -/

namespace Query

/-- A key that has a record, as the order of keys sees it. -/
def asFound (item : κ × Record) : κ × Option Record := (item.1, some item.2)

/-- Keys that have a record are told apart by key and record. -/
theorem asFound_injective : (asFound (κ := κ)).Injective := by
  rintro ⟨a, r⟩ ⟨b, s⟩ h
  obtain ⟨hkeys, hrecords⟩ := Prod.mk.inj h
  exact Prod.ext hkeys (Option.some.inj hrecords)

/-- Keys without a record come last. -/
theorem putsLast_orderFound (c : Compiled) (cs : Comparisons) :
    PutsLast (orderFound (κ := κ) c cs) (·.2.isNone) := by
  constructor <;> rintro ⟨a, _ | r⟩ ⟨b, _ | s⟩ ha hb <;> simp_all [orderFound]

/-- The keys that have a record, as the order of keys sees them. -/
theorem filter_found (find? : κ → Option Record) (keys : List κ) :
    (keys.map fun key => (key, find? key)).filter (!·.2.isNone) =
      (withRecords find? keys).map asFound := by
  induction keys with
  | nil => rfl
  | cons key keys ih =>
    rw [List.map_cons, withRecords_cons, List.map_append, ← ih]
    cases hfind : find? key <;> simp [asFound]

theorem filter_missing (find? : κ → Option Record) (keys : List κ) :
    ((keys.map fun key => (key, find? key)).filter (·.2.isNone)).map (·.1) =
      keys.filter fun key => (find? key).isNone := by
  rw [List.filter_map, List.map_map]
  exact List.map_id _

/-- What keys are sorted to. No key is lost, and without an ordering clause all stay where they are.
    With one, the keys that have records come first and all others after them, in the order in which
    they were given, whatever the order of the records is. If this is a preorder on the records,
    the keys found are the only stable sort of them; and if the condition does not compile, they
    stay in the order in which they were given. -/
theorem sortKeys_found_first (q : Query) (env : Environment) (keys : List κ) (source : Source κ) :
    let c := q.compiledIn env
    let found := withRecords source.find? keys
    let missing := keys.filter fun key => (source.find? key).isNone
    let result := q.sortKeys env keys source
    result.Perm keys ∧ (c.entries = [] → result = keys) ∧
      (c.entries ≠ [] → ∃ sorted, result = sorted.map (·.1) ++ missing ∧ sorted.Perm found ∧
        (IsPreorderOn (c.order env.comparisons) (found.map (·.2)) →
          ∀ s, IsStableSort (fun a b => c.order env.comparisons a.2 b.2) found s ↔ s = sorted) ∧
        ((∃ e, c.tree = .error e) → sorted = found)) := by
  intro c found missing result
  let items := keys.map fun key => (key, source.find? key)
  have hkeys : items.map (·.1) = keys := by
    rw [List.map_map]
    exact List.map_id _
  refine ⟨?_, fun hentries => ?_, fun hentries => ?_⟩
  · rw [← hkeys]
    exact (c.sort_perm (orderFound c env.comparisons) items).map _
  · have hsort := Compiled.sort_of_entries_eq_nil hentries (orderFound c env.comparisons) items
    exact (congrArg (List.map (·.1)) hsort).trans hkeys
  · have hlast : PutsLast (orderFound (κ := κ) c env.comparisons) (·.2.isNone) :=
      putsLast_orderFound c env.comparisons
    obtain ⟨first, hsort, hperm⟩ := hlast.exists_stableSort_eq items
    have hfound : items.filter (!·.2.isNone) = found.map asFound := filter_found _ _
    rw [hfound] at hperm
    -- All that comes first has a record.
    obtain ⟨sorted, rfl⟩ := exists_map_eq_of_perm hperm
    have hfirst : (sorted.map asFound).map (·.1) = sorted.map (·.1) := by
      rw [List.map_map]
      exact List.map_congr_left fun _ _ => rfl
    have hsorted (horder : IsPreorderOn (c.order env.comparisons) (found.map (·.2))) :
        IsStableSort (c.orderItems env.comparisons) found sorted := by
      have hpreorder : IsPreorderOn (orderFound c env.comparisons) (found.map asFound) :=
        .of_comap horder.map
      rw [← hfound] at hpreorder
      have hstable := hlast.isStableSort hsort (hfound ▸ hperm) hpreorder
      rw [hfound] at hstable
      exact hstable.of_map asFound_injective
    refine ⟨sorted, ?_, (List.map_perm_map_iff asFound_injective).1 hperm,
      fun horder s => ⟨fun h => h.unique horder.map (hsorted horder), fun h => h ▸ hsorted horder⟩,
      fun ⟨e, htree⟩ => ?_⟩
    · have hresult : c.sort (orderFound c env.comparisons) items = _ :=
        (if_neg (by simpa using hentries)).trans hsort
      have hmissing : (items.filter (·.2.isNone)).map (·.1) = missing := filter_missing _ _
      rw [← hmissing, ← hfirst, ← List.map_append]
      exact congrArg (List.map (·.1)) hresult
    · have hall a b : c.order env.comparisons a b = .eq := by rw [Compiled.order, htree]
      have horder : IsPreorderOn (c.order env.comparisons) (found.map (·.2)) :=
        ⟨fun _ _ => by simp [hall], fun _ _ _ _ _ => by simp [hall]⟩
      exact (hsorted horder).eq_self fun a b => hall a.2 b.2

/-- Six keys, one of them given twice, for three records, of which two are equal. Two keys have no
    record. With a condition that does not compile only these change their places. -/
theorem sortKeys_found_first_six :
    let n : Token :=
      ⟨{ kind := .property, result := some .primitive, operator := some .property }, .text "n"⟩
    let c : Compiled := ⟨.ok (.ofToken n), [⟨"n", false⟩]⟩
    let q : Query := { conditions := "n", clause := some "n", compiled := some c }
    let record (value : Int64) : Record :=
      { get := fun _ => .integer value, id := .integer value, type? := none }
    let source := Source.ofArray #[record 2, record 1, record 2]
    let found := [(2, record 2), (0, record 2), (1, record 1), (0, record 2)]
    let broken : Query := { q with compiled := some ⟨.error (.rejected []), c.entries⟩ }
    withRecords source.find? [9, 2, 0, 1, 0, 8] = found ∧ c.entries ≠ [] ∧
      IsPreorderOn (c.order {}) (found.map (·.2)) ∧
      q.sortKeys {} [9, 2, 0, 1, 0, 8] source = [1, 2, 0, 0, 9, 8] ∧
      (∃ e, (broken.compiledIn {}).tree = .error e) ∧
      broken.sortKeys {} [9, 2, 0, 1, 0, 8] source = [2, 0, 1, 0, 9, 8] := by
  intro n c q record source found broken
  have hfound : withRecords source.find? [9, 2, 0, 1, 0, 8] = found := rfl
  have htwo : found.map (·.2) ⊆ [record 2, record 1] := by
    simp [found]
  have hpair : IsPreorderOn (c.order {}) [record 2, record 1] :=
    .pair (by decide) (by decide) (by decide)
  have horder : IsPreorderOn (c.order {}) (found.map (·.2)) := hpair.mono htwo
  have hstable : IsStableSort (fun a b => c.order {} a.2 b.2) found
      [(1, record 1), (2, record 2), (0, record 2), (0, record 2)] := by
    have hperm := @List.perm_middle _ (1, record 1) [(2, record 2), (0, record 2)] [(0, record 2)]
    refine ⟨hperm.symm, by decide, fun item hitem => ?_⟩
    simp only [found, List.mem_cons, List.not_mem_nil, or_false] at hitem
    rcases hitem with rfl | rfl | rfl | rfl <;> rfl
  have hentries : c.entries ≠ [] := List.cons_ne_nil _ _
  obtain ⟨-, -, hsorted⟩ := sortKeys_found_first q {} [9, 2, 0, 1, 0, 8] source
  obtain ⟨sorted, hresult, -, hunique, -⟩ := hsorted hentries
  obtain rfl := (hunique horder _).1 hstable
  obtain ⟨-, -, hkept⟩ := sortKeys_found_first broken {} [9, 2, 0, 1, 0, 8] source
  obtain ⟨kept, hbroken, -, -, hself⟩ := hkept hentries
  obtain rfl := hself ⟨_, rfl⟩
  exact ⟨hfound, hentries, horder, hresult, ⟨_, rfl⟩, hbroken⟩

end Query

end RecordQuery
