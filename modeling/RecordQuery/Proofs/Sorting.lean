import Mathlib.Data.Set.Image
import Mathlib.Order.Compare
import RecordQuery.Ordering

/-!
# Stable sorting

A sort that keeps equal items in their order has only one result, whichever way it goes about it
(`IsStableSort.unique`). So it cannot be told from the result that short lists are sorted by
insertion and long ones by merging (`isStableSort_stableSort`). The order has to be a preorder, but
only on the items that are sorted; whatever it is, `stableSort` loses no item (`stableSort_perm`).

* `IsPreorder`, `IsPreorderOn`: an order is total and transitive on a set, or on some items.
* `IsStableSort`: the items in their order, those that are equal as they stood before.
* `IsSortable`: where the result of a sort is more than that of `stableSort`.
-/

namespace RecordQuery

variable {α β : Type} {order : α → α → Ordering} {items sorted : List α} {a b c : α}

/-! ### Preorders -/

/-- An order is total and transitive on a set. -/
structure IsPreorder {α : Type*} (order : α → α → Ordering) (s : Set α) : Prop where
  swap : ∀ {a b}, a ∈ s → b ∈ s → order b a = (order a b).swap
  trans : ∀ {a b c}, a ∈ s → b ∈ s → c ∈ s → order a b ≠ .gt → order b c ≠ .gt → order a c ≠ .gt

/-- An order is total and transitive on the items of a list. -/
abbrev IsPreorderOn (order : α → α → Ordering) (items : List α) : Prop :=
  IsPreorder order {a | a ∈ items}

namespace IsPreorder

variable {α β : Type*} {order : α → α → Ordering} {s t : Set α} {a b c : α}

/-- A part of a set is ordered as the set is. -/
theorem mono (h : IsPreorder order s) (hts : t ⊆ s) : IsPreorder order t where
  swap ha hb := h.swap (hts ha) (hts hb)
  trans ha hb hc := h.trans (hts ha) (hts hb) (hts hc)

/-- Things that are compared by what is looked up of them. -/
theorem comap {f : β → α} {s : Set β} (h : IsPreorder order (f '' s)) :
    IsPreorder (fun a b => order (f a) (f b)) s where
  swap ha hb := h.swap (Set.mem_image_of_mem f ha) (Set.mem_image_of_mem f hb)
  trans ha hb hc :=
    h.trans (Set.mem_image_of_mem f ha) (Set.mem_image_of_mem f hb) (Set.mem_image_of_mem f hc)

variable (h : IsPreorder order s)
include h

/-- Everything is equal to itself. -/
theorem self (ha : a ∈ s) : order a a = .eq := by
  have := h.swap ha ha
  cases horder : order a a <;> simp_all

/-- Of two things of which neither is larger, both are equal. -/
theorem eq_of_ne_gt (ha : a ∈ s) (hb : b ∈ s) (hab : order a b ≠ .gt) (hba : order b a ≠ .gt) :
    order a b = .eq := by
  have := h.swap ha hb
  cases horder : order a b <;> simp_all

/-- What is not smaller is not exceeded. -/
theorem ne_gt_of_ne_lt (ha : a ∈ s) (hb : b ∈ s) (hab : order a b ≠ .lt) : order b a ≠ .gt := by
  have := h.swap ha hb
  cases horder : order a b <;> simp_all

/-- Things that are equal to a third one are equal. -/
theorem eq_of_eq (ha : a ∈ s) (hb : b ∈ s) (hc : c ∈ s) (hca : order c a = .eq)
    (hcb : order c b = .eq) : order a b = .eq := by
  have hac : order a c = .eq := by rw [h.swap hc ha, hca]; rfl
  have hbc : order b c = .eq := by rw [h.swap hc hb, hcb]; rfl
  exact h.eq_of_ne_gt ha hb (h.trans ha hc hb (by simp [hac]) (by simp [hcb]))
    (h.trans hb hc ha (by simp [hbc]) (by simp [hca]))

end IsPreorder

namespace IsPreorderOn

/-- Items that are compared by their images. -/
theorem map {f : β → α} {items : List β} (h : IsPreorderOn order (items.map f)) :
    IsPreorderOn (fun a b => order (f a) (f b)) items :=
  IsPreorder.comap (h.mono (by rintro _ ⟨b, hb, rfl⟩; exact List.mem_map_of_mem hb))

/-- How often and in which order the items stand does not matter. -/
theorem of_perm {items' : List α} (h : IsPreorderOn order items) (hperm : items.Perm items') :
    IsPreorderOn order items' :=
  h.mono hperm.symm.subset

/-- On two items there is nothing to be transitive. -/
theorem pair (ha : order a a = .eq) (hb : order b b = .eq)
    (hba : order b a = (order a b).swap) : IsPreorderOn order [a, b] where
  swap hx hy := by
    simp only [Set.mem_ofPred_eq, List.mem_cons, List.not_mem_nil, or_false] at hx hy
    rcases hx with rfl | rfl <;> rcases hy with rfl | rfl <;> simp [*]
  trans hx hy hz := by
    simp only [Set.mem_ofPred_eq, List.mem_cons, List.not_mem_nil, or_false] at hx hy hz
    rcases hx with rfl | rfl <;> rcases hy with rfl | rfl <;> rcases hz with rfl | rfl <;>
      simp_all

end IsPreorderOn

/-! ### Stable sorts -/

/-- The items of a list that are equal to one of them. -/
def equals (order : α → α → Ordering) (a : α) (items : List α) : List α :=
  items.filter (order a · == .eq)

theorem mem_equals_iff : b ∈ equals order a items ↔ b ∈ items ∧ order a b = .eq := by
  simp [equals]

/-- The items in ascending order. Those that are equal stand as they stood before. -/
structure IsStableSort (order : α → α → Ordering) (items sorted : List α) : Prop where
  perm : sorted.Perm items
  ascending : sorted.Pairwise (order · · ≠ .gt)
  stable : ∀ a ∈ items, equals order a sorted = equals order a items

/-- Of two ascending lists with the same items in each class of equal ones, the first items are the
    same. -/
theorem IsPreorderOn.head_eq {l l' : List α} (h : IsPreorderOn order items)
    (hl : a :: l ⊆ items) (hl' : b :: l' ⊆ items) (hasc : (a :: l).Pairwise (order · · ≠ .gt))
    (hasc' : (b :: l').Pairwise (order · · ≠ .gt))
    (hequals : ∀ c ∈ items, equals order c (a :: l) = equals order c (b :: l')) : a = b := by
  have ha : a ∈ items := hl List.mem_cons_self
  have hb : b ∈ items := hl' List.mem_cons_self
  -- The second list has its first item `y` first in its class, so the first list has it somewhere.
  have hfirst {x y : α} {l l' : List α} (hx : x ∈ items) (hy : y ∈ items)
      (hasc : (x :: l).Pairwise (order · · ≠ .gt))
      (hequals : equals order y (x :: l) = equals order y (y :: l')) : order x y ≠ .gt := by
    have hmem : y ∈ equals order y (y :: l') := mem_equals_iff.2 ⟨List.mem_cons_self, h.self hy⟩
    rw [← hequals] at hmem
    rcases List.mem_cons.1 (mem_equals_iff.1 hmem).1 with rfl | hyl
    · simp [h.self hy]
    · exact List.rel_of_pairwise_cons hasc hyl
  have hab : order a b = .eq := h.eq_of_ne_gt ha hb (hfirst ha hb hasc (hequals b hb))
    (hfirst hb ha hasc' (hequals a ha).symm)
  have hheads := hequals a ha
  rw [equals, equals, List.filter_cons_of_pos (by simp [h.self ha]),
    List.filter_cons_of_pos (by simp [hab])] at hheads
  exact (List.cons.inj hheads).1

/-- Two ascending lists with the same items in each class of equal ones are the same. -/
theorem IsPreorderOn.eq_of_equals_eq {l l' : List α} (h : IsPreorderOn order items)
    (hl : l ⊆ items) (hl' : l' ⊆ items) (hasc : l.Pairwise (order · · ≠ .gt))
    (hasc' : l'.Pairwise (order · · ≠ .gt))
    (hequals : ∀ c ∈ items, equals order c l = equals order c l') : l = l' := by
  induction l generalizing l' with
  | nil =>
    refine (List.eq_nil_iff_forall_not_mem.2 fun b hb => ?_).symm
    have hmem : b ∈ equals order b l' := mem_equals_iff.2 ⟨hb, h.self (hl' hb)⟩
    rw [← hequals b (hl' hb)] at hmem
    cases hmem
  | cons a l ih =>
    cases l' with
    | nil =>
      have ha := hl List.mem_cons_self
      have hmem : a ∈ equals order a (a :: l) := mem_equals_iff.2 ⟨List.mem_cons_self, h.self ha⟩
      rw [hequals a ha] at hmem
      cases hmem
    | cons b l' =>
      obtain rfl : a = b := h.head_eq hl hl' hasc hasc' hequals
      rw [ih (List.cons_subset.1 hl).2 (List.cons_subset.1 hl').2 hasc.of_cons hasc'.of_cons]
      intro c hc
      -- The heads are the same item, which is in both classes or in none.
      have hrest := hequals c hc
      rw [equals, equals, List.filter_cons, List.filter_cons] at hrest
      split at hrest
      · exact (List.cons.inj hrest).2
      · exact hrest

/-- There is only one stable sort. -/
theorem IsStableSort.unique {sorted' : List α} (horder : IsPreorderOn order items)
    (h : IsStableSort order items sorted) (h' : IsStableSort order items sorted') :
    sorted = sorted' :=
  horder.eq_of_equals_eq h.perm.subset h'.perm.subset h.ascending h'.ascending
    fun c hc => (h.stable c hc).trans (h'.stable c hc).symm

/-- Items of which no two different ones are equal have only one stable sort, however they stood
    before. -/
theorem IsStableSort.eq_of_perm {items' sorted' : List α} (horder : IsPreorderOn order items)
    (hties : ∀ a ∈ items, ∀ b ∈ items, order a b = .eq → a = b)
    (h : IsStableSort order items sorted) (h' : IsStableSort order items' sorted')
    (hperm : items.Perm items') : sorted = sorted' := by
  have hsorted : sorted.Perm sorted' := h.perm.trans (hperm.trans h'.perm.symm)
  refine List.Perm.eq_of_pairwise (fun a b ha hb hab hba => ?_) h.ascending h'.ascending hsorted
  have ha : a ∈ items := h.perm.mem_iff.1 ha
  have hb : b ∈ items := h.perm.mem_iff.1 (hsorted.mem_iff.2 hb)
  exact hties a ha b hb (horder.eq_of_ne_gt ha hb hab hba)

/-! ### Sorting by insertion -/

/-- Inserting an item loses nothing. -/
theorem insertDescending_perm (order : α → α → Ordering) (a : α) (l : List α) :
    (insertDescending order a l).Perm (a :: l) := by
  induction l with
  | nil => exact .refl _
  | cons b l ih =>
    rw [insertDescending]
    split
    · exact (ih.cons b).trans (.swap a b l)
    · exact .refl _

/-- An item comes before those that it is equal to. -/
theorem equals_insertDescending (h : IsPreorderOn order items) (ha : a ∈ items) (hc : c ∈ items)
    {l : List α} (hl : l ⊆ items) :
    equals order c (insertDescending order a l) = equals order c (a :: l) := by
  induction l with
  | nil => rfl
  | cons b l ih =>
    obtain ⟨hb, hl⟩ := List.cons_subset.1 hl
    rw [insertDescending]
    split
    · rename_i hlt
      have hlt : order a b = .lt := beq_iff_eq.1 hlt
      have ih := ih hl
      simp only [equals, List.filter_cons, beq_iff_eq] at ih ⊢
      rw [ih]
      -- The item has moved past a larger one, to which it is not equal.
      by_cases hca : order c a = .eq
      · have hcb : order c b ≠ .eq := by
          intro hcb
          rw [h.eq_of_eq ha hb hc hca hcb] at hlt
          cases hlt
        simp [hca, hcb]
      · simp [hca]
    · rfl

/-- An item is inserted where it keeps the items in descending order. -/
theorem insertDescending_descending (h : IsPreorderOn order items) (ha : a ∈ items) {l : List α}
    (hl : l ⊆ items) (hdesc : l.Pairwise fun x y => order y x ≠ .gt) :
    (insertDescending order a l).Pairwise fun x y => order y x ≠ .gt := by
  induction l with
  | nil => simp [insertDescending]
  | cons b l ih =>
    obtain ⟨hb, hl⟩ := List.cons_subset.1 hl
    obtain ⟨hfirst, hdesc⟩ := List.pairwise_cons.1 hdesc
    rw [insertDescending]
    split
    · rename_i hlt
      refine List.pairwise_cons.2 ⟨fun x hx => ?_, ih hl hdesc⟩
      rcases List.mem_cons.1 ((insertDescending_perm order a l).mem_iff.1 hx) with rfl | hx
      · simp [beq_iff_eq.1 hlt]
      · exact hfirst x hx
    · rename_i hlt
      have hba : order b a ≠ .gt := h.ne_gt_of_ne_lt ha hb (by simpa using hlt)
      refine List.pairwise_cons.2 ⟨fun x hx => ?_, List.pairwise_cons.2 ⟨hfirst, hdesc⟩⟩
      rcases List.mem_cons.1 hx with rfl | hx
      · exact hba
      · exact h.trans (hl hx) hb ha (hfirst x hx) hba

/-- The items inserted so far, in descending order. -/
theorem foldl_insertDescending (h : IsPreorderOn order items) {l : List α} (hl : l ⊆ items)
    {rest : List α} (hrest : rest ⊆ items) (hdesc : l.Pairwise fun x y => order y x ≠ .gt) :
    let l' := rest.foldl (fun sorted a => insertDescending order a sorted) l
    (l'.Pairwise fun x y => order y x ≠ .gt) ∧
      ∀ c ∈ items, equals order c l' = equals order c (rest.reverse ++ l) := by
  induction rest generalizing l with
  | nil => exact ⟨hdesc, fun c _ => rfl⟩
  | cons a rest ih =>
    obtain ⟨ha, hrest⟩ := List.cons_subset.1 hrest
    have hinsert : insertDescending order a l ⊆ items :=
      List.Subset.trans (insertDescending_perm order a l).subset (List.cons_subset.2 ⟨ha, hl⟩)
    obtain ⟨hdesc', hequals⟩ := ih hinsert hrest (insertDescending_descending h ha hl hdesc)
    refine ⟨hdesc', fun c hc => (hequals c hc).trans ?_⟩
    have hlast := equals_insertDescending h ha hc hl
    simp only [equals] at hlast ⊢
    rw [List.filter_append, hlast, ← List.filter_append, List.reverse_cons, List.append_assoc]
    rfl

theorem foldl_insertDescending_perm (order : α → α → Ordering) (l rest : List α) :
    (rest.foldl (fun sorted a => insertDescending order a sorted) l).Perm (rest ++ l) := by
  induction rest generalizing l with
  | nil => exact .refl _
  | cons a rest ih =>
    have hinsert := (insertDescending_perm order a l).append_left rest
    exact ((ih _).trans hinsert).trans List.perm_middle

theorem insertionSort_perm (order : α → α → Ordering) (items : List α) :
    (insertionSort order items).Perm items := by
  have h := foldl_insertDescending_perm order [] items
  rw [List.append_nil] at h
  exact (List.reverse_perm _).trans h

/-- Sorting by insertion is stable, since an item goes past larger ones only. -/
theorem isStableSort_insertionSort (h : IsPreorderOn order items) :
    IsStableSort order items (insertionSort order items) := by
  obtain ⟨hdesc, hequals⟩ :=
    foldl_insertDescending h (List.nil_subset _) (List.Subset.refl items) .nil
  refine ⟨insertionSort_perm order items, List.pairwise_reverse.2 hdesc, fun c hc => ?_⟩
  have hfold := hequals c hc
  rw [List.append_nil] at hfold
  simp only [equals] at hfold ⊢
  rw [insertionSort, List.filter_reverse, hfold, List.filter_reverse, List.reverse_reverse]

/-! ### Sorting by merging -/

/-- Merging keeps all ascending parts of a list as they are. If the order is a preorder on all items,
    each class of equal ones is such a part. -/
theorem isStableSort_mergeSort (h : IsPreorderOn order items) :
    IsStableSort order items (items.mergeSort fun a b => (order a b).isLE) := by
  -- The order is a preorder on the items only, so these are sorted as a type of their own.
  let le (a b : {a // a ∈ items}) : Bool := (order a.1 b.1).isLE
  have hle (a b) : le a b = true ↔ order a.1 b.1 ≠ .gt := Ordering.isLE_iff_ne_gt
  have htrans : ∀ a b c, le a b = true → le b c = true → le a c = true := by
    intro a b c
    simpa only [hle] using h.trans a.2 b.2 c.2
  have htotal : ∀ a b, (le a b || le b a) = true := by
    intro a b
    have := h.swap a.2 b.2
    simp only [Bool.or_eq_true, hle]
    cases horder : order a.1 b.1 <;> simp_all
  have hmap : (items.attach.mergeSort le).map (·.1) =
      items.mergeSort fun a b => (order a b).isLE := by
    have h := @List.map_mergeSort _ _ le (fun a b => (order a b).isLE) (·.1) items.attach
      fun a _ b _ => rfl
    rwa [List.attach_map_subtype_val] at h
  refine ⟨List.mergeSort_perm items _, ?_, fun c hc => ?_⟩
  · rw [← hmap, List.pairwise_map]
    exact (List.pairwise_mergeSort htrans htotal items.attach).imp (hle _ _).1
  · let alike (a : {a // a ∈ items}) : Bool := order c a.1 == .eq
    have hascending : (items.attach.filter alike).Pairwise (le · ·) := by
      refine List.pairwise_of_forall_mem_list fun a ha b hb => ?_
      have hca := beq_iff_eq.1 (List.mem_filter.1 ha).2
      have hcb := beq_iff_eq.1 (List.mem_filter.1 hb).2
      rw [hle, h.eq_of_eq a.2 b.2 hc hca hcb]
      decide
    -- A class is ascending, so it is a sublist of what merging gives, and has all of its items
    -- there.
    have hsub := (List.sublist_mergeSort htrans htotal hascending List.filter_sublist).filter alike
    have hperm := (List.mergeSort_perm items.attach le).filter alike
    simp only [List.filter_filter, Bool.and_self] at hsub
    have hsame := hsub.eq_of_length hperm.length_eq.symm
    calc equals order c (items.mergeSort fun a b => (order a b).isLE)
      _ = ((items.attach.mergeSort le).filter alike).map (·.1) := by
        rw [← hmap, equals, List.filter_map]
        rfl
      _ = (items.attach.filter alike).map (·.1) := by rw [hsame]
      _ = equals order c (items.attach.map (·.1)) := by
        rw [equals, List.filter_map]
        rfl
      _ = equals order c items := by rw [List.attach_map_subtype_val]

/-! ### Sorting -/

/-- Sorting loses nothing and adds nothing, whatever the order is. -/
theorem stableSort_perm (order : α → α → Ordering) (items : List α) :
    (stableSort order items).Perm items := by
  rw [stableSort]
  split
  · exact insertionSort_perm order items
  · exact List.mergeSort_perm items _

/-- However many the items are, they are sorted stably. -/
theorem isStableSort_stableSort (h : IsPreorderOn order items) :
    IsStableSort order items (stableSort order items) := by
  rw [stableSort]
  split
  · exact isStableSort_insertionSort h
  · exact isStableSort_mergeSort h

/-- Sorting by an order has a result, whichever stable sort is used: the items are so few that they
    are sorted by insertion, or the order is a preorder on them. -/
def IsSortable (order : α → α → Ordering) (items : List α) : Prop :=
  items.length ≤ 20 ∨ IsPreorderOn order items

/-! ### Sorting images -/

/-- Inserting an image is inserting what it is an image of. -/
theorem insertDescending_map (f : β → α) (b : β) (items : List β) :
    insertDescending order (f b) (items.map f) =
      (insertDescending (fun a b => order (f a) (f b)) b items).map f := by
  induction items with
  | nil => rfl
  | cons c items ih =>
    rw [List.map_cons, insertDescending, insertDescending]
    split
    · rw [ih, List.map_cons]
    · rfl

/-- So is inserting images one by one. -/
theorem foldl_insertDescending_map (f : β → α) (l items : List β) :
    (items.map f).foldl (fun sorted a => insertDescending order a sorted) (l.map f) =
      (items.foldl (fun sorted b => insertDescending (fun a b => order (f a) (f b)) b sorted)
        l).map f := by
  induction items generalizing l with
  | nil => rfl
  | cons b items ih => rw [List.map_cons, List.foldl_cons, insertDescending_map, ih, List.foldl_cons]

/-- Sorting looks at items only to compare them, so what they are images of can be sorted instead,
    whatever the order is. -/
theorem stableSort_map (f : β → α) (items : List β) :
    stableSort order (items.map f) = (stableSort (fun a b => order (f a) (f b)) items).map f := by
  rw [stableSort, stableSort, List.length_map]
  split
  · rw [insertionSort, insertionSort, List.map_reverse, ← foldl_insertDescending_map]
    rfl
  · exact (@List.map_mergeSort _ _ _ _ f items fun _ _ _ _ => rfl).symm

end RecordQuery
