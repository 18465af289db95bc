import RecordQuery.Record
import RecordQuery.Text.Split
import RecordQuery.Text.WhiteSpace

/-!
# Ordering clauses

A clause such as `lastName, year DESC` lists the properties that order records, the first one that
tells two records apart deciding. Properties are compared by their values, or by a comparison that
was registered for them.

* `OrderEntry.ofClause`: the entries of a clause.
* `Comparisons.order`: the order of two records by a list of entries and, last, by their ids.
* `stableSort`: sorts by such an order.
-/

namespace RecordQuery

/-- A property that orders records. -/
structure OrderEntry where
  /-- The name of the property. -/
  property : String
  /-- Larger values come first. -/
  descending : Bool
deriving DecidableEq

namespace OrderEntry

/-- The entry of one segment of a clause: a name, then `DESC` if it is descending. Blank segments
    have none and further words mean nothing. -/
def ofWords? : List (List Char) → Option OrderEntry
  | [] => none
  | name :: rest =>
    some { property := String.ofList name, descending := rest.head? == some ['D', 'E', 'S', 'C'] }

/-- The entries of a clause, whose segments are separated by commas. -/
def ofClause (clause : Option String) : List OrderEntry :=
  match clause with
  | none => []
  | some clause =>
    (Text.splitAt (· == ',') clause.toList).filterMap fun segment =>
      ofWords? (Text.words Text.isWhiteSpace segment)

end OrderEntry

/-- A way to compare two values of a property. -/
abbrev Comparison := Value → Value → Ordering

/-- The comparisons registered for properties. -/
structure Comparisons where
  /-- Comparisons by property, the latest first. -/
  entries : List (String × Comparison) := []

namespace Comparisons

/-- Registers a comparison in place of an earlier one for the same property. -/
def register (cs : Comparisons) (property : String) (comparison : Comparison) : Comparisons :=
  ⟨(property, comparison) :: cs.entries⟩

/-- The comparison for a property. -/
def comparisonFor (cs : Comparisons) (property : String) : Comparison :=
  (cs.entries.lookup property).getD Value.order

/-- Compares two records by one property. -/
def orderBy (cs : Comparisons) (entry : OrderEntry) (a b : Record) : Ordering :=
  let ord := cs.comparisonFor entry.property (a.get entry.property) (b.get entry.property)
  if entry.descending then ord.swap else ord

/-- Compares two records by a list of entries and, if these do not tell them apart, by id. -/
def order (cs : Comparisons) (entries : List OrderEntry) (a b : Record) : Ordering :=
  match entries with
  | [] => a.id.order b.id
  | entry :: rest => (cs.orderBy entry a b).then (cs.order rest a b)

end Comparisons

/-! ### Sorting -/

/-- Puts an item into a list sorted in decreasing order, before the items that are not larger. -/
def insertDescending {α : Type} (order : α → α → Ordering) (a : α) : List α → List α
  | [] => [a]
  | b :: rest => if order a b == .lt then b :: insertDescending order a rest else a :: b :: rest

/-- Sorts by inserting one item after the other. -/
def insertionSort {α : Type} (order : α → α → Ordering) (items : List α) : List α :=
  (items.foldl (fun sorted a => insertDescending order a sorted) []).reverse

/-- Sorts, keeping items that are equal in their order. Up to twenty items are sorted by insertion,
    whatever the order is. More are sorted by merging, and this stands for any stable sort only where
    the order is a total preorder on the items: where it is none, another sort can give them in
    another order, or stop without a result when it finds out. -/
def stableSort {α : Type} (order : α → α → Ordering) (items : List α) : List α :=
  if items.length ≤ 20 then insertionSort order items
  else items.mergeSort fun a b => (order a b).isLE

end RecordQuery
