import RecordQuery.Json
import RecordQuery.Proofs.Decimal.Mixed

/-!
# Documents and values

Writing a value as a document and reading a document as a value keep arrays with their items and
objects with their keys. All that can change are the leaves, the parts that are neither, and of these
only numbers: a document has no infinities and NaNs, and a value no integers beyond 64 bits.

* `Value.mapLeaves`, `Json.mapLeaves`: the same value or document with other leaves.
* `Json.toValue_ofValue`: a value that is written and read again is the same value if and only if
  all its doubles are finite; the others become null.
* `Json.ofValue_toValue`: a document that is read and written again has doubles in place of its
  largest integers, and all else stays.
-/

namespace RecordQuery

/-! ### Leaves of values -/

namespace Value

mutual

/-- A value with its leaves replaced. These are its parts, at any depth, that are neither arrays nor
    objects. -/
def mapLeaves (f : Value → Value) : Value → Value
  | array items => array (mapItemLeaves f items)
  | object members => object (mapMemberLeaves f members)
  | leaf => f leaf

/-- Values with their leaves replaced. -/
def mapItemLeaves (f : Value → Value) : List Value → List Value
  | [] => []
  | item :: rest => mapLeaves f item :: mapItemLeaves f rest

/-- Members with their leaves replaced. -/
def mapMemberLeaves (f : Value → Value) : List (String × Value) → List (String × Value)
  | [] => []
  | (key, item) :: rest => (key, mapLeaves f item) :: mapMemberLeaves f rest

end

mutual

/-- The leaves of a value, from left to right. -/
def leaves : Value → List Value
  | array items => itemLeaves items
  | object members => memberLeaves members
  | leaf => [leaf]

/-- The leaves of values. -/
def itemLeaves : List Value → List Value
  | [] => []
  | item :: rest => leaves item ++ itemLeaves rest

/-- The leaves of members. -/
def memberLeaves : List (String × Value) → List Value
  | [] => []
  | (_, item) :: rest => leaves item ++ memberLeaves rest

end

variable {f : Value → Value}

mutual

/-- A value stays the same if and only if all its leaves do. -/
theorem mapLeaves_eq_self_iff : ∀ v : Value, v.mapLeaves f = v ↔ ∀ a ∈ v.leaves, f a = a
  | null | boolean _ | integer _ | float _ | string _ => by simp [mapLeaves, leaves]
  | array items => by
    rw [mapLeaves, leaves, array.injEq]
    exact mapItemLeaves_eq_self_iff items
  | object members => by
    rw [mapLeaves, leaves, object.injEq]
    exact mapMemberLeaves_eq_self_iff members

theorem mapItemLeaves_eq_self_iff : ∀ items : List Value,
    mapItemLeaves f items = items ↔ ∀ a ∈ itemLeaves items, f a = a
  | [] => by simp [mapItemLeaves, itemLeaves]
  | item :: rest => by
    rw [mapItemLeaves, itemLeaves, List.forall_mem_append, List.cons.injEq,
      mapLeaves_eq_self_iff item, mapItemLeaves_eq_self_iff rest]

theorem mapMemberLeaves_eq_self_iff : ∀ members : List (String × Value),
    mapMemberLeaves f members = members ↔ ∀ a ∈ memberLeaves members, f a = a
  | [] => by simp [mapMemberLeaves, memberLeaves]
  | (key, item) :: rest => by
    rw [mapMemberLeaves, memberLeaves, List.forall_mem_append, List.cons.injEq, Prod.mk.injEq,
      eq_self, true_and, mapLeaves_eq_self_iff item, mapMemberLeaves_eq_self_iff rest]

end

/-- A leaf with null in place of an infinity or a NaN. -/
def finiteOrNull : Value → Value
  | float x => if x.isFinite then float x else null
  | leaf => leaf

/-- Only infinities and NaNs become null. -/
theorem finiteOrNull_eq_self_iff (a : Value) :
    a.finiteOrNull = a ↔ ∀ x, a = float x → x.isFinite = true := by
  cases a with
  | float x => by_cases h : x.isFinite = true <;> simp [finiteOrNull, h]
  | _ => simp [finiteOrNull]

/-- An integer of 64 bits is read as itself. -/
theorem ofInt_toInt (n : Int64) : ofInt n.toInt = integer n := by
  rw [ofInt, Integer64.ofInt?_eq_some_iff.2 rfl]

end Value

/-! ### From values to documents and back -/

namespace Json

mutual

/-- What is written and read again keeps all but its doubles that are not finite. -/
theorem toValue_ofValue_eq_mapLeaves : ∀ v : Value, (ofValue v).toValue = v.mapLeaves Value.finiteOrNull
  | .null | .boolean _ | .string _ => rfl
  | .integer n => Value.ofInt_toInt n
  | .float x => apply_ite toValue (x.isFinite = true) (real x) null
  | .array items => by
    rw [ofValue, toValue, Value.mapLeaves, toValues_ofValues_eq_mapItemLeaves items]
  | .object members => by
    rw [ofValue, toValue, Value.mapLeaves, toProperties_ofProperties_eq_mapMemberLeaves members]

/-- Items are written and read again one by one. -/
theorem toValues_ofValues_eq_mapItemLeaves : ∀ items : List Value,
    toValues (ofValues items) = Value.mapItemLeaves Value.finiteOrNull items
  | [] => rfl
  | item :: rest => by
    rw [ofValues, toValues, Value.mapItemLeaves, toValue_ofValue_eq_mapLeaves item,
      toValues_ofValues_eq_mapItemLeaves rest]

theorem toProperties_ofProperties_eq_mapMemberLeaves : ∀ members : List (String × Value),
    toProperties (ofProperties members) = Value.mapMemberLeaves Value.finiteOrNull members
  | [] => rfl
  | (key, item) :: rest => by
    rw [ofProperties, toProperties, Value.mapMemberLeaves, toValue_ofValue_eq_mapLeaves item,
      toProperties_ofProperties_eq_mapMemberLeaves rest]

end

/-- A value that is written as a document and read again has null in place of its infinities and
    NaNs, at any depth, and nothing else changed: integers and doubles are kept apart and doubles
    keep their bits. So it is the same value if and only if all its doubles are finite. -/
theorem toValue_ofValue (v : Value) :
    (ofValue v).toValue = v.mapLeaves Value.finiteOrNull ∧
      ((ofValue v).toValue = v ↔ ∀ x, Value.float x ∈ v.leaves → x.isFinite = true) := by
  refine ⟨toValue_ofValue_eq_mapLeaves v, ?_⟩
  rw [toValue_ofValue_eq_mapLeaves, Value.mapLeaves_eq_self_iff]
  simp only [Value.finiteOrNull_eq_self_iff]
  exact ⟨fun h x hx => h _ hx x rfl, fun h a ha x hax => h x (hax ▸ ha)⟩

/-! ### Leaves of documents -/

mutual

/-- A document with its leaves replaced. -/
def mapLeaves (f : Json → Json) : Json → Json
  | array items => array (mapItemLeaves f items)
  | object members => object (mapMemberLeaves f members)
  | leaf => f leaf

/-- Documents with their leaves replaced. -/
def mapItemLeaves (f : Json → Json) : List Json → List Json
  | [] => []
  | item :: rest => mapLeaves f item :: mapItemLeaves f rest

/-- Members with their leaves replaced. -/
def mapMemberLeaves (f : Json → Json) : List (String × Json) → List (String × Json)
  | [] => []
  | (key, item) :: rest => (key, mapLeaves f item) :: mapMemberLeaves f rest

end

mutual

/-- The leaves of a document, from left to right. -/
def leaves : Json → List Json
  | array items => itemLeaves items
  | object members => memberLeaves members
  | leaf => [leaf]

/-- The leaves of documents. -/
def itemLeaves : List Json → List Json
  | [] => []
  | item :: rest => leaves item ++ itemLeaves rest

/-- The leaves of members. -/
def memberLeaves : List (String × Json) → List Json
  | [] => []
  | (_, item) :: rest => leaves item ++ memberLeaves rest

end

variable {f : Json → Json}

mutual

/-- A document stays the same if and only if all its leaves do. -/
theorem mapLeaves_eq_self_iff : ∀ j : Json, j.mapLeaves f = j ↔ ∀ a ∈ j.leaves, f a = a
  | null | bool _ | integer _ | real _ | string _ => by simp [mapLeaves, leaves]
  | array items => by
    rw [mapLeaves, leaves, array.injEq]
    exact mapItemLeaves_eq_self_iff items
  | object members => by
    rw [mapLeaves, leaves, object.injEq]
    exact mapMemberLeaves_eq_self_iff members

theorem mapItemLeaves_eq_self_iff : ∀ items : List Json,
    mapItemLeaves f items = items ↔ ∀ a ∈ itemLeaves items, f a = a
  | [] => by simp [mapItemLeaves, itemLeaves]
  | item :: rest => by
    rw [mapItemLeaves, itemLeaves, List.forall_mem_append, List.cons.injEq,
      mapLeaves_eq_self_iff item, mapItemLeaves_eq_self_iff rest]

theorem mapMemberLeaves_eq_self_iff : ∀ members : List (String × Json),
    mapMemberLeaves f members = members ↔ ∀ a ∈ memberLeaves members, f a = a
  | [] => by simp [mapMemberLeaves, memberLeaves]
  | (key, item) :: rest => by
    rw [mapMemberLeaves, memberLeaves, List.forall_mem_append, List.cons.injEq, Prod.mk.injEq,
      eq_self, true_and, mapLeaves_eq_self_iff item, mapMemberLeaves_eq_self_iff rest]

end

/-! ### From documents to values and back -/

/-- Whether a leaf, if it is a number, is one that documents can hold: an integer that has 64 bits,
    with a sign or without, or a finite double. -/
def isWritableLeaf : Json → Bool
  | integer n => decide (-2 ^ 63 ≤ n ∧ n < 2 ^ 64)
  | real x => x.isFinite
  | _ => true

/-- Whether documents can hold all numbers of a document, at any depth. -/
def IsWritable (j : Json) : Prop := ∀ a ∈ j.leaves, a.isWritableLeaf = true

instance (j : Json) : Decidable j.IsWritable := inferInstanceAs (Decidable (∀ a ∈ _, _))

/-- A leaf with the nearest double in place of an integer that has 64 bits only without a sign. -/
def storable : Json → Json
  | integer n => if n < 2 ^ 63 then integer n else real (.ofInt n)
  | leaf => leaf

/-- Only integers from `2 ^ 63` on are not kept. -/
theorem storable_eq_self_iff (a : Json) : a.storable = a ↔ ∀ n, a = integer n → n < 2 ^ 63 := by
  cases a with
  | integer n => simp [storable]
  | _ => simp [storable]

/-- An integer that is read and written again is kept, or is the nearest double. -/
theorem ofValue_ofInt {n : ℤ} (h : (integer n).isWritableLeaf = true) :
    ofValue (.ofInt n) = (integer n).storable := by
  rw [isWritableLeaf, decide_eq_true_iff] at h
  rw [Value.ofInt, storable]
  split
  · rename_i i hi
    obtain rfl := Integer64.ofInt?_eq_some_iff.1 hi
    rw [if_pos i.toInt_lt, ofValue]
  · rename_i hnone
    -- What has no 64 bits is too large, since documents hold nothing that is too small.
    have hlarge : ¬ n < 2 ^ 63 := by
      intro hlt
      rw [Integer64.ofInt?, Integer64.limit, if_pos (by omega)] at hnone
      cases hnone
    rw [if_neg hlarge, ofValue, if_pos (Binary64.isFinite_ofInt (by omega))]

mutual

/-- What is read and written again keeps all but its largest integers. -/
theorem ofValue_toValue : ∀ {j : Json}, (∀ a ∈ j.leaves, a.isWritableLeaf = true) →
    ofValue j.toValue = j.mapLeaves storable
  | null, _ | bool _, _ | string _, _ => rfl
  | integer _, h => ofValue_ofInt (h _ List.mem_cons_self)
  | real _, h => if_pos (h _ List.mem_cons_self)
  | array items, h => by
    rw [toValue, ofValue, mapLeaves, ofValues_toValues h]
  | object members, h => by
    rw [toValue, ofValue, mapLeaves, ofProperties_toProperties h]

/-- Elements are read and written again one by one. -/
theorem ofValues_toValues : ∀ {items : List Json},
    (∀ a ∈ itemLeaves items, a.isWritableLeaf = true) →
    ofValues (toValues items) = mapItemLeaves storable items
  | [], _ => rfl
  | item :: rest, h => by
    obtain ⟨hitem, hrest⟩ := List.forall_mem_append.1 h
    rw [toValues, ofValues, mapItemLeaves, ofValue_toValue hitem, ofValues_toValues hrest]

theorem ofProperties_toProperties : ∀ {members : List (String × Json)},
    (∀ a ∈ memberLeaves members, a.isWritableLeaf = true) →
    ofProperties (toProperties members) = mapMemberLeaves storable members
  | [], _ => rfl
  | (key, item) :: rest, h => by
    obtain ⟨hitem, hrest⟩ := List.forall_mem_append.1 h
    rw [toProperties, ofProperties, mapMemberLeaves, ofValue_toValue hitem,
      ofProperties_toProperties hrest]

end

end Json

end RecordQuery
