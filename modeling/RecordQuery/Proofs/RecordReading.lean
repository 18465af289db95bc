import Mathlib.Algebra.Group.Nat.Defs
import RecordQuery.Proofs.Checking

/-!
# Reading records

A document is read as records if and only if it is an array of objects, and the first element that
is none is the one that is named (`Json.toRecords_iff`). Every array is a number of objects that are
all there is, or are followed by something else (`Json.exists_objects`), and what comes after that
does not matter.

* `StoredRecord.IsReadFrom`: what is read of an object at an index.
-/

namespace RecordQuery

/-- A record has what the object at an index says of it. -/
structure StoredRecord.IsReadFrom (r : StoredRecord) (index : Nat) (members : Members Json) :
    Prop where
  /-- The identifier is the `guid`, whatever it is. -/
  guid : ∀ guid, Members.find? members "guid" = some guid → r.id = guid.toValue
  /-- Without a `guid` it is the index. -/
  index : Members.find? members "guid" = none → r.id = .ofInt index
  /-- The type is the `type`, if this is a string. -/
  type : ∀ t, r.type? = some t ↔ Members.find? members "type" = some (.string t)
  /-- The properties are the members. -/
  properties : r.properties = members.map fun (key, item) => (key, item.toValue)

/-- Members are read one by one, with their keys. -/
theorem Json.toProperties_eq_map (members : Members Json) :
    toProperties members = members.map fun (key, item) => (key, item.toValue) := by
  induction members with
  | nil => rfl
  | cons entry rest ih =>
    rw [toProperties, ih]
    rfl

namespace StoredRecord

variable {r : StoredRecord} {index : Nat} {members : Members Json}

/-- What is made of an object has what the object says. -/
theorem isReadFrom_ofObject (index : Nat) (members : Members Json) :
    (ofObject index members).IsReadFrom index members where
  guid guid h := by rw [ofObject, h]
  index h := by rw [ofObject, h]
  type t := by
    rw [ofObject]
    dsimp only
    split
    · rename_i s h
      simp [h]
    · rename_i hother
      simpa using hother t
  properties := Json.toProperties_eq_map members

/-- The object leaves nothing of the record open. -/
theorem IsReadFrom.eq_ofObject (h : r.IsReadFrom index members) : r = ofObject index members := by
  have hread := isReadFrom_ofObject index members
  have hid : r.id = (ofObject index members).id := by
    cases hguid : Members.find? members "guid" with
    | some guid => rw [h.guid guid hguid, hread.guid guid hguid]
    | none => rw [h.index hguid, hread.index hguid]
  have htype : r.type? = (ofObject index members).type? :=
    Option.ext fun t => (h.type t).trans (hread.type t).symm
  have hproperties := h.properties.trans hread.properties.symm
  obtain ⟨id, type?, properties⟩ := r
  exact (mk.injEq ..).mpr ⟨hid, htype, hproperties⟩

theorem isReadFrom_iff : r.IsReadFrom index members ↔ r = ofObject index members :=
  ⟨IsReadFrom.eq_ofObject, fun h => h ▸ isReadFrom_ofObject index members⟩

/-- Records are read from objects one by one. -/
theorem forall_isReadFrom_iff {records : List StoredRecord} {objects : List (Members Json)} :
    (∀ i, Option.Rel (IsReadFrom · i ·) records[i]? objects[i]?) ↔
      records = objects.mapIdx ofObject := by
  rw [List.ext_getElem?_iff]
  refine forall_congr' fun i => ?_
  rw [List.getElem?_mapIdx]
  cases objects[i]? with
  | none => cases records[i]? <;> simp
  | some members => cases records[i]? <;> simp [isReadFrom_iff]

end StoredRecord

namespace Json

/-- An array has only objects, or objects up to an element that is none. -/
theorem exists_objects (items : List Json) :
    (∃ objects, items = List.map object objects) ∨
      ∃ objects item rest, items = List.map object objects ++ item :: rest ∧
        ∀ members, item ≠ object members := by
  induction items with
  | nil => exact .inl ⟨[], rfl⟩
  | cons item items ih =>
    by_cases h : ∃ members, item = object members
    · obtain ⟨members, rfl⟩ := h
      rcases ih with ⟨objects, rfl⟩ | ⟨objects, other, rest, rfl, hother⟩
      · exact .inl ⟨members :: objects, rfl⟩
      · exact .inr ⟨members :: objects, other, rest, rfl, hother⟩
    · exact .inr ⟨[], item, items, rfl, fun members hitem => h ⟨members, hitem⟩⟩

/-- A document is an array of objects, an array with something else in it, or no array. -/
theorem array_cases (j : Json) : (∃ objects, j = array (List.map object objects)) ∨
    (∃ objects item rest, j = array (List.map object objects ++ item :: rest) ∧
      ∀ members, item ≠ object members) ∨ ∀ items, j ≠ array items := by
  cases j with
  | array items =>
    rcases exists_objects items with ⟨objects, rfl⟩ | ⟨objects, item, rest, rfl, hitem⟩
    · exact .inl ⟨objects, rfl⟩
    · exact .inr (.inl ⟨objects, item, rest, rfl, hitem⟩)
  | _ => exact .inr (.inr fun items => nofun)

theorem ofElement?_eq_none {item : Json} (h : ∀ members, item ≠ object members) (index : Nat) :
    StoredRecord.ofElement? index item = none := by
  cases item with
  | object members => exact absurd rfl (h members)
  | _ => rfl

/-- Reading stops at the first element that is no object, whatever follows. -/
theorem readRecords_append {item : Json} (h : ∀ members, item ≠ object members)
    (read : List StoredRecord) (index : Nat) (objects : List (Members Json)) (rest : List Json) :
    readRecords read index (objects.map object ++ item :: rest) =
      .error (.notObject (index + objects.length)) := by
  induction objects generalizing read index with
  | nil => rw [List.map_nil, List.nil_append, readRecords, ofElement?_eq_none h]; rfl
  | cons members objects ih =>
    rw [List.map_cons, List.cons_append, readRecords, StoredRecord.ofElement?_object]
    dsimp only
    rw [ih, List.length_cons, Nat.add_right_comm, Nat.add_assoc]

theorem toRecords_objects (objects : List (Members Json)) :
    toRecords (array (objects.map object)) = .ok (objects.mapIdx StoredRecord.ofObject) := by
  simp [toRecords, readRecords_objects]

/-- An array with another element is refused with the index of that. -/
theorem toRecords_append {item : Json} (h : ∀ members, item ≠ object members)
    (objects : List (Members Json)) (rest : List Json) :
    toRecords (array (objects.map object ++ item :: rest)) = .error (.notObject objects.length) := by
  rw [toRecords, readRecords_append h, Nat.zero_add]

theorem toRecords_of_not_array {j : Json} (h : ∀ items, j ≠ array items) :
    j.toRecords = .error .notArray := by
  cases j with
  | array items => exact absurd rfl (h items)
  | _ => rfl

/-- Arrays of objects are all that is read. -/
theorem toRecords_eq_ok_iff {j : Json} {records : List StoredRecord} : j.toRecords = .ok records ↔
    ∃ objects, j = array (List.map object objects) ∧
      records = objects.mapIdx StoredRecord.ofObject := by
  refine ⟨fun h => ?_, ?_⟩
  · rcases j.array_cases with ⟨objects, rfl⟩ | ⟨objects, item, rest, rfl, hitem⟩ | hnone
    · rw [toRecords_objects] at h
      cases h
      exact ⟨objects, rfl, rfl⟩
    · rw [toRecords_append hitem] at h
      cases h
    · rw [toRecords_of_not_array hnone] at h
      cases h
  · rintro ⟨objects, rfl, rfl⟩
    exact toRecords_objects objects

/-- There are two reasons to refuse a document. -/
theorem toRecords_eq_error_iff {j : Json} {e : InputError} : j.toRecords = .error e ↔
    ((∀ items, j ≠ array items) ∧ e = .notArray) ∨
      ∃ objects item rest, j = array (List.map object objects ++ item :: rest) ∧
        (∀ members, item ≠ object members) ∧ e = .notObject objects.length := by
  refine ⟨fun h => ?_, ?_⟩
  · rcases j.array_cases with ⟨objects, rfl⟩ | ⟨objects, item, rest, rfl, hitem⟩ | hnone
    · rw [toRecords_objects] at h
      cases h
    · rw [toRecords_append hitem] at h
      cases h
      exact .inr ⟨objects, item, rest, rfl, hitem, rfl⟩
    · rw [toRecords_of_not_array hnone] at h
      cases h
      exact .inl ⟨hnone, rfl⟩
  · rintro (⟨hnone, rfl⟩ | ⟨objects, item, rest, rfl, hitem, rfl⟩)
    · exact toRecords_of_not_array hnone
    · exact toRecords_append hitem objects rest

end Json

/-- An index that fits in 64 bits is kept as an integer. -/
theorem Value.ofInt_natCast {index : Nat} (h : index < 2 ^ 63) :
    ofInt index = integer (.ofNat index) := by
  rw [ofInt, Integer64.ofInt?_eq_some_iff.2 (Int64.toInt_ofNat_of_lt h)]

/-- Reading succeeds if and only if the document is an array of objects. Then there is one record for
    each object, in their order, and it has what its object says: the identifier is the `guid`, even
    if this is null, or else the index, as an integer, the type is the `type`, if this is a string,
    and the properties are the members. A document that is no array has its own message, and so has
    an array with something that is no object, which names the index of the first such element,
    whatever follows it. -/
theorem Json.toRecords_iff (j : Json) :
    ((∃ records, j.toRecords = .ok records) ↔ ∃ objects, j = array (List.map object objects)) ∧
    (∀ records, j.toRecords = .ok records ↔ ∃ objects, j = array (List.map object objects) ∧
      ∀ i, Option.Rel (StoredRecord.IsReadFrom · i ·) records[i]? objects[i]?) ∧
    (∀ text, j.toRecords.mapError InputError.message = .error text ↔
      ((∀ items, j ≠ array items) ∧ text = "expected a JSON array of objects") ∨
        ∃ objects item rest, j = array (List.map object objects ++ item :: rest) ∧
          (∀ members, item ≠ object members) ∧
          text = "element " ++ toString objects.length ++ " is not an object") ∧
    ∀ index : Nat, index < 2 ^ 63 → Value.ofInt index = .integer (.ofNat index) := by
  have hmessage (text : String) : j.toRecords.mapError InputError.message = .error text ↔
      ∃ e, j.toRecords = .error e ∧ e.message = text := by
    cases j.toRecords <;> simp [Except.mapError]
  refine ⟨?_, fun records => ?_, fun text => (hmessage text).trans ⟨?_, ?_⟩,
    fun index => Value.ofInt_natCast⟩
  · simp only [toRecords_eq_ok_iff]
    exact ⟨fun ⟨_, objects, hj, _⟩ => ⟨objects, hj⟩, fun ⟨objects, hj⟩ => ⟨_, objects, hj, rfl⟩⟩
  · simp only [toRecords_eq_ok_iff, StoredRecord.forall_isReadFrom_iff]
  · rintro ⟨e, he, rfl⟩
    rcases toRecords_eq_error_iff.1 he with ⟨hnone, rfl⟩ | ⟨objects, item, rest, hj, hitem, rfl⟩
    · exact .inl ⟨hnone, rfl⟩
    · exact .inr ⟨objects, item, rest, hj, hitem, rfl⟩
  · rintro (⟨hnone, rfl⟩ | ⟨objects, item, rest, hj, hitem, rfl⟩)
    · exact ⟨_, toRecords_eq_error_iff.2 (.inl ⟨hnone, rfl⟩), rfl⟩
    · exact ⟨_, toRecords_eq_error_iff.2 (.inr ⟨objects, item, rest, hj, hitem, rfl⟩), rfl⟩

/-- A `guid` that is null is an identifier, a type that is no string is none, and what follows a
    number in the place of an object is not read. -/
theorem Json.toRecords_iff_guid_null :
    let objects : List (Members Json) :=
      [[("guid", .null), ("type", .string "book")], [("type", .null)]]
    let records : List StoredRecord :=
      [⟨.null, some "book", [("guid", .null), ("type", .string "book")]⟩,
        ⟨.integer 1, none, [("type", .null)]⟩]
    let broken : Json := .array [.object [], .null, .object [], .string ""]
    1 < 2 ^ 63 ∧ (array (objects.map object)).toRecords = .ok records ∧
      broken.toRecords.mapError InputError.message = .error "element 1 is not an object" := by
  intro objects records broken
  have hindex : Value.ofInt (1 : Nat) = .integer 1 := (toRecords_iff broken).2.2.2 1 (by decide)
  refine ⟨by decide, ((toRecords_iff _).2.1 records).2 ⟨objects, rfl, ?_⟩, ?_⟩
  · refine StoredRecord.forall_isReadFrom_iff.2 ?_
    have hsecond : StoredRecord.ofObject 1 [("type", .null)] =
        ⟨.integer 1, none, [("type", .null)]⟩ := by
      rw [← hindex]
      rfl
    rw [show records = [_, _] from rfl, ← hsecond]
    rfl
  · exact ((toRecords_iff broken).2.2.1 _).2
      (.inr ⟨[[]], .null, [.object [], .string ""], rfl, nofun, by decide⟩)

end RecordQuery
