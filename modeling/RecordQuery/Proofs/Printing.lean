import RecordQuery.Proofs.Checking
import RecordQuery.Proofs.Conversion

/-!
# Records as documents

An object that is read as a record and written again keeps its members and all that is in them, at
any depth. The only exceptions are integers that need all 64 bits of a word: a value has its integers
with a sign, so these are kept as doubles. The same holds of what a check writes, which are the
objects of its document that match.

* `StoredRecord.toJson_ofJson?`, `StoredRecord.toJson_ofObject`: one object.
* `CheckOptions.check_output`: the records that a check writes.
* `StoredRecord.toJson_of_writable`: both, and which objects come out as they are.
-/

namespace RecordQuery

namespace CheckOptions

variable {o : CheckOptions} {cs : Comparisons} {params : Params} {input : String}
  {objects : List (Members Json)} {out : Json}

/-- What a check has as its output are the records of the document that match. -/
theorem check_output (hparams : Params.SuppliedBy o.params params) (hinput : o.input = some input)
    (hobjects : Json.ofText? input = some (.array (objects.map .object)))
    (h : o.check { comparisons := cs } = .ok (.output out)) :
    ∃ found : List StoredRecord, out = .array (found.map StoredRecord.toJson) ∧
      found.Perm ((objects.mapIdx StoredRecord.ofObject).filter fun r =>
        (Compiled.ofText .standard o.conditions o.clause).accepts params r.view) := by
  cases hready : o.query.buildError? { comparisons := cs } with
  | some e =>
    rw [check, hready] at h
    cases h
  | none =>
    cases hrun : o.compileOnly with
    | true =>
      rw [check, hready, hrun] at h
      cases h
    | false =>
      rw [check_eq hready hrun hparams hinput hobjects,
        Compiled.filterAndSort_records (Compiled.ignoresPatterns_ofText _ _)] at h
      generalize List.findSome? _ _ = failure? at h
      cases failure? with
      | some e => cases h
      | none =>
        cases h
        exact ⟨_, rfl, Compiled.sort_perm ..⟩

end CheckOptions

namespace StoredRecord

variable {members : Members Json}

/-- A record that is read from an object is written as this object, up to its largest integers. -/
theorem toJson_ofJson? (id : Value) (h : (Json.object members).IsWritable) :
    (ofJson? id (.object members)).map toJson =
      some ((Json.object members).mapLeaves Json.storable) :=
  congrArg (some ∘ Json.object) (Json.ofProperties_toProperties h)

/-- An object of a document comes out as it is, up to its largest integers. -/
theorem toJson_ofObject (index : ℕ) (h : (Json.object members).IsWritable) :
    (ofObject index members).toJson = (Json.object members).mapLeaves Json.storable :=
  congrArg Json.object (Json.ofProperties_toProperties h)

/-- An object that is read as a record, with any identifier, and written again is the same object but
    for integers that have 64 bits only without a sign, at any depth: these become the nearest
    doubles. So it is the same object if and only if there are none. And what a check has as its
    output are the objects of its document that match, each as often as it occurs there, the same
    but for those integers. -/
theorem toJson_of_writable :
    (∀ (id : Value) (members : Members Json), (Json.object members).IsWritable →
      (ofJson? id (.object members)).map toJson =
          some ((Json.object members).mapLeaves Json.storable) ∧
        ((ofJson? id (.object members)).map toJson = some (.object members) ↔
          ∀ n, Json.integer n ∈ (Json.object members).leaves → n ≤ 2 ^ 63 - 1)) ∧
    ∀ (o : CheckOptions) (cs : Comparisons) (params : Params) (input : String)
      (objects : List (Members Json)) (out : Json),
      Params.SuppliedBy o.params params → o.input = some input →
      Json.ofText? input = some (.array (objects.map .object)) →
      (∀ members ∈ objects, (Json.object members).IsWritable) →
      o.check { comparisons := cs } = .ok (.output out) →
      let c := Compiled.ofText .standard o.conditions o.clause
      let matching := objects.zipIdx.filter fun item =>
        c.accepts params (ofObject item.2 item.1).view
      ∃ items, out = .array items ∧
        items.Perm (matching.map fun item => (Json.object item.1).mapLeaves Json.storable) := by
  refine ⟨fun id members h => ⟨toJson_ofJson? id h, ?_⟩, ?_⟩
  · rw [toJson_ofJson? id h, Option.some_inj, Json.mapLeaves_eq_self_iff]
    simp only [Json.storable_eq_self_iff, Int.le_sub_one_iff]
    exact ⟨fun hall n hn => hall _ hn n rfl, fun hall a ha n han => hall n (han ▸ ha)⟩
  · intro o cs params input objects out hparams hinput hobjects hwritable hcheck c matching
    obtain ⟨found, rfl, hfound⟩ := CheckOptions.check_output hparams hinput hobjects hcheck
    refine ⟨_, rfl, (hfound.map toJson).trans (.of_eq ?_)⟩
    rw [List.mapIdx_eq_zipIdx_map, List.filter_map, List.map_map]
    refine List.map_congr_left fun item hitem => toJson_ofObject item.2 (hwritable item.1 ?_)
    exact List.fst_mem_of_mem_zipIdx (List.mem_of_mem_filter hitem)

/-- The largest integer that a text can hold, in an array of an object and in a document that is
    checked against no condition. -/
theorem toJson_of_writable_largest :
    let nested : Members Json :=
      [("list", .array [.integer 18446744073709551615, .real ⟨0x8000000000000000⟩]),
        ("n", .integer 9223372036854775807)]
    let input := "[\x7b\"n\":18446744073709551615\x7d]"
    let o : CheckOptions := { conditions := "", input := some input }
    let objects : List (Members Json) := [[("n", .integer 18446744073709551615)]]
    let out : Json := .array [.object [("n", .real (.ofInt 18446744073709551615))]]
    (Json.object nested).IsWritable ∧
      (ofJson? .null (.object nested)).map toJson = some (.object
        [("list", .array [.real (.ofInt 18446744073709551615), .real ⟨0x8000000000000000⟩]),
          ("n", .integer 9223372036854775807)]) ∧
      o.input = some input ∧ Json.ofText? input = some (.array (objects.map .object)) ∧
      (∀ members ∈ objects, (Json.object members).IsWritable) ∧ o.check {} = .ok (.output out) ∧
      ∃ items, out = .array items ∧ items.Perm
        [.object [("n", .real (.ofInt 18446744073709551615))]] := by
  intro nested input o objects out
  obtain ⟨hrecord, hcheck⟩ := toJson_of_writable
  have hnested : (Json.object nested).IsWritable := by decide
  have htext : Json.ofText? "[\x7b\"n\":18446744073709551615\x7d]" =
      some (.array [.object [("n", .integer 18446744073709551615)]]) := by rfl
  have hobjects : Json.ofText? input = some (.array (objects.map .object)) := htext
  have hwritable : ∀ members ∈ objects, (Json.object members).IsWritable := by decide
  have htokens : Grammar.standard.tokenize "" = [] := Lexer.tokens_of_next?_eq_none rfl
  have htree : (Compiled.ofText .standard "" none).tree = .ok .alwaysTrue := by
    show buildTree (Grammar.standard.tokenize "") = _
    rw [htokens]
    rfl
  have hholds (record : Record) :
      (Compiled.ofText .standard "" none).holdsOn .none record = .ok true := by
    rw [Compiled.holdsOn, Compiled.test, htree]
    simp only [Node.holds, Node.evaluate, Node.fold_eq_recurse, Node.recurse_eq]
    rfl
  have hready : o.query.buildError? {} = none := by
    rw [Query.buildError?, show o.query.compiledIn {} = .ofText .standard "" none from rfl, htree]
  have hout : o.check {} = .ok (.output out) := by
    rw [CheckOptions.check_eq hready rfl .nothing rfl hobjects,
      Compiled.filterAndSort_records (Compiled.ignoresPatterns_ofText _ _)]
    simp only [o, Compiled.failure?, Compiled.accepts, hholds]
    rfl
  obtain ⟨items, hitems, hperm⟩ :=
    hcheck o {} .none input objects out .nothing rfl hobjects hwritable hout
  refine ⟨hnested, (hrecord .null nested hnested).1, rfl, hobjects, hwritable, hout, items, hitems,
    hperm.trans (.of_eq ?_)⟩
  simp only [o, Compiled.accepts, hholds]
  rfl

/-- Not every object comes out as it is: the integer after the largest 64-bit integer becomes a
    double. -/
theorem not_toJson_ofJson? :
    ¬∀ (id : Value) (members : Members Json), (Json.object members).IsWritable →
      (ofJson? id (.object members)).map toJson = some (.object members) := by
  intro h
  have hwritable : (Json.object [("n", .integer 9223372036854775808)]).IsWritable := by decide
  have hsame := h (.integer 0) _ hwritable
  rw [toJson_ofJson? _ hwritable, Option.some_inj, Json.mapLeaves_eq_self_iff] at hsame
  have hlarge := (Json.storable_eq_self_iff _).1 (hsame _ List.mem_cons_self) _ rfl
  exact absurd hlarge (by decide)

end StoredRecord

end RecordQuery
