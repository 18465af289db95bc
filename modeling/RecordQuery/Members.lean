/-!
# Members by name

Things by name, the names in increasing order and none twice, as an object holds its members.

* `Members.find?`: the thing with a name.
* `Members.insert`: adds a thing, in place of one with the same name (`find?_insert`).
* `Members.ofList`: adds several; of those with one name the last one stays.
-/

namespace RecordQuery

/-- Things by name, in increasing order of the names. -/
abbrev Members (α : Type) := List (String × α)

namespace Members

/-- The thing with a name. -/
def find? {α : Type} (members : Members α) (name : String) : Option α := members.lookup name

/-- Adds a thing, in place of one with the same name. -/
def insert {α : Type} (name : String) (item : α) : Members α → Members α
  | [] => [(name, item)]
  | (key, old) :: rest =>
    match compare name key with
    | .lt => (name, item) :: (key, old) :: rest
    | .eq => (name, item) :: rest
    | .gt => (key, old) :: insert name item rest

theorem find?_cons {α : Type} (key other : String) (item : α) (rest : Members α) :
    find? ((key, item) :: rest) other = if other = key then some item else find? rest other := by
  by_cases h : other = key
  · simp [find?, h]
  · simp [find?, List.lookup_cons, beq_false_of_ne h, h]

/-- A thing that was added is found under its name, and all others are found as before. -/
theorem find?_insert {α : Type} (name other : String) (item : α) (members : Members α) :
    find? (insert name item members) other =
      if other = name then some item else find? members other := by
  induction members with
  | nil => rw [insert, find?_cons]
  | cons entry rest ih =>
    obtain ⟨key, old⟩ := entry
    rw [insert]
    split
    · rw [find?_cons]
    · rename_i hkey
      obtain rfl := Std.compare_eq_iff_eq.1 hkey
      rw [find?_cons, find?_cons]
      split <;> rfl
    · rename_i hkey
      have hne : key ≠ name := by
        rintro rfl
        simp [Std.compare_self] at hkey
      rw [find?_cons, ih, find?_cons]
      by_cases h : other = key
      · simp [h, hne]
      · simp [h]

/-- Adds things one after the other. -/
def ofList {α : Type} (entries : List (String × α)) : Members α :=
  entries.foldl (fun members (name, item) => insert name item members) []

end Members

end RecordQuery
