import Mathlib.Data.List.Nodup
import RecordQuery.Proofs.Compilation
import RecordQuery.Proofs.Lexing.Extension

/-!
# Registrations

A grammar that is built by registering descriptors is a map from ids to descriptors that remembers
in which order the ids came. Registering under an id again changes what the id stands for and
nothing else: the id keeps its place, and nothing of the descriptor that it stood for is left. This
holds after any registrations, from the empty grammar or the standard one on, which is built in the
same way (`isRegistryOf_registerAll`).

* `Grammar.registerAll`: several registrations, one after the other.
* `Registration.ids`, `Registration.current?`: the ids in the order in which they came, and the
  descriptor that was registered last under an id.
* `Grammar.Lists`: the descriptors of a grammar are the current ones in the order of the ids. Every
  registration keeps this (`Grammar.Lists.register`).
* `Grammar.IsRegistryOf`: what can be seen of a grammar after some registrations.
-/

namespace RecordQuery

/-- A descriptor with the id that it is registered under. -/
abbrev Registration := String × Descriptor

namespace Registration

/-- The ids in the order in which they were first registered. -/
def ids (rs : List Registration) : List String := (rs.map (·.1)).eraseDups

/-- The descriptor that was registered last under an id. It carries the id. -/
def current? (rs : List Registration) (id : String) : Option Descriptor :=
  (rs.reverse.lookup id).map ({ · with id := id })

/-- The descriptor to choose for a property: that of the latest id whose current descriptor has it,
    and none if there is no such id. -/
def IsChoice (rs : List Registration) (p : Descriptor → Bool) : Option Descriptor → Prop
  | some d => ∃ before id after, ids rs = before ++ id :: after ∧ current? rs id = some d ∧
      p d = true ∧ ∀ later ∈ after, ∀ e, current? rs later = some e → p e = false
  | none => ∀ id d, current? rs id = some d → p d = false

end Registration

namespace Grammar

/-- Registers descriptors one after the other. -/
def registerAll (g : Grammar) (rs : List Registration) : Grammar :=
  rs.foldl (fun g r => g.register r.1 r.2) g

/-- The ids of a grammar. -/
def ids (g : Grammar) : List String := g.entries.map (·.id)

/-- The registrations that the standard grammar is made of. -/
def standardRegistrations : List Registration := standard.entries.map fun d => (d.id, d)

/-- The descriptors of a grammar are the current ones in the order of the ids. -/
def Lists (g : Grammar) (rs : List Registration) : Prop :=
  g.entries = (Registration.ids rs).filterMap (Registration.current? rs)

/-- What a grammar is after some registrations. -/
structure IsRegistryOf (g : Grammar) (rs : List Registration) : Prop where
  /-- The ids are listed in the order in which they were first registered. -/
  ids_eq : g.ids = Registration.ids rs
  /-- No id is listed twice. -/
  nodup : g.ids.Nodup
  /-- There are as many descriptors as ids. -/
  size_eq : g.size = g.ids.length
  /-- An id stands for what was registered last under it. -/
  get?_eq : ∀ id, g.get? id = Registration.current? rs id
  /-- For a first character the latest id is chosen whose current descriptor accepts it. -/
  startingWith : ∀ c, Registration.IsChoice rs (·.startsWith c) (g.startingWith? c)
  /-- For a word the latest id is chosen whose current descriptor reserves it. -/
  reserved : ∀ word, Registration.IsChoice rs (·.reservedWord == some word) (g.reserved? word)
  /-- Registering under an id again changes no places. -/
  again : ∀ id ∈ g.ids, ∀ d, (g.register id d).ids = g.ids
  /-- Nothing is left of a descriptor after another was registered under its id. -/
  replaced : ∀ before between after id old new,
    rs = before ++ (id, old) :: (between ++ (id, new) :: after) →
      ∀ other, g = empty.registerAll (before ++ (id, other) :: (between ++ (id, new) :: after))

end Grammar

variable {g g' : Grammar} {rs rs' : List Registration} {d e : Descriptor} {id other : String}

/-! ### The history -/

namespace Registration

theorem mem_ids_iff : id ∈ ids rs ↔ id ∈ rs.map (·.1) := List.mem_eraseDups

/-- A new id comes last, and an id that is there already stays where it is. -/
theorem ids_concat (rs : List Registration) (id : String) (d : Descriptor) :
    ids (rs ++ [(id, d)]) = if id ∈ ids rs then ids rs else ids rs ++ [id] := by
  have hremove : [id].removeAll (rs.map (·.1)) = if id ∈ ids rs then [] else [id] := by
    by_cases hid : id ∈ rs.map (·.1)
    · simp only [mem_ids_iff, List.removeAll, List.elem_eq_mem, hid, List.filter_singleton]
      rfl
    · simp only [mem_ids_iff, List.removeAll, List.elem_eq_mem, hid, List.filter_singleton]
      rfl
  rw [ids, List.map_append, List.eraseDups_append, List.map_singleton, hremove]
  split
  · exact List.append_nil _
  · rfl

theorem nodup_ids (rs : List Registration) : (ids rs).Nodup := by
  induction rs using List.reverseRecOn with
  | nil => exact .nil
  | append_singleton rs r ih =>
    rw [ids_concat]
    split
    · exact ih
    · rename_i hid
      rw [← List.concat_eq_append]
      exact ih.concat hid

/-- The last registration is current, and says nothing about other ids. -/
theorem current?_concat (rs : List Registration) (id : String) (d : Descriptor) (other : String) :
    current? (rs ++ [(id, d)]) other =
      if other = id then some { d with id := id } else current? rs other := by
  rw [current?, List.reverse_append, List.reverse_singleton, List.singleton_append,
    List.lookup_cons]
  by_cases h : other = id
  · subst h
    simp
  · simp [h, beq_false_of_ne h, current?]

theorem id_of_current? (h : current? rs id = some d) : d.id = id := by
  obtain ⟨e, -, rfl⟩ := Option.map_eq_some_iff.1 h
  rfl

/-- There is a current descriptor for the ids listed and for no other. -/
theorem exists_current?_iff : (∃ d, current? rs id = some d) ↔ id ∈ ids rs := by
  induction rs using List.reverseRecOn with
  | nil => simp [current?, ids]
  | append_singleton rs r ih =>
    rw [current?_concat, mem_ids_iff, List.map_append, List.mem_append, ← mem_ids_iff]
    by_cases h : id = r.1
    · simp [h]
    · simp [h, ih]

/-- What is registered last under an id makes all that was registered before under it irrelevant. -/
theorem current?_replaced (before between after : List Registration) (id : String)
    (old new other : Descriptor) (i : String) :
    current? (before ++ (id, old) :: (between ++ (id, new) :: after)) i =
      current? (before ++ (id, other) :: (between ++ (id, new) :: after)) i := by
  by_cases hi : i = id
  · subst hi
    simp [current?, List.lookup_append]
  · simp [current?, List.lookup_append, List.lookup_cons, beq_false_of_ne hi]

end Registration

namespace Grammar

open Registration

/-! ### One registration -/

/-- Placing a descriptor under an id that is there puts it in place of the one with that id. -/
theorem place_eq_map {entries : List Descriptor} (hnodup : (entries.map (·.id)).Nodup)
    (hid : d.id ∈ entries.map (·.id)) :
    place d entries = entries.map fun e => if e.id = d.id then d else e := by
  induction entries with
  | nil => cases hid
  | cons e entries ih =>
    obtain ⟨he, hnodup⟩ := List.nodup_cons.1 hnodup
    rw [place, List.map_cons]
    split
    · rename_i heq
      -- The id is not there again.
      have hrest : ∀ x ∈ entries, (if x.id = d.id then d else x) = x := fun x hx =>
        if_neg fun hxd => he (List.mem_map.2 ⟨x, hx, hxd.trans heq.symm⟩)
      rw [List.map_congr_left hrest, List.map_id']
    · rename_i hne
      rw [ih hnodup ((List.mem_cons.1 hid).resolve_left (Ne.symm hne))]

theorem lists_empty : empty.Lists [] := rfl

namespace Lists

/-- The descriptors are those that are current under their ids. -/
theorem mem_entries_iff (h : g.Lists rs) : d ∈ g.entries ↔ current? rs d.id = some d := by
  rw [h, List.mem_filterMap]
  constructor
  · rintro ⟨id, -, hd⟩
    rwa [id_of_current? hd]
  · intro hd
    exact ⟨d.id, exists_current?_iff.1 ⟨d, hd⟩, hd⟩

theorem ids_eq (h : g.Lists rs) : g.ids = Registration.ids rs := by
  have hid : ∀ id ∈ Registration.ids rs, (current? rs id).map (·.id) = some id := by
    intro id hid
    obtain ⟨d, hd⟩ := exists_current?_iff.2 hid
    rw [hd, Option.map_some, id_of_current? hd]
  rw [Grammar.ids, h, List.map_filterMap, List.filterMap_congr hid, List.filterMap_some]

/-- A registration keeps a grammar in agreement with its history. -/
theorem register (h : g.Lists rs) (id : String) (d : Descriptor) :
    (g.register id d).Lists (rs ++ [(id, d)]) := by
  have hnodup : (g.entries.map (·.id)).Nodup := by
    rw [← Grammar.ids, h.ids_eq]
    exact nodup_ids rs
  have hmem : id ∈ g.entries.map (·.id) ↔ id ∈ Registration.ids rs := by
    rw [← h.ids_eq, Grammar.ids]
  rw [Lists, Grammar.register, ids_concat]
  -- An id that is there gets its descriptor in place. A new one comes last and leaves the others.
  split
  · rename_i hid
    rw [place_eq_map hnodup (hmem.2 hid), h, List.map_filterMap]
    refine List.filterMap_congr fun other hother => ?_
    obtain ⟨e, he⟩ := exists_current?_iff.2 hother
    rw [current?_concat, he, Option.map_some, id_of_current? he]
    split <;> rfl
  · rename_i hid
    have hne : ∀ e ∈ g.entries, e.id ≠ id := fun e he heq =>
      hid (hmem.1 (List.mem_map.2 ⟨e, he, heq⟩))
    have hold : ∀ other ∈ Registration.ids rs,
        current? (rs ++ [(id, d)]) other = current? rs other := by
      intro other hother
      have hother : other ≠ id := fun heq => hid (heq ▸ hother)
      rw [current?_concat, if_neg hother]
    rw [place_of_forall_ne hne, List.filterMap_append, List.filterMap_congr hold, ← h]
    simp [current?_concat]

theorem registerAll (h : g.Lists rs) (rs' : List Registration) :
    (g.registerAll rs').Lists (rs ++ rs') := by
  induction rs' generalizing g rs with
  | nil => rwa [List.append_nil]
  | cons r rs' ih =>
    have hstep := ih (h.register r.1 r.2)
    rwa [List.append_assoc, List.singleton_append] at hstep

/-- A descriptor is found from the end of the list if its id is the latest to have the property. -/
theorem isChoice (h : g.Lists rs) (p : Descriptor → Bool) :
    IsChoice rs p (g.entries.reverse.find? p) := by
  cases hfind : g.entries.reverse.find? p with
  | none =>
    intro id d hd
    obtain rfl := id_of_current? hd
    simpa using List.find?_eq_none.1 hfind d (List.mem_reverse.2 (h.mem_entries_iff.2 hd))
  | some d =>
    obtain ⟨hp, before, after, hentries, hafter⟩ := last_of_find?_reverse hfind
    refine ⟨before.map (·.id), d.id, after.map (·.id), ?_, ?_, hp, ?_⟩
    · rw [← h.ids_eq, Grammar.ids, hentries, List.map_append, List.map_cons]
    · exact h.mem_entries_iff.1 (by simp [hentries])
    · intro later hlater e he
      obtain ⟨e', he', rfl⟩ := List.mem_map.1 hlater
      have hmem : e' ∈ g.entries := by
        rw [hentries]
        exact List.mem_append_right _ (List.mem_cons_of_mem _ he')
      have hcurrent := h.mem_entries_iff.1 hmem
      obtain rfl := Option.some.inj (hcurrent.symm.trans he)
      exact hafter e' he'

/-- An id stands for its current descriptor. -/
theorem get?_eq (h : g.Lists rs) (id : String) : g.get? id = current? rs id := by
  cases hfind : g.get? id with
  | some d =>
    obtain rfl : d.id = id := by simpa using List.find?_some hfind
    exact (h.mem_entries_iff.1 (List.mem_of_find?_eq_some hfind)).symm
  | none =>
    cases hcurrent : current? rs id with
    | none => rfl
    | some d =>
      have hid := id_of_current? hcurrent
      have hd : d ∈ g.entries := h.mem_entries_iff.2 (by rw [hid, hcurrent])
      exact absurd hid (by simpa using List.find?_eq_none.1 hfind d hd)

/-- Only what is listed counts. -/
theorem unique (h : g.Lists rs) (h' : g'.Lists rs')
    (hids : Registration.ids rs = Registration.ids rs')
    (hcurrent : ∀ id, current? rs id = current? rs' id) : g = g' := by
  have hentries : g.entries = g'.entries := by
    rw [h, h', hids, funext hcurrent]
  cases g
  cases g'
  exact congrArg Grammar.mk hentries

/-- A grammar that agrees with its history is what the history makes it. -/
theorem isRegistryOf (h : g.Lists rs) : g.IsRegistryOf rs where
  ids_eq := h.ids_eq
  nodup := h.ids_eq ▸ nodup_ids rs
  size_eq := (List.length_map _).symm
  get?_eq := h.get?_eq
  startingWith c := h.isChoice _
  reserved word := h.isChoice _
  again id hid d := by
    rw [(h.register id d).ids_eq, ids_concat, if_pos (h.ids_eq ▸ hid), h.ids_eq]
  replaced before between after id old new hrs other := by
    -- Both histories have the same ids in the same order, and the same current descriptors.
    refine h.unique (lists_empty.registerAll _) ?_ fun i => ?_
    · rw [hrs, List.nil_append, Registration.ids, Registration.ids]
      simp
    · rw [hrs, List.nil_append]
      exact current?_replaced before between after id old new other i

end Lists

/-! ### Several registrations -/

/-- The standard grammar is made by registering its descriptors. -/
theorem registerAll_standardRegistrations : empty.registerAll standardRegistrations = standard :=
  rfl

/-- The standard grammar agrees with the registrations that it is made of. -/
theorem lists_standard : standard.Lists standardRegistrations :=
  registerAll_standardRegistrations ▸ lists_empty.registerAll standardRegistrations

end Grammar

/-- The registration that a request asks for in the shared grammar. -/
def Request.registration? : Request → Option Registration
  | .extend id d => some (id, d)
  | _ => none

/-- Registrations are all that changes the shared grammar. -/
theorem Session.grammar_after (s : Session) (requests : List Request) :
    (s.after requests).environment.grammar =
      s.environment.grammar.registerAll (requests.filterMap (·.registration?)) := by
  induction requests generalizing s with
  | nil => rfl
  | cons r requests ih =>
    rw [after_cons, ih, environment_step]
    cases r <;> rfl

namespace Grammar

/-- After any registrations in the empty grammar or the standard one the ids are pairwise distinct
    and stand in the order in which they were first registered; each stands for what was registered
    last under it; and for a first character or a word the latest id is chosen that now accepts it.
    So registering under an id again moves nothing, and what the id stood for before has no effect
    any more. The grammar that queries share is the standard one after the registrations that were
    asked for. -/
theorem isRegistryOf_registerAll (rs : List Registration) :
    (empty.registerAll rs).IsRegistryOf rs ∧
      empty.registerAll standardRegistrations = standard ∧
      (standard.registerAll rs).IsRegistryOf (standardRegistrations ++ rs) ∧
      ∀ requests, (Session.after {} requests).environment.grammar.IsRegistryOf
        (standardRegistrations ++ requests.filterMap (·.registration?)) := by
  refine ⟨(lists_empty.registerAll rs).isRegistryOf, registerAll_standardRegistrations,
    (lists_standard.registerAll rs).isRegistryOf, fun requests => ?_⟩
  rw [Session.grammar_after]
  exact (lists_standard.registerAll _).isRegistryOf

end Grammar

end RecordQuery
