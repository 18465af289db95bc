import RecordQuery.Proofs.Tree

/-!
# Traversals

The listing of the nodes of a tree and the writing of its text keep a list of what is left to do,
so that they do not call themselves once for each level. Both are plain recursions on the tree,
whatever its shape is (`Node.traversals_eq_recursion`).

* `Node.paths`: where the nodes of a tree are. The order of places (`Node.Precedes`) says that a
  node comes before its operands and the left operand before the right one; the nodes are listed by
  their places in this order, which leaves out no place and repeats none.
* `Node.text`: the text of a tree from the texts of its operands.
* `Node.write_eq`: the invariant of writing. What is still to be written follows what has been
  written, tree by tree and mark by mark.
-/

namespace RecordQuery.Node

/-! ### Places -/

mutual

/-- The paths from the root to the nodes of a tree, by recursion on the tree. -/
def paths : Node → List (List Side)
  | ⟨_, l, r⟩ => [] :: ((paths? l).map (.left :: ·) ++ (paths? r).map (.right :: ·))

/-- The paths from an operand to its nodes. -/
def paths? : Option Node → List (List Side)
  | none => []
  | some n => n.paths

end

/-- The order of places: a node before what is below it, and what is below its left operand before
    what is below its right one. -/
def Precedes : List Side → List Side → Prop := List.Lex fun a b => a = .left ∧ b = .right

/-- No place comes before itself. -/
theorem Precedes.ne {path path' : List Side} (h : Precedes path path') : path ≠ path' := by
  rintro rfl
  refine List.lex_irrefl ?_ path h
  rintro side ⟨rfl, hside⟩
  cases hside

@[simp] theorem paths?_none : paths? none = [] := by rw [paths?]

@[simp] theorem paths?_some (n : Node) : paths? (some n) = n.paths := by rw [paths?]

/-- The paths into an operand are those that end at one of its nodes. -/
theorem mem_paths?_iff {o : Option Node} {path : List Side}
    (h : ∀ n, o = some n → (path ∈ n.paths ↔ (n.at? path).isSome)) :
    path ∈ paths? o ↔ (o.bind (·.at? path)).isSome := by
  cases o with
  | none => simp
  | some n => simpa using h n rfl

/-- The paths of a tree are those that end at a node. -/
theorem mem_paths_iff {n : Node} {path : List Side} : path ∈ n.paths ↔ (n.at? path).isSome := by
  induction n generalizing path with
  | node t l r hl hr =>
    cases path with
    | nil => simp [paths, at?]
    | cons side path =>
      have hside : side :: path ∈ paths ⟨t, l, r⟩ ↔ path ∈ paths? (child? ⟨t, l, r⟩ side) := by
        cases side <;> simp [paths, child?]
      rw [hside, at?]
      cases side with
      | left => exact mem_paths?_iff fun n hn => hl n hn
      | right => exact mem_paths?_iff fun n hn => hr n hn

theorem map_at?_paths? {o : Option Node}
    (h : ∀ n, o = some n → n.paths.map n.at? = n.preorder.map some) :
    (paths? o).map (fun path => o.bind (·.at? path)) = (preorder? o).map some := by
  cases o with
  | none => simp [preorder?]
  | some n => simpa [preorder?] using h n rfl

/-- At the paths of a tree, one after the other, are its nodes, each before its operands. -/
theorem map_at?_paths (n : Node) : n.paths.map n.at? = n.preorder.map some := by
  induction n with
  | node t l r hl hr =>
    have hside (side : Side) : at? ⟨t, l, r⟩ ∘ (side :: ·) =
        fun path => (child? ⟨t, l, r⟩ side).bind (·.at? path) := by
      funext path
      rw [Function.comp_apply, at?]
    rw [paths, preorder, List.map_cons, List.map_append, List.map_map, List.map_map, hside, hside,
      child?, child?, map_at?_paths? hl, map_at?_paths? hr, List.map_cons, List.map_append, at?]

/-- The paths into an operand are in the order of places. -/
theorem pairwise_paths? {o : Option Node} (h : ∀ n, o = some n → n.paths.Pairwise Precedes)
    (side : Side) : ((paths? o).map (side :: ·)).Pairwise Precedes := by
  cases o with
  | none => simp
  | some n =>
    rw [paths?_some]
    exact (h n rfl).map _ fun _ _ => List.Lex.cons

/-- The paths of a tree are in the order of places. -/
theorem pairwise_paths (n : Node) : n.paths.Pairwise Precedes := by
  induction n with
  | node t l r hl hr =>
    rw [paths, List.pairwise_cons, List.pairwise_append]
    refine ⟨fun path hpath => ?_, pairwise_paths? hl _, pairwise_paths? hr _,
      fun path hpath path' hpath' => ?_⟩
    · -- The root comes before every path that leads to an operand.
      rcases List.mem_append.1 hpath with hpath | hpath <;>
        obtain ⟨rest, -, rfl⟩ := List.mem_map.1 hpath <;> exact .nil
    · obtain ⟨rest, -, rfl⟩ := List.mem_map.1 hpath
      obtain ⟨rest', -, rfl⟩ := List.mem_map.1 hpath'
      exact .rel ⟨rfl, rfl⟩

theorem length_preorder?_eq {o : Option Node} (h : ∀ n, o = some n → n.preorder.length = n.size) :
    (preorder? o).length = sizeOf? o := by
  cases o with
  | none => simp [preorder?]
  | some n => simpa [preorder?] using h n rfl

theorem length_preorder (n : Node) : n.preorder.length = n.size := by
  induction n with
  | node t l r hl hr =>
    rw [preorder, size_eq, List.length_cons, List.length_append, length_preorder?_eq hl,
      length_preorder?_eq hr]
    simp only
    omega

/-! ### Texts -/

/-- Texts between parentheses and with commas, or nothing if there are none. -/
def enclosed : List String → String
  | [] => ""
  | texts => " (" ++ ", ".intercalate texts ++ ")"

mutual

/-- The text of a tree by recursion on the tree: class and literal of its root, followed by the
    texts of its operands, left first, if it has any. -/
def text : Node → String
  | ⟨t, l, r⟩ => t.kind.label ++ " " ++ t.literal.describe ++ enclosed (text? l ++ text? r)

/-- The text of an operand, if there is one. -/
def text? : Option Node → List String
  | none => []
  | some n => [n.text]

end

/-- The text of a part. -/
def Part.text : Part → String
  | .tree n => n.text
  | .mark s => s

/-- The text of a node is what is written of it at once, and then the parts that follow. -/
theorem text_eq (n : Node) : n.text = n.head ++ String.join (n.operandParts.map Part.text) := by
  obtain ⟨t, l, r⟩ := n
  cases l <;> cases r <;>
    simp [text, text?, enclosed, head, kind, literal, operandParts, Part.text, String.append_assoc]

/-- Writing parts puts their texts after what has been written. -/
theorem write_eq (written : String) (parts : List Part) :
    write written parts = written ++ String.join (parts.map Part.text) := by
  fun_induction write written parts with
  | case1 written => simp
  | case2 written s parts ih =>
    rw [ih, List.map_cons, String.join_cons, Part.text, String.append_assoc]
  | case3 written n parts ih =>
    rw [ih, List.map_append, String.join_append, List.map_cons, String.join_cons, Part.text, text_eq]
    simp only [String.append_assoc]

theorem describe_eq_text (n : Node) : n.describe = n.text := by
  simp [describe, write_eq, Part.text]

/-! ### Traversals -/

/-- A tree is visited node by node: there are paths in the order of places, none of them twice, that
    are all the paths to nodes, and the nodes listed are those at the ends of these paths. This is
    the recursion that puts each node before its operands, left first, so there are as many nodes as
    the recursion on the tree counts; and the text that is written is the text by recursion. -/
theorem traversals_eq_recursion (n : Node) :
    (∃ paths : List (List Side), paths.Pairwise Precedes ∧ paths.Nodup ∧
      (∀ path, path ∈ paths ↔ (n.at? path).isSome) ∧ paths.map n.at? = n.nodes.map some) ∧
    n.nodes = n.preorder ∧ n.nodes.length = n.size ∧ n.describe = n.text := by
  have hnodup : n.paths.Nodup := n.pairwise_paths.imp Precedes.ne
  refine ⟨⟨n.paths, n.pairwise_paths, hnodup, fun path => mem_paths_iff, ?_⟩, n.nodes_eq_preorder,
    ?_, n.describe_eq_text⟩
  · rw [nodes_eq_preorder, map_at?_paths]
  · rw [nodes_eq_preorder, length_preorder]

end RecordQuery.Node
