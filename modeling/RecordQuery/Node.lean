import RecordQuery.Token

/-!
# Expression trees

A node is a token with the operands it asks for. A chain such as `a = 1 OR a = 2 OR …` makes a tree
as deep as the chain is long, so whatever visits a whole tree keeps a list of what is left to do
instead of calling itself.

* `Node.nodes`: the nodes of a tree, each before its operands, left first.
* `Node.fold`: the value of a tree from a function that combines the values of operands; the
  function keeps a state and may fail.
* `Node.copy`: a tree put together anew by a fold.
* `Node.describe`: the text of a tree.
-/

namespace RecordQuery

/-- A token with its operands. -/
structure Node where
  /-- The token. -/
  token : Token
  /-- The operand before it. -/
  left : Option Node
  /-- The operand after it. -/
  right : Option Node

namespace Node

/-- A token without operands. -/
def ofToken (t : Token) : Node := ⟨t, none, none⟩

/-- The class of a node. -/
def kind (n : Node) : TokenKind := n.token.kind

/-- The literal of a node. -/
def literal (n : Node) : Literal := n.token.literal

/-- The descriptor of a node. -/
def descriptor (n : Node) : Descriptor := n.token.descriptor

/-- The type of a node's value. -/
def result (n : Node) : Option EvalType := n.descriptor.result

/-- The operand on a side. -/
def child? (n : Node) : Side → Option Node
  | .left => n.left
  | .right => n.right

/-- A node with another operand on a side, or none. -/
def withChild (n : Node) (side : Side) (child : Option Node) : Node :=
  match side with
  | .left => ⟨n.token, child, n.right⟩
  | .right => ⟨n.token, n.left, child⟩

/-- An operand is expected on a side and there is none. -/
def isMissing (n : Node) (side : Side) : Bool :=
  (n.descriptor.expected side).isSome && (n.child? side).isNone

/-- An expected operand is missing. -/
def isIncomplete (n : Node) : Bool := n.isMissing .left || n.isMissing .right

/-- A tree that is true on every record. -/
def alwaysTrue : Node :=
  ofToken
    { descriptor :=
        { kind := .boolVal, reservedWord := some "true", result := some .primitive
          operator := some (.boolean true) }
      literal := .text "true" }

/-- The number of nodes of a tree. -/
def size : Node → Nat
  | ⟨_, l, r⟩ =>
    1 + (match l with | none => 0 | some l => l.size) +
      match r with | none => 0 | some r => r.size

/-- The number of nodes of an operand. -/
def sizeOf? : Option Node → Nat
  | none => 0
  | some n => n.size

/-- The number of nodes of several trees. -/
def totalSize (trees : List Node) : Nat := trees.foldr (fun n total => n.size + total) 0

@[simp] theorem sizeOf?_none : sizeOf? none = 0 := rfl

@[simp] theorem sizeOf?_some (n : Node) : sizeOf? (some n) = n.size := rfl

theorem size_eq (n : Node) : n.size = 1 + sizeOf? n.left + sizeOf? n.right := by
  obtain ⟨t, l, r⟩ := n
  cases l <;> cases r <;> rfl

/-! ### Visiting -/

/-- The nodes of several trees, one tree after the other, put before those visited already, last
    first. -/
def visit (visited : List Node) : List Node → List Node
  | [] => visited.reverse
  | n :: pending => visit (n :: visited) (n.left.toList ++ (n.right.toList ++ pending))
termination_by pending => totalSize pending
decreasing_by
  have h := size_eq n
  cases hl : n.left <;> cases hr : n.right <;> simp [totalSize, hl, hr] at h ⊢ <;> omega

/-- The nodes of a tree, each before its operands, left first. -/
def nodes (n : Node) : List Node := visit [] [n]

/-! ### Folding -/

/-- What a fold has still to do with a tree. -/
inductive Frame where
  /-- Enters a tree. -/
  | enter (n : Node)
  /-- Combines a node with the values of its operands, which have been folded. -/
  | combine (n : Node)

/-- How much work a frame stands for. -/
def Frame.weight : Frame → Nat
  | .enter n => 2 * n.size
  | .combine _ => 1

/-- How much work frames stand for in all. -/
def Frame.totalWeight (frames : List Frame) : Nat :=
  frames.foldr (fun f total => f.weight + total) 0

/-- The frames that enter the operands of a node, left first. -/
def operandFrames (n : Node) : List Frame := (n.left.toList ++ n.right.toList).map .enter

/-- Takes the value of an operand, if there is one, off the values of finished trees. -/
def takeValue {α : Type} (operand : Option Node) (finished : List α) : Option α × List α :=
  match operand with
  | some _ => (finished.head?, finished.tail)
  | none => (none, finished)

/-- The values of the operands of a node, taken off the values of finished trees, the right one
    first; and the values that are left. -/
def operandValues {α : Type} (n : Node) (finished : List α) : Option α × Option α × List α :=
  let (right, finished) := takeValue n.right finished
  let (left, finished) := takeValue n.left finished
  (left, right, finished)

/-- Works off the frames, the next one first. The values of finished trees are kept, the latest
    first; the first failure ends the fold. -/
def foldFrames {α ε σ : Type} (combine : Node → Option α → Option α → σ → Except ε α × σ)
    (frames : List Frame) (finished : List α) (state : σ) : Except ε (List α) × σ :=
  match frames with
  | [] => (.ok finished, state)
  | .enter n :: frames =>
    foldFrames combine (n.operandFrames ++ .combine n :: frames) finished state
  | .combine n :: frames =>
    let (left, right, finished) := n.operandValues finished
    match combine n left right state with
    | (.ok value, state) => foldFrames combine frames (value :: finished) state
    | (.error e, state) => (.error e, state)
termination_by Frame.totalWeight frames
decreasing_by
  · have h := size_eq n
    cases hl : n.left <;> cases hr : n.right <;>
      simp [operandFrames, Frame.totalWeight, Frame.weight, hl, hr] at h ⊢ <;> omega
  · simp [Frame.totalWeight, Frame.weight]

/-- Folds a tree from the leaves up. `combine` gets each node after its operands, left first, with
    their values; the first failure ends the fold. -/
def fold {α ε σ : Type} (combine : Node → Option α → Option α → σ → Except ε α × σ) (n : Node)
    (state : σ) : Except ε α × σ :=
  match foldFrames combine n.operandFrames [] state with
  | (.ok finished, state) =>
    let (left, right, _) := n.operandValues finished
    combine n left right state
  | (.error e, state) => (.error e, state)

/-- A node with other operands, the token being the same. -/
def rebuild (n : Node) (left right : Option Node) (_ : Unit) : Except Empty Node × Unit :=
  (.ok ⟨n.token, left, right⟩, ())

/-- A tree put together anew, from the leaves up. -/
def copy (n : Node) : Node :=
  match n.fold rebuild () with
  | (.ok copy, _) => copy

/-- The number of nodes on the longest way from the root to a leaf. -/
def depth (n : Node) : Nat :=
  let combine (_ : Node) (l r : Option Nat) (_ : Unit) : Except Empty Nat × Unit :=
    (.ok (max (l.getD 0) (r.getD 0) + 1), ())
  match n.fold combine () with
  | (.ok depth, _) => depth

/-! ### Paths -/

/-- The node at the end of a path from the root. -/
def at? (n : Node) : List Side → Option Node
  | [] => some n
  | side :: path => (n.child? side).bind fun child => child.at? path

/-- Empties the operand at the end of a path. Nothing changes if there is no such path. -/
def prune (n : Node) : List Side → Node
  | [] => n
  | [side] => n.withChild side none
  | side :: path =>
    match n.child? side with
    | none => n
    | some child => n.withChild side (some (child.prune path))

/-! ### Text -/

/-- A part of the text of a tree that is still to be written. -/
inductive Part where
  /-- The text of a tree. -/
  | tree (n : Node)
  /-- A mark between trees. -/
  | mark (text : String)

/-- The number of steps that writing a part takes. -/
def Part.weight : Part → Nat
  | .tree n => 3 * n.size
  | .mark _ => 1

/-- The number of steps that writing several parts takes. -/
def Part.totalWeight (parts : List Part) : Nat :=
  parts.foldr (fun p total => p.weight + total) 0

/-- The marks and operands that follow the head of a node. -/
def operandParts (n : Node) : List Part :=
  match n.left, n.right with
  | none, none => []
  | some l, none => [.tree l, .mark ")"]
  | none, some r => [.tree r, .mark ")"]
  | some l, some r => [.tree l, .mark ", ", .tree r, .mark ")"]

/-- Class and literal of a node, and what opens its operands. -/
def head (n : Node) : String :=
  n.kind.label ++ " " ++ n.literal.describe ++
    if n.left.isNone && n.right.isNone then "" else " ("

/-- Writes parts after a text. -/
def write (written : String) : List Part → String
  | [] => written
  | .mark text :: parts => write (written ++ text) parts
  | .tree n :: parts => write (written ++ n.head) (n.operandParts ++ parts)
termination_by parts => Part.totalWeight parts
decreasing_by
  · simp [Part.totalWeight, Part.weight]
  · have h := size_eq n
    cases hl : n.left <;> cases hr : n.right <;>
      simp [operandParts, Part.totalWeight, Part.weight, hl, hr] at h ⊢ <;> omega

/-- The text of a tree: class and literal of its root, then its operands in parentheses. -/
def describe (n : Node) : String := write "" [.tree n]

end Node

end RecordQuery
