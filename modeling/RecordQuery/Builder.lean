import RecordQuery.Node

/-!
# Building trees

From a list of tokens to one expression tree, in one pass from left to right and without a table of
precedences. The nodes reached so far are on a stack. A node that wants a left operand takes the
node before it; a node that wants nothing more becomes the right operand of the node before it, if
that one wants it. A pair of parentheses is dropped as soon as it closes, so that what it held
combines with what stands around it.

* `Builder.examine`: what happens to the node on top of the stack.
* `Builder.settle`: examines until nothing is to be done; each repetition leaves a smaller stack
  (`stack_length_of_examine`).
* `buildTree`: the tree of a list of tokens, or every reason why there is none.
-/

namespace RecordQuery

/-- A reason why tokens are not one tree. -/
inductive Diagnostic where
  /-- A token that the grammar does not know. -/
  | unknownToken (literal : Literal)
  /-- A closing parenthesis that was never opened. -/
  | unmatchedClosing
  /-- Some opening parenthesis is never closed. -/
  | unmatchedOpening
  /-- Several trees are left, or none. -/
  | notOneTree
  /-- A node without the left operand it needs. -/
  | missingLeft (literal : Literal)
  /-- A node without the right operand it needs. -/
  | missingRight (literal : Literal)
  /-- Wildcards and named parameters in one tree. -/
  | mixedParameters

/-- The wording of a diagnostic. -/
def Diagnostic.message : Diagnostic → String
  | unknownToken literal => "found unknown token: " ++ literal.display
  | unmatchedClosing => "unmatched closing parenthesis"
  | unmatchedOpening => "unmatched opening parenthesis"
  | notOneTree => "string did not resolve to a single tree"
  | missingLeft literal => "'" ++ literal.display ++ "' is missing its left operand"
  | missingRight literal => "'" ++ literal.display ++ "' is missing its right operand"
  | mixedParameters => "query mixes %@ wildcards and \x7bnamed\x7d parameters"

/-- Why a list of tokens has no tree. -/
inductive BuildError where
  /-- The reasons, in the order in which they were found. -/
  | rejected (reasons : List Diagnostic)
  /-- An opening parenthesis was no longer where it had been put. This takes a grammar in which a
      parenthesis is itself an operand or takes one. -/
  | lostParenthesis

/-- The messages of an error. -/
def BuildError.messages : BuildError → List String
  | rejected reasons => reasons.map Diagnostic.message
  | lostParenthesis => ["opening parenthesis is not on the stack"]

/-- The messages of an error, one a line. -/
def BuildError.message (e : BuildError) : String := String.intercalate ",\n" e.messages

/-- Where the building of a tree stands. -/
structure Builder where
  /-- The nodes reached so far, the one under examination first. -/
  stack : List Node := []
  /-- The number of nodes on the stack. -/
  height : Nat := 0
  /-- For each parenthesis that is open, innermost first, the number of nodes below it. -/
  opened : List Nat := []
  /-- The reasons found so far, last first. -/
  reasons : List Diagnostic := []
  /-- An opening parenthesis was not found again. -/
  lost : Bool := false

/-- Whether `child` can be the operand of `parent` on a side. -/
def Node.fits (parent : Node) (side : Side) (child : Node) : Bool :=
  match parent.descriptor.expected side, child.result with
  | some expected, some actual => expected == actual
  | _, _ => false

namespace Builder

/-- Puts a node on the stack. -/
def push (b : Builder) (n : Node) : Builder :=
  { b with stack := n :: b.stack, height := b.height + 1 }

/-- Takes the node off the stack that has `below` nodes under it. -/
def removeAbove (b : Builder) (below : Nat) : Builder :=
  if below < b.height then
    { b with stack := b.stack.eraseIdx (b.height - 1 - below), height := b.height - 1 }
  else { b with lost := true }

/-- Drops a closing parenthesis, which is on top of the stack, together with its partner. -/
def closeParenthesis (b : Builder) : Builder :=
  let b := { b with stack := b.stack.tail, height := b.height - 1 }
  match b.opened with
  | [] => { b with reasons := .unmatchedClosing :: b.reasons }
  | below :: opened => { b with opened := opened }.removeAbove below

/-- Does what the class of the node on top of the stack asks for. -/
def enter (b : Builder) (n : Node) : Builder :=
  match n.kind with
  | .unknown => { b with reasons := .unknownToken n.literal :: b.reasons }
  | .openParen => { b with opened := (b.height - 1) :: b.opened }
  | .closeParen => b.closeParenthesis
  | _ => b

/-- Makes the node before the top its left operand, if it wants one and this one fits. -/
def adoptLeft (b : Builder) : Builder :=
  match b.stack with
  | n :: before :: rest =>
    if n.isMissing .left && n.fits .left before then
      { b with stack := n.withChild .left (some before) :: rest, height := b.height - 1 }
    else b
  | _ => b

/-- Makes the top the right operand of the node before it, if the top is complete and the other
    wants it. Says whether it did. -/
def adoptRight (b : Builder) : Builder × Bool :=
  match b.stack with
  | n :: before :: rest =>
    if !n.isIncomplete && before.isMissing .right && before.fits .right n then
      ({ b with stack := before.withChild .right (some n) :: rest, height := b.height - 1 }, true)
    else (b, false)
  | _ => (b, false)

/-- Examines the node on top of the stack. Says whether the new top, which may have become
    complete, is to be examined in turn. -/
def examine (b : Builder) : Builder × Bool :=
  match b.stack with
  | [] => (b, false)
  | n :: _ => (b.enter n).adoptLeft.adoptRight

/-! ### Progress -/

/-- Taking a node off the stack does not put any on it. -/
theorem stack_length_removeAbove (b : Builder) (below : Nat) :
    (b.removeAbove below).stack.length ≤ b.stack.length := by
  unfold removeAbove
  split
  · exact List.length_eraseIdx_le _ _
  · exact Nat.le_refl _

/-- Nor does closing a parenthesis. -/
theorem stack_length_closeParenthesis (b : Builder) :
    b.closeParenthesis.stack.length ≤ b.stack.length := by
  unfold closeParenthesis
  dsimp only
  split
  · simp
  · exact Nat.le_trans (stack_length_removeAbove _ _) (by simp)

/-- Whatever a node is, entering it puts none on the stack. -/
theorem stack_length_enter (b : Builder) (n : Node) :
    (b.enter n).stack.length ≤ b.stack.length := by
  unfold enter
  split
  · exact Nat.le_refl _
  · exact Nat.le_refl _
  · exact stack_length_closeParenthesis b
  · exact Nat.le_refl _

/-- A left operand goes from the stack into its parent. -/
theorem stack_length_adoptLeft (b : Builder) : b.adoptLeft.stack.length ≤ b.stack.length := by
  unfold adoptLeft
  split
  · split <;> simp_all
  · exact Nat.le_refl _

/-- So does a right one, and then the stack is smaller. -/
theorem stack_length_adoptRight (b : Builder) (h : b.adoptRight.2 = true) :
    b.adoptRight.1.stack.length < b.stack.length := by
  unfold adoptRight at h ⊢
  split at h <;> simp_all
  split <;> simp_all

/-- A node is examined again only after the stack has become smaller. -/
theorem stack_length_of_examine (b : Builder) (h : b.examine.2 = true) :
    b.examine.1.stack.length < b.stack.length := by
  unfold examine at h ⊢
  split
  · simp_all
  · rename_i n rest hs
    rw [hs] at h
    have h₁ := stack_length_enter b n
    have h₂ := stack_length_adoptLeft (b.enter n)
    have h₃ := stack_length_adoptRight _ h
    omega

/-! ### The whole list -/

/-- Examines the top of the stack until nothing is to be done. -/
def settle (b : Builder) : Builder :=
  if _h : b.examine.2 then settle b.examine.1 else b.examine.1
termination_by b.stack.length
decreasing_by exact stack_length_of_examine b _h

/-- Puts a token on the stack and lets it find its place. -/
def accept (b : Builder) (t : Token) : Builder := (b.push (.ofToken t)).settle

/-- The reasons against a tree: operands that are missing, and both forms of parameters. -/
def faults (root : Node) : List Diagnostic :=
  let nodes := root.nodes
  let missing := nodes.flatMap fun n =>
    (if n.isMissing .left then [.missingLeft n.literal] else []) ++
      (if n.isMissing .right then [.missingRight n.literal] else [])
  let mixed := nodes.any (·.kind == .wildCard) && nodes.any (·.kind == .parameter)
  missing ++ if mixed then [.mixedParameters] else []

/-- The tree that is left when all tokens have been accepted. -/
def finish (b : Builder) : Except BuildError Node :=
  let reasons := b.reasons.reverse ++ if b.opened.isEmpty then [] else [.unmatchedOpening]
  if b.lost then .error .lostParenthesis
  else
    match b.stack with
    | [root] =>
      match reasons ++ faults root with
      | [] => .ok root
      | reasons => .error (.rejected reasons)
    | _ => .error (.rejected (reasons ++ [.notOneTree]))

end Builder

/-- The tree of a list of tokens. No tokens are the tree that is true on every record. -/
def buildTree (tokens : List Token) : Except BuildError Node :=
  match tokens with
  | [] => .ok .alwaysTrue
  | tokens => (tokens.foldl Builder.accept {}).finish

end RecordQuery
