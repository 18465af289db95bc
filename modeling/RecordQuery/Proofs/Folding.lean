import RecordQuery.Evaluation
import RecordQuery.Proofs.Tree

/-!
# Folds

A fold works off a list of frames and keeps the values of finished trees in a second list. Seen from
outside it is a recursion on the tree: a node is combined after its operands, the left one first,
with exactly the values that these have, and the first failure is the result.

* `Node.recurse`: the recursion.
* `Node.foldFrames_enter`: the invariant between the two lists and a tree that is still to be
  folded. Entering the tree has the effect of putting its value on top of the finished ones.
* `Node.postorder`, `Follows`: the order of the calls, and a record of calls that keeps to it until
  the first failure.
* `Node.fold_eq_recurse_in_postorder`: a fold is the recursion, and calls are made in this order.
* `Node.fold_simulates`: two folds whose calls agree have the same result.
-/

namespace RecordQuery

/-! ### Outcomes -/

section

variable {α β γ ε σ : Type}

/-- Goes on with the value of an outcome. A failure stays as it is. -/
def andThen (outcome : Except ε α × σ) (next : α → σ → Except ε β × σ) : Except ε β × σ :=
  match outcome with
  | (.ok value, state) => next value state
  | (.error e, state) => (.error e, state)

@[simp] theorem andThen_ok (value : α) (state : σ) (next : α → σ → Except ε β × σ) :
    andThen (.ok value, state) next = next value state := rfl

@[simp] theorem andThen_error (e : ε) (state : σ) (next : α → σ → Except ε β × σ) :
    andThen (.error e, state) next = (.error e, state) := rfl

theorem andThen_assoc (outcome : Except ε α × σ) (next : α → σ → Except ε β × σ)
    (last : β → σ → Except ε γ × σ) :
    andThen (andThen outcome next) last =
      andThen outcome fun value state => andThen (next value state) last := by
  obtain ⟨_ | _, _⟩ := outcome <;> rfl

/-- How an outcome goes on matters only for the value that it has. -/
theorem andThen_congr {outcome : Except ε α × σ} {next next' : α → σ → Except ε β × σ}
    (h : ∀ value state, outcome = (.ok value, state) → next value state = next' value state) :
    andThen outcome next = andThen outcome next' := by
  obtain ⟨_ | value, state⟩ := outcome
  · rfl
  · exact h value state rfl

end

namespace Node

/-! ### Each node after its operands -/

mutual

/-- The nodes of a tree, each after its operands, left first. -/
def postorder : Node → List Node
  | ⟨t, l, r⟩ => postorder? l ++ postorder? r ++ [⟨t, l, r⟩]

/-- The nodes of an operand, each after its operands. -/
def postorder? : Option Node → List Node
  | none => []
  | some n => n.postorder

end

@[simp] theorem postorder?_none : postorder? none = [] := by rw [postorder?]

@[simp] theorem postorder?_some (n : Node) : postorder? (some n) = n.postorder := by
  rw [postorder?]

/-- Listing each node after its operands or from left to right gives the same nodes. -/
theorem postorder_perm_inorder (n : Node) : n.postorder.Perm n.inorder := by
  induction n with
  | node t l r hl hr =>
    have hl' : (postorder? l).Perm (inorder? l) := by
      cases l with
      | none => simp
      | some c => simpa using hl c rfl
    have hr' : (postorder? r).Perm (inorder? r) := by
      cases r with
      | none => simp
      | some c => simpa using hr c rfl
    rw [postorder, inorder, List.append_assoc]
    exact hl'.append ((hr'.append_right _).trans (List.perm_append_singleton _ _))

/-- So both listings have the same nodes. -/
theorem mem_postorder_iff {m n : Node} : m ∈ n.postorder ↔ m ∈ n.inorder :=
  n.postorder_perm_inorder.mem_iff

/-- Nodes without operands stand in the same order after and between their operands. -/
theorem filter_postorder {p : Node → Bool} (n : Node)
    (hp : ∀ m ∈ n.inorder, p m = true → m.right = none) :
    n.postorder.filter p = n.inorder.filter p := by
  induction n with
  | node t l r hl hr =>
    have hmem side c (hc : child? ⟨t, l, r⟩ side = some c) (m : Node) (hm : m ∈ c.inorder) :=
      hp m (mem_inorder_of_child? hc hm)
    have hl' : (postorder? l).filter p = (inorder? l).filter p := by
      cases l with
      | none => simp
      | some c => simpa using hl c rfl (hmem .left c rfl)
    have hr' : (postorder? r).filter p = (inorder? r).filter p := by
      cases r with
      | none => simp
      | some c => simpa using hr c rfl (hmem .right c rfl)
    rw [postorder, inorder, List.filter_append, List.filter_append, List.filter_append,
      List.filter_cons, hl', hr', List.append_assoc]
    congr 1
    -- The node has moved past its right operand, of which there is none if the node counts.
    by_cases hn : p ⟨t, l, r⟩ = true
    · obtain rfl : r = none := hp _ (self_mem_inorder _) hn
      simp [hn]
    · simp [hn]

/-! ### The recursion -/

variable {α ε σ τ : Type} {combine : Node → Option α → Option α → σ → Except ε α × σ}

mutual

/-- Folds a tree by recursion: the left operand, then the right one, then the node with their
    values. -/
def recurse (combine : Node → Option α → Option α → σ → Except ε α × σ) :
    Node → σ → Except ε α × σ
  | ⟨t, l, r⟩, state =>
    andThen (recurse? combine l state) fun left state =>
      andThen (recurse? combine r state) fun right state => combine ⟨t, l, r⟩ left right state

/-- Folds an operand by recursion. One that is not there has no value. -/
def recurse? (combine : Node → Option α → Option α → σ → Except ε α × σ) :
    Option Node → σ → Except ε (Option α) × σ
  | none, state => (.ok none, state)
  | some n, state => andThen (n.recurse combine state) fun value state => (.ok (some value), state)

end

@[simp] theorem recurse?_none (combine : Node → Option α → Option α → σ → Except ε α × σ)
    (state : σ) : recurse? combine none state = (.ok none, state) := by
  rw [recurse?]

theorem recurse?_some (combine : Node → Option α → Option α → σ → Except ε α × σ) (n : Node)
    (state : σ) : recurse? combine (some n) state =
      andThen (n.recurse combine state) fun value state => (.ok (some value), state) := by
  rw [recurse?]

/-- The recursion goes through the left operand, the right one and the node. -/
theorem recurse_eq (combine : Node → Option α → Option α → σ → Except ε α × σ) (n : Node)
    (state : σ) : n.recurse combine state =
      andThen (recurse? combine n.left state) fun left state =>
        andThen (recurse? combine n.right state) fun right state => combine n left right state := by
  obtain ⟨t, l, r⟩ := n
  rw [recurse]

/-! ### The two lists -/

/-- The value of an operand is on top of the finished values and is taken off again. -/
theorem takeValue_append {o : Option Node} {state state' : σ} {value : Option α}
    (h : recurse? combine o state = (.ok value, state')) (finished : List α) :
    takeValue o (value.toList ++ finished) = (value, finished) := by
  cases o with
  | none =>
    rw [recurse?_none] at h
    cases h
    rfl
  | some n =>
    rw [recurse?_some] at h
    cases hn : n.recurse combine state with
    | mk outcome state =>
      rw [hn] at h
      cases outcome <;> cases h
      rfl

/-- Entering an operand puts its value, if there is one, on top of the finished ones. -/
theorem foldFrames_operand {o : Option Node} {frames : List Frame}
    (h : ∀ n, o = some n → ∀ finished state,
      foldFrames combine (.enter n :: frames) finished state =
        andThen (n.recurse combine state) fun value state =>
          foldFrames combine frames (value :: finished) state)
    (finished : List α) (state : σ) :
    foldFrames combine (o.toList.map .enter ++ frames) finished state =
      andThen (recurse? combine o state) fun value state =>
        foldFrames combine frames (value.toList ++ finished) state := by
  cases o with
  | none => simp
  | some n =>
    rw [recurse?_some, andThen_assoc]
    exact h n rfl finished state

/-- The operands of a node are folded before all other frames, the left one first. -/
theorem foldFrames_operandFrames {n : Node} {frames : List Frame}
    (h : ∀ side c, n.child? side = some c → ∀ frames finished state,
      foldFrames combine (.enter c :: frames) finished state =
        andThen (c.recurse combine state) fun value state =>
          foldFrames combine frames (value :: finished) state)
    (finished : List α) (state : σ) :
    foldFrames combine (n.operandFrames ++ frames) finished state =
      andThen (recurse? combine n.left state) fun left state =>
        andThen (recurse? combine n.right state) fun right state =>
          foldFrames combine frames (right.toList ++ (left.toList ++ finished)) state := by
  rw [operandFrames, List.map_append, List.append_assoc]
  refine (foldFrames_operand (fun c hc => h .left c hc _) _ _).trans ?_
  refine andThen_congr fun left state _ => ?_
  exact foldFrames_operand (fun c hc => h .right c hc _) _ _

/-- A node finds the values of its operands on top of the finished ones. -/
theorem operandValues_append {n : Node} {left right : Option α} {state₁ state₂ state₃ : σ}
    (hl : recurse? combine n.left state₁ = (.ok left, state₂))
    (hr : recurse? combine n.right state₂ = (.ok right, state₃)) (finished : List α) :
    n.operandValues (right.toList ++ (left.toList ++ finished)) = (left, right, finished) := by
  rw [operandValues, takeValue_append hr]
  simp only [takeValue_append hl]

/-- Entering a tree puts its value on top of the finished ones, whatever else is to be done. -/
theorem foldFrames_enter (n : Node) (frames : List Frame) (finished : List α) (state : σ) :
    foldFrames combine (.enter n :: frames) finished state =
      andThen (n.recurse combine state) fun value state =>
        foldFrames combine frames (value :: finished) state := by
  induction n generalizing frames finished state with
  | node t l r ihl ihr =>
    rw [foldFrames, foldFrames_operandFrames, recurse_eq, andThen_assoc]
    · refine andThen_congr fun left state₁ hleft => ?_
      rw [andThen_assoc]
      refine andThen_congr fun right state₂ hright => ?_
      -- What the operands have put on top is what the node takes off.
      rw [foldFrames, operandValues_append hleft hright]
      rfl
    · rintro (_ | _) c hc
      · exact ihl c hc
      · exact ihr c hc

/-- A fold combines the root with the values that the frames leave. -/
theorem fold_eq_andThen (n : Node) (state : σ) : n.fold combine state =
    andThen (foldFrames combine n.operandFrames [] state) fun finished state =>
      combine n (n.operandValues finished).1 (n.operandValues finished).2.1 state := by
  rw [fold]
  obtain ⟨_ | _, _⟩ := foldFrames combine n.operandFrames [] state <;> rfl

/-- A fold is the recursion. -/
theorem fold_eq_recurse (n : Node) (state : σ) : n.fold combine state = n.recurse combine state := by
  have h : foldFrames combine (n.operandFrames ++ []) [] state = _ :=
    foldFrames_operandFrames (fun _ c _ => foldFrames_enter c) [] state
  rw [List.append_nil] at h
  rw [fold_eq_andThen, h, recurse_eq, andThen_assoc]
  refine andThen_congr fun left state₁ hleft => ?_
  rw [andThen_assoc]
  refine andThen_congr fun right state₂ hright => ?_
  rw [foldFrames, andThen_ok, operandValues_append hleft hright]

/-- A copy is the tree itself. -/
theorem copy_eq (n : Node) : n.copy = n := by
  have h : n.recurse rebuild () = (.ok n, ()) := by
    induction n with
    | node t l r ihl ihr =>
      have hoperand {o : Option Node} (ih : ∀ c, o = some c → c.recurse rebuild () = (.ok c, ())) :
          recurse? rebuild o () = (.ok o, ()) := by
        cases o with
        | none => rfl
        | some c => rw [recurse?_some, ih c rfl, andThen_ok]
      rw [recurse, hoperand ihl, andThen_ok, hoperand ihr]
      rfl
  rw [copy, fold_eq_recurse]
  simp only [h]

/-! ### Calls -/

/-- What the function that combines values is called with. -/
structure Call (α σ : Type) where
  /-- The node. -/
  node : Node
  /-- The value of its left operand. -/
  left : Option α
  /-- The value of its right operand. -/
  right : Option α
  /-- The state at this time. -/
  state : σ

/-- The outcome of a call. -/
def Call.outcome (combine : Node → Option α → Option α → σ → Except ε α × σ) (c : Call α σ) :
    Except ε α := (combine c.node c.left c.right c.state).1

/-- Keeps a record of all calls beside the state. -/
def recording (combine : Node → Option α → Option α → σ → Except ε α × σ) (n : Node)
    (left right : Option α) (state : σ × List (Call α σ)) :
    Except ε α × σ × List (Call α σ) :=
  let (outcome, after) := combine n left right state.1
  (outcome, after, state.2 ++ [⟨n, left, right, state.1⟩])

/-- Calls are made for some nodes in their order, once for each: for all of them if there is a
    value, and else up to the one whose failure is the result. -/
def Follows {β : Type} (combine : Node → Option α → Option α → σ → Except ε α × σ)
    (nodes : List Node) (calls : List (Call α σ)) : Except ε β → Prop
  | .ok _ => calls.map (·.node) = nodes ∧ ∀ c ∈ calls, ∃ v, c.outcome combine = .ok v
  | .error e => ∃ before last, calls = before ++ [last] ∧ calls.map (·.node) <+: nodes ∧
      (∀ c ∈ before, ∃ v, c.outcome combine = .ok v) ∧ last.outcome combine = .error e

section

variable {β γ : Type} {nodes nodes' : List Node} {calls calls' : List (Call α σ)}

/-- Calls for some nodes go on with the calls for others. -/
theorem Follows.append {value : β} {outcome : Except ε γ}
    (h : Follows combine nodes calls (.ok value)) (h' : Follows combine nodes' calls' outcome) :
    Follows combine (nodes ++ nodes') (calls ++ calls') outcome := by
  obtain ⟨hnodes, hok⟩ := h
  cases outcome with
  | ok value' =>
    obtain ⟨hnodes', hok'⟩ := h'
    exact ⟨by rw [List.map_append, hnodes, hnodes'],
      fun c hc => (List.mem_append.1 hc).elim (hok c) (hok' c)⟩
  | error e =>
    obtain ⟨before, last, rfl, hprefix, hok', hlast⟩ := h'
    refine ⟨calls ++ before, last, (List.append_assoc ..).symm, ?_, ?_, hlast⟩
    · rw [List.map_append, hnodes]
      exact (List.prefix_append_right_inj nodes).2 hprefix
    · exact fun c hc => (List.mem_append.1 hc).elim (hok c) (hok' c)

/-- No call comes after a failure. -/
theorem Follows.stop {e : ε} (h : Follows combine nodes calls (.error e : Except ε β))
    (nodes' : List Node) : Follows combine (nodes ++ nodes') calls (.error e : Except ε γ) := by
  obtain ⟨before, last, hcalls, hprefix, hok, hlast⟩ := h
  exact ⟨before, last, hcalls, hprefix.trans (List.prefix_append _ _), hok, hlast⟩

/-- `g` does what `f` does and records calls that follow some nodes. -/
def Records (combine : Node → Option α → Option α → σ → Except ε α × σ) (nodes : List Node)
    (f : σ → Except ε β × σ)
    (g : σ × List (Call α σ) → Except ε β × σ × List (Call α σ)) : Prop :=
  ∀ state earlier, ∃ calls, g (state, earlier) = ((f state).1, (f state).2, earlier ++ calls) ∧
    Follows combine nodes calls (f state).1

/-- Two steps one after the other record the calls of both, up to a failure. -/
theorem Records.andThen {f : σ → Except ε β × σ} {f' : β → σ → Except ε γ × σ}
    {g : σ × List (Call α σ) → Except ε β × σ × List (Call α σ)}
    {g' : β → σ × List (Call α σ) → Except ε γ × σ × List (Call α σ)}
    (h : Records combine nodes f g) (h' : ∀ v, Records combine nodes' (f' v) (g' v)) :
    Records combine (nodes ++ nodes') (fun s => andThen (f s) f') fun s => andThen (g s) g' := by
  intro state earlier
  obtain ⟨calls, hg, hfollows⟩ := h state earlier
  cases hf : f state with
  | mk outcome state₁ =>
    rw [hf] at hg hfollows
    cases outcome with
    | error e => exact ⟨calls, by simp [hg, hf], by simpa [hf] using hfollows.stop nodes'⟩
    | ok value =>
      obtain ⟨calls', hg', hfollows'⟩ := h' value state₁ (earlier ++ calls)
      exact ⟨calls ++ calls', by simp [hg, hf, hg'], by simpa [hf] using hfollows.append hfollows'⟩

end

/-- Combining the values of a node records the call for it. -/
theorem records_combine (n : Node) (left right : Option α) :
    Records combine [n] (combine n left right) (recording combine n left right) := by
  intro state earlier
  refine ⟨[⟨n, left, right, state⟩], rfl, ?_⟩
  have houtcome : Call.outcome combine ⟨n, left, right, state⟩ = (combine n left right state).1 := rfl
  cases h : (combine n left right state).1 with
  | ok value => exact ⟨rfl, by simpa [houtcome] using ⟨value, h⟩⟩
  | error e => exact ⟨[], _, rfl, List.prefix_rfl, by simp, houtcome.trans h⟩

/-- An operand records the calls of its tree, if there is one. -/
theorem records_recurse? {o : Option Node}
    (h : ∀ n, o = some n →
      Records combine n.postorder (n.recurse combine) (n.recurse (recording combine))) :
    Records combine (postorder? o) (recurse? combine o) (recurse? (recording combine) o) := by
  have hvalue {β : Type} (value : β) : Records combine [] (fun state => (.ok value, state))
      fun state => (.ok value, state) :=
    fun state earlier => ⟨[], by simp, rfl, by simp⟩
  cases o with
  | none =>
    rw [funext (recurse?_none combine),
      funext (recurse?_none (recording combine))]
    exact hvalue none
  | some n =>
    rw [funext (recurse?_some combine n),
      funext (recurse?_some (recording combine) n), postorder?_some,
      ← List.append_nil n.postorder]
    exact (h n rfl).andThen fun value => hvalue (some value)

/-- The recursion calls for the nodes of a tree in their order. -/
theorem records_recurse (combine : Node → Option α → Option α → σ → Except ε α × σ) (n : Node) :
    Records combine n.postorder (n.recurse combine) (n.recurse (recording combine)) := by
  induction n with
  | node t l r ihl ihr =>
    rw [funext (recurse_eq combine ⟨t, l, r⟩),
      funext (recurse_eq (recording combine) ⟨t, l, r⟩), postorder, List.append_assoc]
    exact (records_recurse? ihl).andThen fun left =>
      (records_recurse? ihr).andThen fun right => records_combine _ left right

/-- If a fold has a value, the calls for all nodes have one. -/
theorem exists_of_fold_eq_ok {n m : Node} {state : σ} {value : α}
    (h : (n.fold combine state).1 = .ok value) (hm : m ∈ n.postorder) :
    ∃ left right state v, (combine m left right state).1 = .ok v := by
  obtain ⟨calls, -, hfollows⟩ := records_recurse combine n state []
  rw [← fold_eq_recurse, h] at hfollows
  obtain ⟨hnodes, hok⟩ := hfollows
  rw [← hnodes] at hm
  obtain ⟨c, hc, rfl⟩ := List.mem_map.1 hm
  exact ⟨c.left, c.right, c.state, hok c hc⟩

/-- The value of a fold is that of a call for the root. -/
theorem exists_root_of_fold_eq_ok {n : Node} {state : σ} {value : α}
    (h : (n.fold combine state).1 = .ok value) :
    ∃ left right state', (combine n left right state').1 = .ok value := by
  rw [fold_eq_andThen] at h
  cases hf : foldFrames combine n.operandFrames [] state with
  | mk outcome state' =>
    rw [hf] at h
    cases outcome with
    | error e => cases h
    | ok finished => exact ⟨_, _, state', h⟩

/-- If a fold fails, it fails at some node, and the calls for all nodes before have a value. -/
theorem exists_of_fold_eq_error {n : Node} {state : σ} {e : ε}
    (h : (n.fold combine state).1 = .error e) :
    ∃ before m after, n.postorder = before ++ m :: after ∧
      (∃ left right state, (combine m left right state).1 = .error e) ∧
      ∀ m ∈ before, ∃ left right state v, (combine m left right state).1 = .ok v := by
  obtain ⟨calls, -, hfollows⟩ := records_recurse combine n state []
  rw [← fold_eq_recurse, h] at hfollows
  -- The last call is the one that failed, and no call was made for the nodes behind it.
  obtain ⟨before, last, rfl, ⟨after, hafter⟩, hok, hlast⟩ := hfollows
  refine ⟨before.map (·.node), last.node, after, by simp [← hafter], ⟨_, _, _, hlast⟩, ?_⟩
  intro m hm
  obtain ⟨c, hc, rfl⟩ := List.mem_map.1 hm
  exact ⟨c.left, c.right, c.state, hok c hc⟩

/-- A fold is the recursion on the tree. Its calls are made for the nodes in their order, each after
    its operands, exactly once for each node, and stop at the first failure, which is then the
    result. So the value of a condition is found by recursion, and a copy is the tree itself. -/
theorem fold_eq_recurse_in_postorder
    (combine : Node → Option α → Option α → σ → Except ε α × σ) (n : Node) (state : σ) :
    n.fold combine state = n.recurse combine state ∧
      (∃ calls, n.fold (recording combine) (state, []) =
          ((n.fold combine state).1, (n.fold combine state).2, calls) ∧
        Follows combine n.postorder calls (n.fold combine state).1) ∧
      (∀ ctx, n.evaluate ctx = n.recurse (Node.combine ctx) ctx.patterns) ∧ n.copy = n := by
  refine ⟨fold_eq_recurse n state, ?_, fun ctx => fold_eq_recurse n ctx.patterns, copy_eq n⟩
  rw [fold_eq_recurse, fold_eq_recurse]
  exact records_recurse combine n state []

/-! ### Two folds -/

/-- Two outcomes are the same, and the states afterwards are related. -/
def Agree {β : Type} (R : σ → τ → Prop) (outcome : Except ε β × σ) (outcome' : Except ε β × τ) :
    Prop :=
  outcome.1 = outcome'.1 ∧ R outcome.2 outcome'.2

/-- Outcomes that agree go on to outcomes that agree. -/
theorem Agree.andThen {β γ : Type} {R : σ → τ → Prop} {outcome : Except ε β × σ}
    {outcome' : Except ε β × τ} {next : β → σ → Except ε γ × σ} {next' : β → τ → Except ε γ × τ}
    (h : Agree R outcome outcome')
    (hnext : ∀ v s t, R s t → Agree R (next v s) (next' v t)) :
    Agree R (andThen outcome next) (andThen outcome' next') := by
  obtain ⟨value, s⟩ := outcome
  obtain ⟨value', t⟩ := outcome'
  obtain ⟨rfl, hR⟩ : value = value' ∧ R s t := h
  cases value with
  | error e => exact ⟨rfl, hR⟩
  | ok v => exact hnext v s t hR

/-- Two folds whose calls agree, on states that are related, agree. -/
theorem fold_simulates {R : σ → τ → Prop}
    {f : Node → Option α → Option α → σ → Except ε α × σ}
    {g : Node → Option α → Option α → τ → Except ε α × τ} {n : Node}
    (h : ∀ m ∈ n.inorder, ∀ left right s t, R s t → Agree R (f m left right s) (g m left right t))
    {s : σ} {t : τ} (hR : R s t) : Agree R (n.fold f s) (n.fold g t) := by
  rw [fold_eq_recurse, fold_eq_recurse]
  induction n generalizing s t with
  | node tok l r ihl ihr =>
    have hoperand {o : Option Node} (ih : ∀ c, o = some c → ∀ {s t}, R s t →
        Agree R (c.recurse f s) (c.recurse g t)) {s : σ} {t : τ} (hR : R s t) :
        Agree R (recurse? f o s) (recurse? g o t) := by
      cases o with
      | none => simpa [Agree] using hR
      | some c =>
        rw [recurse?_some, recurse?_some]
        exact (ih c rfl hR).andThen fun v s t hR => ⟨rfl, hR⟩
    have hmem side c (hc : child? ⟨tok, l, r⟩ side = some c) (m : Node) (hm : m ∈ c.inorder) :=
      h m (mem_inorder_of_child? hc hm)
    rw [recurse, recurse]
    -- The states stay related through the left operand, the right one and the node.
    refine (hoperand (fun c hc _ _ => ihl c hc (hmem .left c hc)) hR).andThen fun left s t hR => ?_
    refine (hoperand (fun c hc _ _ => ihr c hc (hmem .right c hc)) hR).andThen fun right s t hR => ?_
    exact h _ (self_mem_inorder _) left right s t hR

end Node

end RecordQuery
