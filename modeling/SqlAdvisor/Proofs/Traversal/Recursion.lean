import SqlAdvisor.Traversal.Walk

/-! # The walk as a recursion

The walk takes its steps from a stack. A tree can be read by plain recursion instead: a node is entered as all
its kinds, then its children are read, then it is left. Both readings leave every visitor in the same state.
-/

namespace SqlAdvisor

variable {σ : Type}

/-- How far the entering of a node has come. -/
structure Entrance (σ : Type) where
  state : σ
  context : Context
  /-- Whether every kind so far lets the children be read. -/
  descends : Bool

theorem Occurrence.node_mem_children {o child : Occurrence} (h : child ∈ o.children) :
    child.node ∈ o.node.children := by
  obtain ⟨held, mem, rfl⟩ := List.mem_map.mp h
  exact List.mem_map_of_mem mem

theorem Occurrence.size_lt_of_mem_children {o child : Occurrence} (h : child ∈ o.children) :
    child.node.size < o.node.size :=
  Node.size_lt_of_mem_children (node_mem_children h)

namespace Visitor

/-- Enters a node as one more kind, in the context that the kinds before lead to, and whether or not they let
    the children be read. -/
def enterNext (v : Visitor σ) (o : Occurrence) (before : Entrance σ) (kind : NodeKind) : Entrance σ :=
  let inner := before.context.entering kind
  let (state, descends) := v.enter o kind inner before.state
  ⟨state, inner, before.descends && descends⟩

/-- Enters a node as all its kinds, the first one first. -/
def enterFully (v : Visitor σ) (o : Occurrence) (context : Context) (state : σ) : Entrance σ :=
  o.kinds.foldl (v.enterNext o) ⟨state, context, true⟩

/-- Reads the tree below an occurrence by recursion. -/
def visit (v : Visitor σ) (o : Occurrence) (context : Context) (state : σ) : σ :=
  let entrance := v.enterFully o context state
  let below :=
    if entrance.descends then
      o.children.attach.foldl (fun state child => v.visit child.1 entrance.context state) entrance.state
    else entrance.state
  o.kinds.foldr (fun kind state => v.leave o kind entrance.context state) below
termination_by o.node.size
decreasing_by exact Occurrence.size_lt_of_mem_children child.2

/-- Reads trees one after the other, all in the same context. -/
def visitAll (v : Visitor σ) (trees : List Occurrence) (context : Context) (state : σ) : σ :=
  trees.foldl (fun state o => v.visit o context state) state

theorem visit_eq (v : Visitor σ) (o : Occurrence) (context : Context) (state : σ) :
    v.visit o context state =
      let entrance := v.enterFully o context state
      o.kinds.foldr (fun kind state => v.leave o kind entrance.context state)
        (if entrance.descends then v.visitAll o.children entrance.context entrance.state
        else entrance.state) := by
  rw [visit]
  simp only [visitAll, List.foldl_subtype, List.unattach_attach]

/-! ## One node -/

theorem visit_of_own_kind (v : Visitor σ) {o : Occurrence} (own : o.isResultColumn = false) (context : Context)
    (state : σ) :
    v.visit o context state =
      let inner := context.entering o.node.cls.kind
      let entered := v.enter o o.node.cls.kind inner state
      v.leave o o.node.cls.kind inner (if entered.2 then v.visitAll o.children inner entered.1 else entered.1) := by
  have kinds : o.kinds = [o.node.cls.kind] := if_neg (Bool.eq_false_iff.mp own)
  rw [visit_eq, kinds]
  simp only [enterFully, kinds, List.foldl_cons, List.foldl_nil, enterNext, Bool.true_and, List.foldr_cons,
    List.foldr_nil]

private theorem foldl_enterNext (v : Visitor σ) (o : Occurrence) (kinds : List NodeKind) (before : Entrance σ) :
    kinds.foldl (v.enterNext o) before =
      let (state, context, descends) := v.enterAs o kinds before.context before.state
      ⟨state, context, before.descends && descends⟩ := by
  induction kinds generalizing before with
  | nil => simp [enterAs]
  | cons kind rest ih =>
      rw [List.foldl_cons, ih]
      simp only [enterNext, enterAs, Bool.and_assoc]

theorem enterAs_kinds (v : Visitor σ) (o : Occurrence) (context : Context) (state : σ) :
    v.enterAs o o.kinds context state =
      ((v.enterFully o context state).state, (v.enterFully o context state).context,
        (v.enterFully o context state).descends) := by
  simp only [enterFully, foldl_enterNext, Bool.true_and]

theorem leaveAs_eq_foldr (v : Visitor σ) (o : Occurrence) (kinds : List NodeKind) (context : Context)
    (state : σ) :
    v.leaveAs o kinds context state = kinds.foldr (fun kind state => v.leave o kind context state) state := by
  rw [leaveAs, List.foldl_reverse]

theorem enterFully_context (v : Visitor σ) (o : Occurrence) (context : Context) (state : σ) :
    (v.enterFully o context state).context = context.enteringAll o.kinds := by
  have steps : ∀ (kinds : List NodeKind) (before : Entrance σ),
      (kinds.foldl (v.enterNext o) before).context = before.context.enteringAll kinds := by
    intro kinds
    induction kinds with
    | nil =>
        intro before
        rfl
    | cons kind rest ih =>
        intro before
        exact ih (v.enterNext o before kind)
  exact steps o.kinds ⟨state, context, true⟩

/-! ## The stack -/

/-- What is pending is done before what lies below it on the stack, whatever that is. -/
theorem run_append (v : Visitor σ) (first second : List Pending) (state : σ) :
    v.run (first ++ second) state = v.run second (v.run first state) := by
  -- A step pushes above all that is pending, so what lies below `first` never takes part.
  fun_induction v.run first state with
  | case1 => rfl
  | case2 state o context rest ih => rw [List.cons_append, run, ih]
  | case3 state o context rest entered inner entrance ih =>
      rw [List.cons_append]
      conv => lhs; rw [run, entrance]
      simpa using ih
  | case4 state o context rest entered inner descends entrance no ih =>
      rw [List.cons_append]
      conv => lhs; rw [run, entrance]
      simpa [no] using ih

private theorem run_enterings {v : Visitor σ} {context : Context} {trees : List Occurrence}
    (each : ∀ o ∈ trees, ∀ state, v.run [.enter o context] state = v.visit o context state) (state : σ) :
    v.run (trees.map (Pending.enter · context)) state = v.visitAll trees context state := by
  induction trees generalizing state with
  | nil => simp [run, visitAll]
  | cons o rest ih =>
      rw [List.map_cons, ← List.singleton_append, run_append, each o (by simp),
        ih fun other mem => each other (List.mem_cons_of_mem o mem)]
      rfl

/-- Entering a node leads through its whole tree and out of it again. -/
theorem run_enter (v : Visitor σ) (o : Occurrence) (context : Context) (state : σ) :
    v.run [.enter o context] state = v.visit o context state := by
  induction h : o.node.size using Nat.strongRecOn generalizing o context state with
  | ind size ih =>
      have below : ∀ child ∈ o.children, ∀ context state,
          v.run [.enter child context] state = v.visit child context state :=
        fun child mem context state =>
          ih _ (h ▸ Occurrence.size_lt_of_mem_children mem) child context state rfl
      rw [run, enterAs_kinds, visit_eq]
      dsimp only
      -- The node's own exit waits under its children, and nothing waits under that.
      cases (v.enterFully o context state).descends with
      | false => simp [run, leaveAs_eq_foldr]
      | true =>
          rw [if_pos rfl, if_pos rfl, run_append, Pending.entering,
            run_enterings fun child mem => below child mem _]
          simp [run, leaveAs_eq_foldr]

end Visitor

/-- The walk reads a tree as the recursion does. -/
theorem walk_eq_visit (root : Node) (v : Visitor σ) (state : σ) (context : Context) :
    walk root v state context = v.visit ⟨root, none⟩ context state :=
  v.run_enter _ _ _

end SqlAdvisor
