import SqlAdvisor.Traversal.Context

/-! # Walking a tree

A visitor sees every node before and after its children and carries its own state along. The walk keeps
the nodes it still has to enter or leave on a stack of its own, so that its depth does not depend on how
deeply a tree nests: conditions joined by `AND` or `OR` nest as deeply as they are long.
-/

namespace SqlAdvisor

/-- What happens at each node. `enter` also says whether the children are to be visited. -/
structure Visitor (σ : Type) where
  enter : Occurrence → NodeKind → Context → σ → σ × Bool
  leave : Occurrence → NodeKind → Context → σ → σ := fun _ _ _ state => state

namespace Visitor

/-- The visitor that looks at every node of a tree, on the way down. -/
def observing {σ : Type} (look : Occurrence → NodeKind → Context → σ → σ) : Visitor σ where
  enter o kind context state := (look o kind context state, true)

/-- Enters a node as each of its kinds. The children are visited only if every one agrees. -/
def enterAs {σ : Type} (v : Visitor σ) (o : Occurrence) :
    List NodeKind → Context → σ → σ × Context × Bool
  | [], context, state => (state, context, true)
  | kind :: rest, context, state =>
    let inner := context.entering kind
    let (entered, descend) := v.enter o kind inner state
    let (final, last, others) := v.enterAs o rest inner entered
    (final, last, descend && others)

/-- Leaves a node as each of its kinds, the last one first. -/
def leaveAs {σ : Type} (v : Visitor σ) (o : Occurrence) (kinds : List NodeKind) (context : Context)
    (state : σ) : σ :=
  kinds.reverse.foldl (fun state kind => v.leave o kind context state) state

end Visitor

/-- A step that the walk still has to take. -/
inductive Pending where
  /-- To enter a node in the context of its parent. -/
  | enter (o : Occurrence) (context : Context)
  /-- To leave a node, in the context it was entered with. -/
  | leave (o : Occurrence) (context : Context)

namespace Pending

/-- How many steps a pending step stands for: a node is entered and left, and so is each below it. -/
def weight : Pending → Nat
  | .enter o _ => 2 * o.node.size
  | .leave _ _ => 1

/-- The steps that enter the children of a node. -/
def entering (o : Occurrence) (context : Context) : List Pending :=
  o.children.map (.enter · context)

theorem total_weight_entering (o : Occurrence) (context : Context) :
    total weight (entering o context) + 2 = 2 * o.node.size := by
  rw [Node.size_eq, Node.children]
  simp only [entering, Occurrence.children]
  induction o.node.namedChildren with
  | nil => simp
  | cons child rest ih =>
    simp only [List.map_cons, total_cons, weight]
    omega

end Pending

/-- Takes the pending steps, one after the other. -/
def Visitor.run {σ : Type} (v : Visitor σ) (stack : List Pending) (state : σ) : σ :=
  match stack with
  | [] => state
  | .leave o context :: rest => v.run rest (v.leaveAs o o.kinds context state)
  | .enter o context :: rest =>
    let (entered, inner, descend) := v.enterAs o o.kinds context state
    if descend then v.run (Pending.entering o inner ++ .leave o inner :: rest) entered
    else v.run (.leave o inner :: rest) entered
termination_by total Pending.weight stack
decreasing_by
  · simp only [total_cons, Pending.weight]
    omega
  · have := Pending.total_weight_entering o inner
    simp only [total_append, total_cons, Pending.weight]
    omega
  · have := o.node.size_pos
    simp only [total_cons, Pending.weight]
    omega

/-- Walks a tree from a context and a state, and returns the state in the end. -/
def walk {σ : Type} (root : Node) (v : Visitor σ) (state : σ) (context : Context := .root) : σ :=
  v.run [.enter ⟨root, none⟩ context] state

end SqlAdvisor
