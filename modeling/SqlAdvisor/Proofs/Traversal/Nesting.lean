import SqlAdvisor.Proofs.Traversal.Recursion

/-! # The calls of a walk are nested

A visitor that also notes down its calls shows in which order the walk makes them. Every node is entered as each
of its kinds and left as each of them again, and what happens in between belongs to its children. All children of
a node are entered in the same context, which is that of the node, so that a finished subtree leaves no trace.
-/

namespace SqlAdvisor

variable {σ : Type}

/-- One call of a visitor. -/
inductive VisitCall where
  | enter (o : Occurrence) (kind : NodeKind) (context : Context)
  | leave (o : Occurrence) (kind : NodeKind) (context : Context)

namespace Occurrence

/-- The calls that enter a node, each in the context that the kinds up to it lead to. -/
def enterCalls (o : Occurrence) : List NodeKind → Context → List VisitCall
  | [], _ => []
  | kind :: rest, context =>
    .enter o kind (context.entering kind) :: o.enterCalls rest (context.entering kind)

/-- The calls that leave a node, the last kind first. -/
def leaveCalls (o : Occurrence) (kinds : List NodeKind) (context : Context) : List VisitCall :=
  kinds.reverse.map (.leave o · context)

end Occurrence

mutual

/-- Calls that visit a node in a context, and either leave its children out or visit all of them. -/
inductive Nested : Occurrence → Context → List VisitCall → Prop where
  | leaf {o : Occurrence} {context : Context} :
    Nested o context
      (o.enterCalls o.kinds context ++ o.leaveCalls o.kinds (context.enteringAll o.kinds))
  | branch {o : Occurrence} {context : Context} {below : List VisitCall} :
    NestedAll o.children (context.enteringAll o.kinds) below →
    Nested o context
      (o.enterCalls o.kinds context ++ below ++ o.leaveCalls o.kinds (context.enteringAll o.kinds))

/-- Calls that visit nodes one after the other, each in the same context. -/
inductive NestedAll : List Occurrence → Context → List VisitCall → Prop where
  | nil {context : Context} : NestedAll [] context []
  | cons {o : Occurrence} {rest : List Occurrence} {context : Context} {first others : List VisitCall} :
    Nested o context first → NestedAll rest context others → NestedAll (o :: rest) context (first ++ others)

end

namespace Visitor

/-- The same visitor, which also notes down its calls. -/
def recording (v : Visitor σ) : Visitor (σ × List VisitCall) where
  enter o kind context noted :=
    let (state, descends) := v.enter o kind context noted.1
    ((state, noted.2 ++ [.enter o kind context]), descends)
  leave o kind context noted := (v.leave o kind context noted.1, noted.2 ++ [.leave o kind context])

/-! ## What a recording visitor notes down -/

private theorem recording_enterNext (v : Visitor σ) (o : Occurrence) (kinds : List NodeKind)
    (before : Entrance σ) (noted : List VisitCall) :
    kinds.foldl (v.recording.enterNext o) ⟨(before.state, noted), before.context, before.descends⟩ =
      let entrance := kinds.foldl (v.enterNext o) before
      ⟨(entrance.state, noted ++ o.enterCalls kinds before.context), entrance.context, entrance.descends⟩ := by
  induction kinds generalizing before noted with
  | nil => simp [Occurrence.enterCalls]
  | cons kind rest ih =>
      simp only [List.foldl_cons, Occurrence.enterCalls]
      rw [← List.singleton_append, ← List.append_assoc]
      exact ih (v.enterNext o before kind) _

theorem recording_enterFully (v : Visitor σ) (o : Occurrence) (context : Context) (state : σ)
    (noted : List VisitCall) :
    v.recording.enterFully o context (state, noted) =
      let entrance := v.enterFully o context state
      ⟨(entrance.state, noted ++ o.enterCalls o.kinds context), entrance.context, entrance.descends⟩ :=
  v.recording_enterNext o o.kinds ⟨state, context, true⟩ noted

theorem recording_leave (v : Visitor σ) (o : Occurrence) (kinds : List NodeKind) (context : Context)
    (state : σ) (noted : List VisitCall) :
    kinds.foldr (fun kind state => v.recording.leave o kind context state) (state, noted) =
      (kinds.foldr (fun kind state => v.leave o kind context state) state,
        noted ++ o.leaveCalls kinds context) := by
  induction kinds with
  | nil => simp [Occurrence.leaveCalls]
  | cons kind rest ih =>
      rw [List.foldr_cons, ih]
      simp [recording, Occurrence.leaveCalls]

private theorem recording_visitAll (v : Visitor σ) (context : Context) (trees : List Occurrence)
    (each : ∀ o ∈ trees, ∀ state, ∃ calls, Nested o context calls ∧
      ∀ noted, v.recording.visit o context (state, noted) = (v.visit o context state, noted ++ calls))
    (state : σ) :
    ∃ calls, NestedAll trees context calls ∧
      ∀ noted, v.recording.visitAll trees context (state, noted) =
        (v.visitAll trees context state, noted ++ calls) := by
  induction trees generalizing state with
  | nil => exact ⟨[], .nil, fun noted => by simp [visitAll]⟩
  | cons o rest ih =>
      obtain ⟨first, nested, visited⟩ := each o (by simp) state
      obtain ⟨others, nestedAll, visitedAll⟩ :=
        ih (fun other mem => each other (List.mem_cons_of_mem o mem)) (v.visit o context state)
      refine ⟨first ++ others, .cons nested nestedAll, fun noted => ?_⟩
      have := visitedAll (noted ++ first)
      simpa only [visitAll, List.foldl_cons, visited, List.append_assoc] using this

/-- Noting the calls down changes nothing else, and the calls are nested. -/
theorem recording_visit (v : Visitor σ) (o : Occurrence) (context : Context) (state : σ) :
    ∃ calls, Nested o context calls ∧
      ∀ noted, v.recording.visit o context (state, noted) = (v.visit o context state, noted ++ calls) := by
  induction h : o.node.size using Nat.strongRecOn generalizing o context state with
  | ind size ih =>
      let entrance := v.enterFully o context state
      -- Whether the children are visited is up to the visitor, but not in which context.
      have inner : entrance.context = context.enteringAll o.kinds := v.enterFully_context o context state
      cases descends : entrance.descends with
      | false =>
          refine ⟨_, .leaf, fun noted => ?_⟩
          rw [visit_eq, visit_eq, recording_enterFully]
          simp only [entrance] at descends inner
          simp [descends, inner, recording_leave]
      | true =>
          obtain ⟨below, nested, visited⟩ :=
            v.recording_visitAll entrance.context o.children
              (fun child mem state =>
                ih _ (h ▸ Occurrence.size_lt_of_mem_children mem) child entrance.context state rfl)
              entrance.state
          refine ⟨_, .branch (inner ▸ nested), fun noted => ?_⟩
          rw [visit_eq, visit_eq, recording_enterFully]
          simp only [entrance] at descends inner visited
          rw [inner] at visited
          simp only [descends, if_true, inner, visited, recording_leave, List.append_assoc]

end Visitor

/-- The walk ends for every visitor in the state that the recursion ends in: a node is entered as all its kinds,
    even where one of them declines; its children are read in order, unless one declined; and it is left as its
    kinds in reverse. The calls are nested accordingly, so that each entry has its one exit and no context
    outlasts its subtree. -/
theorem walk_reads_recursively (root : Node) (v : Visitor σ) (state : σ) (context : Context) :
    walk root v state context = v.visit ⟨root, none⟩ context state ∧
    ∃ calls, Nested ⟨root, none⟩ context calls ∧
      walk root v.recording (state, []) context = (walk root v state context, calls) := by
  refine ⟨walk_eq_visit root v state context, ?_⟩
  obtain ⟨calls, nested, visited⟩ := v.recording_visit ⟨root, none⟩ context state
  refine ⟨calls, nested, ?_⟩
  rw [walk_eq_visit, walk_eq_visit, visited, List.nil_append]

end SqlAdvisor
