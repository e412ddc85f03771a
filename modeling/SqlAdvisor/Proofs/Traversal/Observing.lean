import SqlAdvisor.Proofs.Traversal.Place

/-! # What a walk keeps and sees

What every visit of a node keeps, the walk keeps. For a visitor that only looks, the walk is a fold over the
places of the tree.
-/

namespace SqlAdvisor

/-! ## What a visitor keeps -/

namespace Visitor

variable {σ : Type} {v : Visitor σ} {holds : σ → Prop} {o : Occurrence}

private theorem enterFully_keeps
    (enters : ∀ kind ∈ o.kinds, ∀ context state, holds state → holds (v.enter o kind context state).1)
    (context : Context) {state : σ} (h : holds state) : holds (v.enterFully o context state).state := by
  refine List.foldlRecOn (motive := fun entrance : Entrance σ => holds entrance.state) o.kinds _ h ?_
  intro before h kind own
  exact enters kind own _ _ h

private theorem visitAll_keeps {trees : List Occurrence} {context : Context}
    (each : ∀ o ∈ trees, ∀ state, holds state → holds (v.visit o context state)) {state : σ} (h : holds state) :
    holds (v.visitAll trees context state) := by
  refine List.foldlRecOn (motive := holds) trees _ h ?_
  intro state h child mem
  exact each child mem state h

private theorem leaves_keep
    (leaves : ∀ kind ∈ o.kinds, ∀ context state, holds state → holds (v.leave o kind context state))
    (context : Context) {state : σ} (h : holds state) :
    holds (o.kinds.foldr (fun kind state => v.leave o kind context state) state) := by
  refine List.foldrRecOn (motive := holds) o.kinds _ h ?_
  intro state h kind own
  exact leaves kind own context state h

theorem visit_keeps {root : Node}
    (enters : ∀ o : Occurrence, o.node ∈ root.nodes → ∀ kind ∈ o.kinds, ∀ context state, holds state →
      holds (v.enter o kind context state).1)
    (leaves : ∀ o : Occurrence, o.node ∈ root.nodes → ∀ kind ∈ o.kinds, ∀ context state, holds state →
      holds (v.leave o kind context state))
    (o : Occurrence) (mem : o.node ∈ root.nodes) (context : Context) (state : σ) (h : holds state) :
    holds (v.visit o context state) := by
  induction size : o.node.size using Nat.strongRecOn generalizing o context state with
  | ind _ ih =>
      have entered := enterFully_keeps (enters o mem) context h
      rw [visit_eq]
      refine leaves_keep (leaves o mem) _ ?_
      split
      · refine visitAll_keeps ?_ entered
        intro child isChild state h
        have inTree : child.node ∈ root.nodes := by
          refine Node.mem_nodes_trans mem (Node.mem_nodes_of_mem_children ?_)
          exact Occurrence.node_mem_children isChild
        exact ih _ (size ▸ Occurrence.size_lt_of_mem_children isChild) child inTree _ state h rfl
      · exact entered

end Visitor

theorem walk_keeps {σ : Type} {v : Visitor σ} (holds : σ → Prop) {root : Node}
    (enters : ∀ o : Occurrence, o.node ∈ root.nodes → ∀ kind ∈ o.kinds, ∀ context state, holds state →
      holds (v.enter o kind context state).1)
    (leaves : ∀ o : Occurrence, o.node ∈ root.nodes → ∀ kind ∈ o.kinds, ∀ context state, holds state →
      holds (v.leave o kind context state))
    {state : σ} (h : holds state) (context : Context) : holds (walk root v state context) := by
  rw [walk_eq_visit]
  exact Visitor.visit_keeps enters leaves _ root.self_mem_nodes context state h

/-! ## Looking at every place -/

variable {σ : Type} (look : Occurrence → NodeKind → Context → σ → σ)

/-- What a visitor that only looks makes of one node. -/
def Occurrence.observe (o : Occurrence) (context : Context) (state : σ) : σ :=
  ((Visitor.observing look).enterFully o context state).state

theorem Occurrence.observe_eq (o : Occurrence) (context : Context) (state : σ) :
    o.observe look context state =
      look o o.node.cls.kind (context.entering o.node.cls.kind)
        (if o.isResultColumn then look o .resultColumn context state else state) := by
  rw [observe, Visitor.enterFully, kinds]
  split <;> rfl

namespace Visitor

private theorem observing_visit_eq (o : Occurrence) (context : Context) (state : σ) :
    (observing look).visit o context state =
      (observing look).visitAll o.children (context.enteringAll o.kinds) (o.observe look context state) := by
  have descends : ((observing look).enterFully o context state).descends = true := by
    refine List.foldlRecOn (motive := fun entrance : Entrance σ => entrance.descends = true) o.kinds _ rfl ?_
    intro before descends kind _
    exact (Bool.and_true _).trans descends
  have leaves : ∀ (kinds : List NodeKind) (context : Context) (state : σ),
      kinds.foldr (fun kind state => (observing look).leave o kind context state) state = state := by
    intro kinds context state
    induction kinds with
    | nil => rfl
    | cons kind rest ih => exact ih
  rw [visit_eq]
  simp only [leaves, descends, if_true, enterFully_context]
  rfl

theorem observing_visit (start : Context) (o : Occurrence) (above : List Occurrence) (state : σ) :
    (observing look).visit o (start.enteringAll (above.flatMap Occurrence.kinds)) state =
      (o.places above).foldl (fun state place => place.occurrence.observe look (place.context start) state)
        state := by
  induction h : o.node.size using Nat.strongRecOn generalizing o above state with
  | ind size ih =>
      have inner : (start.enteringAll (above.flatMap Occurrence.kinds)).enteringAll o.kinds =
          start.enteringAll ((above ++ [o]).flatMap Occurrence.kinds) := by
        rw [List.flatMap_append, Context.enteringAll_append, List.flatMap_singleton]
      -- The children are read in one context, and their places lie below one more node.
      rw [observing_visit_eq, Occurrence.places_eq, List.foldl_cons, inner, visitAll, List.foldl_flatMap]
      refine List.foldl_ext _ _ _ fun state child mem => ?_
      exact ih _ (h ▸ Occurrence.size_lt_of_mem_children mem) child (above ++ [o]) state rfl

end Visitor

/-- A walk that only looks goes through the places of the tree. -/
theorem walk_observing (root : Node) (state : σ) (start : Context) :
    walk root (.observing look) state start =
      root.places.foldl (fun state place => place.occurrence.observe look (place.context start) state)
        state := by
  rw [walk_eq_visit]
  exact Visitor.observing_visit look start ⟨root, none⟩ [] state

end SqlAdvisor
