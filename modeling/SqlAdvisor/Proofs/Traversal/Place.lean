import Mathlib.Data.List.Perm.Basic
import SqlAdvisor.Proofs.Traversal.Recursion

/-! # Places

A place is a node of a tree together with the nodes around it. The places of a tree, a node before its children,
are what a walk goes through. For a visitor that only looks, the walk is a fold over them, and the context of a
place says of which kinds the nodes around it are.
-/

namespace SqlAdvisor

/-- A node at its place, below the nodes around it, the outermost first. -/
structure Place where
  above : List Occurrence
  occurrence : Occurrence

/-- The places of a subtree that lies below other nodes. -/
def Occurrence.places (o : Occurrence) (above : List Occurrence) : List Place :=
  ⟨above, o⟩ :: o.children.attach.flatMap fun child => child.1.places (above ++ [o])
termination_by o.node.size
decreasing_by exact Occurrence.size_lt_of_mem_children child.2

/-- The places of a tree. -/
def Node.places (root : Node) : List Place := Occurrence.places ⟨root, none⟩ []

theorem Occurrence.places_eq (o : Occurrence) (above : List Occurrence) :
    o.places above = ⟨above, o⟩ :: o.children.flatMap fun child => child.places (above ++ [o]) := by
  rw [places]
  simp only [List.flatMap_subtype, List.unattach_attach]

namespace Place

/-- The node at the place. -/
def node (place : Place) : Node := place.occurrence.node

/-- A node of a class with the property lies around the place. -/
def IsBelow (place : Place) (property : NodeClass → Prop) : Prop :=
  ∃ o ∈ place.above, property o.node.cls

instance {place : Place} {property : NodeClass → Prop} [DecidablePred property] : Decidable (place.IsBelow property) :=
  inferInstanceAs (Decidable (∃ o ∈ place.above, property o.node.cls))

/-- The context in which the place is reached by a walk that starts in another. -/
def context (place : Place) (start : Context) : Context :=
  start.enteringAll (place.above.flatMap Occurrence.kinds)

end Place

/-! ## The nodes of a tree -/

/-- The nodes of a tree, at whatever places they stand. -/
def Node.nodes (root : Node) : List Node := root.places.map Place.node

private theorem Occurrence.map_node_places (o : Occurrence) (above : List Occurrence) :
    (o.places above).map Place.node = o.node.nodes := by
  have same : ∀ (size : Nat) (o other : Occurrence) (above around : List Occurrence), o.node.size = size →
      o.node = other.node → (o.places above).map Place.node = (other.places around).map Place.node := by
    intro size
    induction size using Nat.strongRecOn with
    | ind size ih =>
        rintro o ⟨node, slot?⟩ above around h rfl
        rw [places_eq, places_eq, List.map_cons, List.map_cons, List.map_flatMap, List.map_flatMap]
        refine congrArg₂ List.cons rfl (List.flatMap_congr fun child mem => ?_)
        exact ih _ (h ▸ size_lt_of_mem_children mem) child child _ _ rfl rfl
  exact same _ o ⟨o.node, none⟩ above [] rfl rfl

namespace Node

theorem nodes_eq (n : Node) : n.nodes = n :: n.children.flatMap nodes := by
  rw [nodes, places, Occurrence.places_eq, List.map_cons, List.map_flatMap, children, List.flatMap_map]
  refine congrArg₂ List.cons rfl ?_
  rw [Occurrence.children, List.flatMap_map]
  exact List.flatMap_congr fun child _ => Occurrence.map_node_places _ _

theorem self_mem_nodes (n : Node) : n ∈ n.nodes := by
  rw [nodes_eq]
  exact List.mem_cons_self

theorem mem_nodes_of_mem_children {n child : Node} (h : child ∈ n.children) : child ∈ n.nodes := by
  rw [nodes_eq]
  exact List.mem_cons_of_mem _ (List.mem_flatMap.mpr ⟨child, h, child.self_mem_nodes⟩)

theorem mem_nodes_trans {root inner n : Node} (h : inner ∈ root.nodes) (mem : n ∈ inner.nodes) :
    n ∈ root.nodes := by
  induction size : root.size using Nat.strongRecOn generalizing root with
  | ind _ ih =>
      rw [nodes_eq] at h ⊢
      rcases List.mem_cons.mp h with rfl | h
      · rwa [nodes_eq] at mem
      · obtain ⟨child, isChild, h⟩ := List.mem_flatMap.mp h
        have below : n ∈ child.nodes := ih _ (size ▸ size_lt_of_mem_children isChild) h rfl
        exact List.mem_cons_of_mem _ (List.mem_flatMap.mpr ⟨child, isChild, below⟩)

theorem mem_nodes_child {root n child : Node} {name : String} (h : n ∈ root.nodes)
    (held : n.child? name = some child) : child ∈ root.nodes :=
  mem_nodes_trans h (mem_nodes_of_mem_children (mem_children_of_child? held))

end Node

/-! ## What lies around a place -/

namespace Occurrence

theorem self_mem_places (o : Occurrence) (above : List Occurrence) : ⟨above, o⟩ ∈ o.places above := by
  rw [places_eq]
  exact List.mem_cons_self

theorem mem_places_of_mem_children {o child : Occurrence} {above : List Occurrence} {place : Place}
    (isChild : child ∈ o.children) (mem : place ∈ child.places (above ++ [o])) : place ∈ o.places above := by
  rw [places_eq]
  exact List.mem_cons_of_mem _ (List.mem_flatMap.mpr ⟨child, isChild, mem⟩)

theorem above_isPrefix {o : Occurrence} {above : List Occurrence} {place : Place} (mem : place ∈ o.places above) :
    above <+: place.above := by
  induction size : o.node.size using Nat.strongRecOn generalizing o above with
  | ind _ ih =>
      rw [places_eq] at mem
      rcases List.mem_cons.mp mem with rfl | mem
      · exact List.prefix_rfl
      · obtain ⟨child, isChild, mem⟩ := List.mem_flatMap.mp mem
        have below : above ++ [o] <+: place.above := ih _ (size ▸ size_lt_of_mem_children isChild) mem rfl
        exact (List.prefix_append above [o]).trans below

/-- What stands at the places of a subtree are its root and the children of its nodes, each once. -/
theorem occurrences_places_perm (o : Occurrence) (above : List Occurrence) :
    ((o.places above).map Place.occurrence).Perm (o :: o.node.nodes.flatMap fun parent => children ⟨parent, none⟩) := by
  induction size : o.node.size using Nat.strongRecOn generalizing o above with
  | ind _ ih =>
      have below : ∀ child ∈ o.children, ((child.places (above ++ [o])).map Place.occurrence).Perm
          (child :: child.node.nodes.flatMap fun parent => children ⟨parent, none⟩) :=
        fun child isChild => ih _ (size ▸ size_lt_of_mem_children isChild) child _ rfl
      have nodes : o.node.children = o.children.map Occurrence.node := by
        rw [children, List.map_map, Node.children]
        rfl
      have own : children ⟨o.node, none⟩ = o.children := rfl
      rw [places_eq, Node.nodes_eq, List.map_cons, List.map_flatMap, List.flatMap_cons, nodes, List.flatMap_map,
        List.flatMap_assoc, own]
      refine .cons o ((List.Perm.flatMap_left _ below).trans ?_)
      exact (List.map_append_flatMap_perm _ id _).symm.trans (by rw [List.map_id])

/-- What stands at the places of a subtree is its root, or a child of one of its nodes. -/
theorem exists_place_iff {o found : Occurrence} {above : List Occurrence} :
    (∃ place ∈ o.places above, place.occurrence = found) ↔
      found = o ∨ ∃ parent ∈ o.node.nodes, found ∈ children ⟨parent, none⟩ := by
  rw [← List.mem_map, (occurrences_places_perm o above).mem_iff, List.mem_cons, List.mem_flatMap]

end Occurrence

theorem Node.root_mem_above {root : Node} {place : Place} (mem : place ∈ root.places) :
    place = ⟨[], ⟨root, none⟩⟩ ∨ ⟨root, none⟩ ∈ place.above := by
  rw [places, Occurrence.places_eq] at mem
  refine (List.mem_cons.mp mem).imp_right fun mem => ?_
  obtain ⟨child, -, mem⟩ := List.mem_flatMap.mp mem
  exact (Occurrence.above_isPrefix mem).subset (by simp)

/-! ## The kinds of the classes -/

namespace NodeClass

theorem kind_other (name : String) (family : Family) : (other name family).kind =
    if (other name family).isCall then .functionCall
    else if (other name family).isOrdering then .orderBy
    else if (other name family).isBinary then .binaryOp
    else .other := by
  cases family <;> rfl

theorem isCall_other_ordering {name : String} {family : Family} (orders : (other name family).isOrdering = true) :
    (other name family).isCall = false := by
  cases family with
  | ordering => rfl
  | _ => cases orders

theorem kind_eq_whereClause {c : NodeClass} : c.kind = .whereClause ↔ c = .whereClause := by
  cases c with
  | other name family => simp [kind_other, apply_ite (· = NodeKind.whereClause)]
  | _ => decide

theorem kind_eq_functionCall {c : NodeClass} : c.kind = .functionCall ↔ c.isCall = true := by
  cases c with
  | other name family => simp [kind_other, apply_ite (· = NodeKind.functionCall)]
  | _ => decide

theorem kind_eq_groupBy {c : NodeClass} : c.kind = .groupBy ↔ c = .group := by
  cases c with
  | other name family => simp [kind_other, apply_ite (· = NodeKind.groupBy)]
  | _ => decide

theorem kind_eq_orderBy {c : NodeClass} : c.kind = .orderBy ↔ c.isOrdering = true := by
  cases c with
  | other name family =>
      rw [kind_other]
      cases orders : (other name family).isOrdering with
      | true => simp [isCall_other_ordering orders]
      | false => simp [apply_ite (· = NodeKind.orderBy)]
  | _ => decide

theorem kind_eq_columnRef {c : NodeClass} : c.kind = .columnRef ↔ c = .column := by
  cases c with
  | other name family => simp [kind_other, apply_ite (· = NodeKind.columnRef)]
  | _ => decide

theorem kind_ne_resultColumn {c : NodeClass} : c.kind ≠ .resultColumn := by
  cases c with
  | other name family => simp [kind_other, apply_ite (· = NodeKind.resultColumn)]
  | _ => decide

end NodeClass

/-! ## Contexts -/

namespace Context

theorem enteringAll_append (context : Context) (first second : List NodeKind) :
    context.enteringAll (first ++ second) = (context.enteringAll first).enteringAll second :=
  List.foldl_append

/-- A flag that each kind leaves alone or sets is set in the end by one of the kinds that set it. -/
private theorem flag_enteringAll {flag : Context → Bool} {sets : NodeKind}
    (entering : ∀ context kind, flag (entering context kind) = (flag context || kind = sets))
    (context : Context) (kinds : List NodeKind) :
    flag (context.enteringAll kinds) = true ↔ flag context = true ∨ sets ∈ kinds := by
  induction kinds generalizing context with
  | nil => simp [enteringAll]
  | cons kind rest ih =>
      have head := ih (context.entering kind)
      rw [entering, Bool.or_eq_true, decide_eq_true_eq] at head
      rw [List.mem_cons, ← or_assoc, eq_comm (a := sets)]
      exact head

variable {context : Context} {kinds : List NodeKind}

theorem inWhere_enteringAll :
    (context.enteringAll kinds).inWhere = true ↔ context.inWhere = true ∨ .whereClause ∈ kinds :=
  flag_enteringAll (fun context kind => by cases kind <;> simp [entering]) context kinds

theorem inFunction_enteringAll :
    (context.enteringAll kinds).inFunction = true ↔ context.inFunction = true ∨ .functionCall ∈ kinds :=
  flag_enteringAll (fun context kind => by cases kind <;> simp [entering]) context kinds

theorem inGroupBy_enteringAll :
    (context.enteringAll kinds).inGroupBy = true ↔ context.inGroupBy = true ∨ .groupBy ∈ kinds :=
  flag_enteringAll (fun context kind => by cases kind <;> simp [entering]) context kinds

theorem inOrderBy_enteringAll :
    (context.enteringAll kinds).inOrderBy = true ↔ context.inOrderBy = true ∨ .orderBy ∈ kinds :=
  flag_enteringAll (fun context kind => by cases kind <;> simp [entering]) context kinds

end Context

namespace Occurrence

theorem mem_kinds {o : Occurrence} {kind : NodeKind} :
    kind ∈ o.kinds ↔ kind = .resultColumn ∧ o.isResultColumn = true ∨ kind = o.node.cls.kind := by
  rw [kinds]
  split <;> simp_all

end Occurrence

namespace Place

private theorem kind_mem_above {place : Place} {kind : NodeKind} {property : NodeClass → Prop}
    (proper : kind ≠ .resultColumn) (same : ∀ c : NodeClass, c.kind = kind ↔ property c) :
    kind ∈ place.above.flatMap Occurrence.kinds ↔ place.IsBelow property := by
  simp only [List.mem_flatMap, Occurrence.mem_kinds, proper, false_and, false_or, IsBelow, ← same]
  exact exists_congr fun o => and_congr_right fun _ => eq_comm

theorem inWhere_context {place : Place} :
    (place.context .root).inWhere = true ↔ place.IsBelow (· = .whereClause) := by
  rw [Place.context, Context.inWhere_enteringAll, kind_mem_above (by decide)
    fun c => NodeClass.kind_eq_whereClause]
  simp [Context.root]

theorem inFunction_context {place : Place} :
    (place.context .root).inFunction = true ↔ place.IsBelow (·.isCall) := by
  rw [Place.context, Context.inFunction_enteringAll, kind_mem_above (by decide)
    fun c => NodeClass.kind_eq_functionCall]
  simp [Context.root]

theorem inGroupBy_context {place : Place} :
    (place.context .root).inGroupBy = true ↔ place.IsBelow (· = .group) := by
  rw [Place.context, Context.inGroupBy_enteringAll, kind_mem_above (by decide)
    fun c => NodeClass.kind_eq_groupBy]
  simp [Context.root]

theorem inOrderBy_context {place : Place} :
    (place.context .root).inOrderBy = true ↔ place.IsBelow (·.isOrdering) := by
  rw [Place.context, Context.inOrderBy_enteringAll, kind_mem_above (by decide)
    fun c => NodeClass.kind_eq_orderBy]
  simp [Context.root]

end Place

end SqlAdvisor
