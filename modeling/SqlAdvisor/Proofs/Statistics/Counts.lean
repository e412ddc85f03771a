import SqlAdvisor.Proofs.Dictionary
import SqlAdvisor.Proofs.Statement.Query
import SqlAdvisor.Proofs.Traversal.Observing
import SqlAdvisor.Proofs.Usage.Extraction
import SqlAdvisor.Statistics

/-! # What a walk counts

A node may be visited as two kinds, but each count asks for one of them. So a count is the number of the places with
a property, and where the property is one of the nodes alone, the number of the nodes of the tree that have it.
-/

namespace SqlAdvisor

theorem Node.length_nodes (root : Node) : root.nodes.length = root.size := by
  induction size : root.size using Nat.strongRecOn generalizing root with
  | ind _ ih =>
      have below : ∀ child ∈ root.children, child.nodes.length = child.size :=
        fun child isChild => ih _ (size ▸ size_lt_of_mem_children isChild) child rfl
      rw [← size, nodes_eq, size_eq, List.length_cons, Nat.add_comm]
      generalize root.children = children at below
      clear size ih
      induction children with
      | nil => rfl
      | cons child rest ih =>
          obtain ⟨first, others⟩ := List.forall_mem_cons.mp below
          rw [List.flatMap_cons, List.length_append, total_cons, first]
          have := ih others
          omega

namespace Counts

/-- What there is to count at some places. -/
def ofPlaces (places : List Place) : Counts where
  calls := places.countP (·.node.cls.isCall)
  aggregates := places.countP fun place => place.node.cls.isCall && place.node.cls.isAggregate
  windows := places.countP fun place => place.node.cls.isCall && place.occurrence.isWindowed
  stars := places.countP fun place => place.occurrence.isResultColumn && place.node.isStar
  conditions := places.countP fun place => place.node.cls.isCondition && place.IsBelow (· = .whereClause)

theorem inWhere_entering {context : Context} {kind : NodeKind} (other : kind ≠ .whereClause) :
    (context.entering kind).inWhere = context.inWhere := by
  cases kind <;> first | rfl | exact absurd rfl other

theorem inWhere_isCondition (place : Place) :
    (((place.context .root).entering place.node.cls.kind).inWhere && place.node.cls.isCondition) =
      (place.node.cls.isCondition && place.IsBelow (· = .whereClause)) := by
  cases condition : place.node.cls.isCondition with
  | false => simp
  | true =>
      have other : place.node.cls.kind ≠ .whereClause := by
        intro clause
        rw [NodeClass.kind_eq_whereClause.mp clause] at condition
        exact nomatch condition
      rw [inWhere_entering other, Bool.and_true, Bool.true_and, Bool.eq_iff_iff, Place.inWhere_context,
        decide_eq_true_iff]

/-- A place counts once, whether it is visited as one kind or as two. -/
theorem observe_place (place : Place) (counts : Counts) :
    place.occurrence.observe observe (place.context .root) counts = {
      calls := countIf place.node.cls.isCall counts.calls
      aggregates := countIf (place.node.cls.isCall && place.node.cls.isAggregate) counts.aggregates
      windows := countIf (place.node.cls.isCall && place.occurrence.isWindowed) counts.windows
      stars := countIf (place.occurrence.isResultColumn && place.node.isStar) counts.stars
      conditions := countIf (place.node.cls.isCondition && place.IsBelow (· = .whereClause)) counts.conditions } := by
  have proper : place.occurrence.node.cls.kind ≠ .resultColumn := NodeClass.kind_ne_resultColumn
  have call : place.occurrence.node.cls.kind = .functionCall ↔ _ := NodeClass.kind_eq_functionCall
  rw [Occurrence.observe_eq, ← inWhere_isCondition]
  cases place.occurrence.isResultColumn <;> cases isCall : place.occurrence.node.cls.isCall <;>
    simp [observe, countIf, Place.node, proper, call, isCall]

theorem countP_append_singleton (property : Place → Bool) (seen : List Place) (place : Place) :
    (seen ++ [place]).countP property = countIf (property place) (seen.countP property) := by
  rw [List.countP_append, List.countP_singleton, countIf]
  split <;> omega

/-- A walk counts what there is to count at the places of the tree. -/
theorem ofNode_eq (root : Node) : ofNode root = ofPlaces root.places := by
  rw [ofNode, walk_observing]
  induction root.places using List.reverseRecOn with
  | nil => rfl
  | append_singleton seen place ih =>
      rw [List.foldl_append, ih, List.foldl_cons, List.foldl_nil, observe_place]
      simp only [ofPlaces, countP_append_singleton]

end Counts

/-! ## Stars -/

/-- The list of a `SELECT` in the tree has a star. -/
def Node.HasStarItem (root : Node) : Prop :=
  ∃ select ∈ root.nodes, select.cls = .select ∧
    ∃ item, ("expressions", item) ∈ select.namedChildren ∧ item.isStar = true

theorem Node.hasStarItem_iff {root : Node} : root.HasStarItem ↔ ∃ place ∈ root.places, place.IsStar := by
  constructor
  · rintro ⟨select, inTree, isSelect, item, held, star⟩
    have child : ⟨item, some ⟨select.cls, "expressions"⟩⟩ ∈ Occurrence.children ⟨select, none⟩ :=
      List.mem_map.mpr ⟨_, held, rfl⟩
    obtain ⟨place, mem, stands⟩ : ∃ place ∈ root.places, place.occurrence = _ :=
      Occurrence.exists_place_iff.mpr (.inr ⟨select, inTree, child⟩)
    refine ⟨place, mem, ?_, ?_⟩
    · rw [stands, isSelect]
      rfl
    · rw [Place.node, stands]
      exact star
  · rintro ⟨place, mem, result, star⟩
    rcases Occurrence.exists_place_iff.mp ⟨place, mem, rfl⟩ with atRoot | ⟨select, inTree, child⟩
    · rw [atRoot] at result
      cases result
    · obtain ⟨⟨name, item⟩, held, stands⟩ := List.mem_map.mp child
      rw [Place.node, ← stands] at star
      rw [← stands, Occurrence.isResultColumn, decide_eq_true_eq, Option.some.injEq, Slot.mk.injEq] at result
      obtain ⟨isSelect, rfl⟩ := result
      exact ⟨select, inTree, isSelect, item, held, star⟩

theorem Counts.stars_pos {root : Node} : 0 < (ofNode root).stars ↔ root.HasStarItem := by
  rw [ofNode_eq, ofPlaces, List.countP_pos_iff, Node.hasStarItem_iff]
  simp only [Bool.and_eq_true]
  rfl

/-! ## The statistics of a statement -/

theorem Statement.statistic_eq (statement : Statement) (usages : TableUsages) {name : String} {value : Datum}
    (mem : (name, value) ∈ statement.structural ++
      [("total_where_columns_used", .ofNat (total (·.filtering.size) usages.values)),
       ("total_functions_on_where_columns", .ofNat (total (·.wrapped.size) usages.values))]) :
    (statement.statistics (some usages)).find? name = some value := by
  apply Dictionary.find?_ofList _ mem
  cases statement <;> simp [structural, SelectStatement.statistics]

theorem Statement.structural_eq (statement : Statement) (usages : Option TableUsages) {name : String} {value : Datum}
    (mem : (name, value) ∈ statement.structural) : (statement.statistics usages).find? name = some value := by
  cases usages with
  | some usages => exact statement.statistic_eq usages (List.mem_append_left _ mem)
  | none =>
      apply Dictionary.find?_ofList _ (List.mem_append_left _ mem)
      cases statement <;> simp [structural, SelectStatement.statistics]

/-- The counts of a query are told of the whole tree: calls, those of aggregates, whether the list of a `SELECT` has a
    star, and the conditions in `WHERE` clauses. Each node of the tree is one place. -/
theorem query_counts_each_node_once {tree : Node} {statement : Statement} (query : tree.cls.IsQuery)
    (read : Statement.ofNode tree = .ok statement) (usages : Option TableUsages) :
    let told := (statement.statistics usages).find?
    told "function_call_count" = some (.ofNat (tree.nodes.countP (·.cls.isCall))) ∧
    told "aggregate_function_count" = some (.ofNat (tree.nodes.countP fun n => n.cls.isCall && n.cls.isAggregate)) ∧
    (∃ star, told "uses_select_star" = some (.bool star) ∧ (star = true ↔ tree.HasStarItem)) ∧
    told "where_condition_complexity" = some (.ofNat (tree.places.countP fun place =>
      place.node.cls.isCondition && place.IsBelow (· = .whereClause))) ∧
    tree.nodes = tree.places.map Place.node ∧ tree.nodes.length = tree.size := by
  obtain ⟨s, rfl, made⟩ := Statement.ofNode_query query read
  have node : s.node = tree := Node.toSelect_node made
  have found {name : String} {value : Datum} (mem : (name, value) ∈ s.statistics) :=
    (Statement.select s).structural_eq usages mem
  have counts : Counts.ofNode s.node = Counts.ofPlaces tree.places := by rw [node, Counts.ofNode_eq]
  have calls : tree.nodes.countP (·.cls.isCall) = (Counts.ofNode s.node).calls := by
    rw [counts, Node.nodes, List.countP_map]
    rfl
  have aggregates : tree.nodes.countP (fun n => n.cls.isCall && n.cls.isAggregate) =
      (Counts.ofNode s.node).aggregates := by
    rw [counts, Node.nodes, List.countP_map]
    rfl
  have conditions : tree.places.countP (fun place => place.node.cls.isCondition && place.IsBelow (· = .whereClause)) =
      (Counts.ofNode s.node).conditions := by
    rw [counts]
    rfl
  have stars : decide (0 < (Counts.ofNode s.node).stars) = true ↔ tree.HasStarItem := by
    rw [decide_eq_true_iff, Counts.stars_pos, node]
  intro told
  rw [calls, aggregates, conditions]
  refine ⟨?_, ?_, ⟨_, ?star, stars⟩, ?_, rfl, tree.length_nodes⟩
  all_goals exact found (by simp [SelectStatement.statistics])

/-- `SELECT 1 WHERE (SELECT MAX(total) > 9 FROM payments)`. The comparison is a result of the inner query. -/
def comparingQuery : Node :=
  let identifier (name : String) : Argument := .node (.mk .identifier [("this", .text name)] none)
  let number (digits : String) : Argument := .node (.mk .literal [("this", .text digits)] (some digits))
  let greatest : Node := .mk .max [("this", .node (.mk .column [("this", identifier "total")] none))] none
  let comparison : Node := .mk .gt [("this", .node greatest), ("expression", number "9")] none
  let payments : Node := .mk .fromClause [("this", .node (.mk .table [("this", identifier "payments")] none))] none
  let inner : Node := .mk .select [("expressions", .list [.node comparison]), ("from_", .node payments)] none
  .mk .select
    [("expressions", .list [number "1"]),
     ("where", .node (.mk .whereClause [("this", .node (.mk .subquery [("this", .node inner)] none))] none))] none

theorem query_counts_each_node_once_comparingQuery : ∃ statement, Statement.ofNode comparingQuery = .ok statement ∧
    (statement.statistics none).find? "function_call_count" = some (.ofNat 1) ∧
    (statement.statistics none).find? "aggregate_function_count" = some (.ofNat 1) ∧
    (statement.statistics none).find? "where_condition_complexity" = some (.ofNat 1) := by
  have reads : (Statement.ofNode comparingQuery).map (·.isExplainable) = .ok true := by with_unfolding_all rfl
  obtain ⟨statement, read, -⟩ := Except.map_eq_ok.mp reads
  obtain ⟨calls, aggregates, -, conditions, -, -⟩ := query_counts_each_node_once (.inl rfl) read none
  have classes : comparingQuery.nodes.map Node.cls = [.select, .literal, .whereClause, .subquery, .select, .gt, .max,
      .column, .identifier, .literal, .fromClause, .table, .identifier] := by with_unfolding_all rfl
  have oneCall : (comparingQuery.nodes.map Node.cls).countP (·.isCall) = 1 := by rw [classes]; decide
  have oneAggregate : ((comparingQuery.nodes.map Node.cls).countP fun c => c.isCall && c.isAggregate) = 1 := by
    rw [classes]
    decide
  have oneCondition : (comparingQuery.places.countP fun place =>
      place.node.cls.isCondition && place.IsBelow (· = .whereClause)) = 1 := by with_unfolding_all rfl
  rw [List.countP_map] at oneCall oneAggregate
  exact ⟨statement, read, oneCall ▸ calls, oneAggregate ▸ aggregates, oneCondition ▸ conditions⟩

end SqlAdvisor
