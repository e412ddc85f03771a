import SqlAdvisor.Proofs.Steps
import SqlAdvisor.Statement.OfNode

/-! # What a query shows

The clauses of a query are those of the first operand down its left side that is no set operation. Only its ordering
and its limit may come from the root.
-/

namespace SqlAdvisor

theorem Argument.isNull_iff {argument : Argument} : argument.isNull = true ↔ argument = .null := by
  cases argument <;> simp [isNull]

/-- A source of the `FROM` clause or of a join goes by the name. -/
def Node.Reads (n : Node) (table : String) : Prop :=
  ∃ refs, n.fromTables = .ok refs ∧ ∃ ref ∈ refs, ref.name = table

/-- The clause that orders a query: that of its root, or else that of its leftmost `SELECT`. -/
def Node.ordering (root leftmost : Node) : Argument :=
  if (root.arg "order").truthy then root.arg "order" else leftmost.arg "order"

/-- The query shows the clauses of a root and of the leftmost `SELECT` below it. -/
structure SelectStatement.Shows (s : SelectStatement) (root leftmost : Node) : Prop where
  node : s.node = root
  tables : leftmost.fromTables = .ok s.tables
  condition : leftmost.whereCondition = .ok s.condition
  grouping : Node.clauseItems (leftmost.arg "group") = .ok s.groupBy
  ordering : (Node.clauseItems (root.ordering leftmost)).map (·.map Node.sortKey) = .ok s.orderBy
  distinct : s.isDistinct = !(leftmost.arg "distinct").isNull

theorem Node.toSelect_shows {root : Node} {s : SelectStatement} (h : root.toSelect = .ok s) :
    ∃ leftmost, root.leftmostQuery = .ok leftmost ∧ s.Shows root leftmost := by
  simp only [toSelect, Except.bind_eq_ok] at h
  obtain ⟨sql, -, leftmost, isLeftmost, tables, isTables, joins, -, condition, isCondition, h⟩ := h
  obtain ⟨groupBy, isGroupBy, orderBy, isOrderBy, columns, -, h⟩ := h
  cases h
  refine ⟨leftmost, isLeftmost, rfl, isTables, isCondition, isGroupBy, ?_, rfl⟩
  exact Except.map_eq_ok.mpr ⟨orderBy, isOrderBy, rfl⟩

theorem Node.leftmostQuery_select {n : Node} (select : n.cls = .select) : n.leftmostQuery = .ok n := by
  rw [leftmostQuery, if_neg]
  simp [select, NodeClass.isSetOperation]

/-- The classes of the trees that are queries. -/
def NodeClass.IsQuery (c : NodeClass) : Prop := c = .select ∨ c.isSetOperation = true

instance (c : NodeClass) : Decidable c.IsQuery := inferInstanceAs (Decidable (_ ∨ _))

/-- The statement is of the kind that the class of the tree calls for, and made of the tree. -/
inductive Statement.IsMadeOf (tree : Node) : Statement → Prop where
  | select {s : SelectStatement} (query : tree.cls.IsQuery) (made : tree.toSelect = .ok s) : IsMadeOf tree (.select s)
  | insert {s : InsertStatement} (cls : tree.cls = .insert) (made : tree.toInsert = .ok s) : IsMadeOf tree (.insert s)
  | update {s : UpdateStatement} (cls : tree.cls = .update) (made : tree.toUpdate = .ok s) : IsMadeOf tree (.update s)
  | delete {s : DeleteStatement} (cls : tree.cls = .delete) (made : tree.toDelete = .ok s) : IsMadeOf tree (.delete s)
  | other {s : OtherStatement} (notQuery : ¬tree.cls.IsQuery) (notInsert : tree.cls ≠ .insert)
      (notUpdate : tree.cls ≠ .update) (notDelete : tree.cls ≠ .delete) (made : tree.toOther = .ok s) :
      IsMadeOf tree (.other s)

theorem Statement.isMadeOf {tree : Node} {statement : Statement} (read : ofNode tree = .ok statement) :
    IsMadeOf tree statement := by
  rw [ofNode] at read
  split at read
  · rename_i query
    obtain ⟨s, made, read⟩ := Except.bind_eq_ok.mp read
    cases read
    exact .select (by simpa [NodeClass.IsQuery] using query) made
  · rename_i notQuery
    split at read <;> obtain ⟨s, made, read⟩ := Except.bind_eq_ok.mp read <;> cases read
    · exact .insert ‹_› made
    · exact .update ‹_› made
    · exact .delete ‹_› made
    · exact .other (by simpa [NodeClass.IsQuery] using notQuery) ‹_› ‹_› ‹_› made

theorem Statement.ofNode_query {root : Node} {statement : Statement} (query : root.cls.IsQuery)
    (read : ofNode root = .ok statement) : ∃ s, statement = .select s ∧ root.toSelect = .ok s := by
  cases isMadeOf read with
  | select _ made => exact ⟨_, rfl, made⟩
  | insert cls | update cls | delete cls => simp [NodeClass.IsQuery, cls, NodeClass.isSetOperation] at query
  | other notQuery => exact absurd query notQuery

theorem Statement.ofNode_select {n : Node} {s : SelectStatement} (query : n.cls.IsQuery) (made : n.toSelect = .ok s) :
    ofNode n = .ok (.select s) := by
  rw [ofNode, if_pos (by simpa [NodeClass.IsQuery] using query), made]
  rfl

/-- A query is read as the clauses that it shows, if these can be read. -/
theorem Node.toSelect_eq {n leftmost : Node} {sql : String} {tables : List TableRef} {joins : List JoinRef}
    {condition : Argument} {groupBy orderBy columns : List Argument} (isLeftmost : n.leftmostQuery = .ok leftmost)
    (written : n.sql = .ok sql) (isFrom : leftmost.fromTables = .ok tables) (joined : leftmost.joins = .ok joins)
    (filters : leftmost.whereCondition = .ok condition) (grouped : clauseItems (leftmost.arg "group") = .ok groupBy)
    (ordered : clauseItems (n.ordering leftmost) = .ok orderBy) (listed : leftmost.items "expressions" = .ok columns) :
    n.toSelect = .ok {
      node := n
      sql := sql
      tables := tables
      joins := joins
      condition := condition
      groupBy := groupBy
      orderBy := orderBy.map sortKey
      resultColumns := columns
      isDistinct := !(leftmost.arg "distinct").isNull
      hasLimit := n.limitsRows || leftmost.limitsRows
      setOperator := n.setOperator } := by
  rw [ordering] at ordered
  simp only [toSelect, bind, Except.bind, written, isLeftmost, isFrom, joined, filters, grouped, ordered, listed]
  rfl

/-! ## Tables of plain names -/

/-- The node is a table that is called by one identifier, without catalog and schema. -/
structure Node.IsPlainTable (n : Node) (table : String) : Prop where
  cls : n.cls = .table
  identifier : n.child? "this" = some (.mk .identifier [("this", .text table)] none)
  catalog : n.named "catalog" = .text ""
  schema : n.named "db" = .text ""

namespace Node.IsPlainTable

variable {n : Node} {table : String}

theorem name_eq (plain : n.IsPlainTable table) : n.name = .ok (.text table) := by
  have inner : (Node.mk .identifier [("this", .text table)] none).name = .ok (.text table) := by
    rw [Node.name]
    rfl
  rw [Node.name]
  simp only [plain.cls]
  split
  · rename_i child held
    cases plain.identifier.symm.trans held
    exact inner
  · rename_i missing
    cases plain.identifier.symm.trans missing

theorem tableName_eq (plain : n.IsPlainTable table) (named : table ≠ "") : n.tableName = .ok table := by
  have part : namePart? (.text table) = .ok (some table) := by simp [namePart?, nonEmpty?, named]
  have parts : [n.named "catalog", n.named "db", .text table].mapM namePart? = .ok [none, none, some table] := by
    rw [plain.catalog, plain.schema]
    exact Except.mapM_eq_ok.mpr (.cons rfl (.cons rfl (.cons part .nil)))
  simp only [tableName, plain.name_eq, bind, Except.bind, parts]
  exact congrArg Except.ok String.intercalate_singleton

theorem sourceRef?_eq {alias? : Option Label} (plain : n.IsPlainTable table) (named : table ≠ "")
    (aliased : n.givenAlias? = .ok alias?) : sourceRef? (.node n) = .ok (some ⟨table, alias?⟩) := by
  have given : (Argument.text table).truthy = true := by simp [Argument.truthy, named]
  simp only [sourceRef?, plain.cls, if_true, plain.name_eq, plain.tableName_eq named, aliased, bind, Except.bind, given]
  rfl

end Node.IsPlainTable

/-- A table of a plain name. -/
def plainTable (table : String) : Node :=
  .mk .table [("this", .node (.mk .identifier [("this", .text table)] none))] (some table)

/-- `FROM table` -/
def fromTable (table : String) : Node := .mk .fromClause [("this", .node (plainTable table))] none

variable {n : Node} {table : String}

theorem isPlainTable_plainTable : (plainTable table).IsPlainTable table := ⟨rfl, rfl, rfl, rfl⟩

theorem sourceRef?_plainTable (named : table ≠ "") :
    Node.sourceRef? (.node (plainTable table)) = .ok (some ⟨table, none⟩) :=
  isPlainTable_plainTable.sourceRef?_eq named rfl

theorem fromTables_eq_singleton (named : table ≠ "") (reads : n.clause "from" = .node (fromTable table))
    (unjoined : n.arg "joins" = .null) : n.fromTables = .ok [⟨table, none⟩] := by
  have source : Node.sourceRefs [.node (plainTable table)] = .ok [⟨table, none⟩] := by
    rw [Node.sourceRefs, List.mapM_cons, sourceRef?_plainTable named]
    rfl
  have clause : Node.requireNode (.node (fromTable table)) = .ok (fromTable table) := rfl
  have held : (fromTable table).arg "this" = .node (plainTable table) := rfl
  have alone : (fromTable table).items "expressions" = .ok [] := rfl
  have joins : n.items "joins" = .ok [] := by
    rw [Node.items, unjoined]
    rfl
  rw [Node.fromTables, reads]
  simp only [bind, Except.bind, clause, held, alone, source, joins]
  rfl

end SqlAdvisor
