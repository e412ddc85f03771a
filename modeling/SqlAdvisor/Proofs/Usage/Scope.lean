import SqlAdvisor.Proofs.Statement.Query
import SqlAdvisor.Proofs.Usage.Extraction

/-! # Whose columns the unqualified ones are

A query has one alias map, that of its leftmost `SELECT`. A column without a qualifier is counted for the only table
of that map, wherever in the query it stands. Inside the leftmost `SELECT` that table is in scope; in another branch
of a set operation it need not be.
-/

namespace SqlAdvisor

namespace Place

/-- The place lies inside the tree of a node. -/
def LiesIn (place : Place) (n : Node) : Prop := ∃ o ∈ place.above, o.node = n

/-- A `SELECT` around the place reads the table. -/
def HasInScope (place : Place) (table : String) : Prop :=
  ∃ o ∈ place.above, o.node.cls = .select ∧ o.node.Reads table

theorem LiesIn.hasInScope {place : Place} {select : Node} {table : String} (within : place.LiesIn select)
    (isSelect : select.cls = .select) (reads : select.Reads table) : place.HasInScope table := by
  obtain ⟨o, around, rfl⟩ := within
  exact ⟨o, around, isSelect, reads⟩

theorem liesIn_root {root : Node} {place : Place} (mem : place ∈ root.places) (other : place.node.cls ≠ root.cls) :
    place.LiesIn root := by
  rcases Node.root_mem_above mem with rfl | around
  · exact absurd rfl other
  · exact ⟨_, around, rfl⟩

end Place

/-- A column that means a table of a query means one that the leftmost `SELECT` reads. -/
theorem SelectStatement.Shows.reads_of_resolve {s : SelectStatement} {root leftmost : Node} {known : List String}
    {qualifier table : String} (shows : s.Shows root leftmost)
    (among : ∀ name ∈ known, name ∈ s.tables.map (·.name))
    (means : resolve qualifier (.ofRefs s.tables) known = .known table) : leftmost.Reads table := by
  obtain ⟨ref, mem, named⟩ := List.mem_map.mp (resolve_known_mem among means)
  exact ⟨s.tables, shows.tables, ref, mem, named⟩

/-- A query of one table whose columns can all be counted has its records, and what has no qualifier in it means
    that table. -/
theorem Statement.ofNode_sole (tree : Node) (ref : TableRef) (query : tree.cls.IsQuery)
    (tables : (ofNode tree).map (·.tables) = .ok [ref]) (plain : ref.hasOddAlias = false)
    (countable : tree.places.all (fun place => place.node.columnFault?.isNone) = true) :
    ∃ statement log, ofNode tree = .ok statement ∧ statement.aliasMap = .ok (.ofRefs statement.tables) ∧
      statement.extractUsages (.ofRefs statement.tables) =
        .ok ⟨statement.usages (.ofRefs statement.tables), log⟩ ∧
      resolve "" (.ofRefs statement.tables) statement.tableNames = .known ref.name := by
  obtain ⟨statement, read, tables⟩ := Except.map_eq_ok.mp tables
  obtain ⟨isNode, readsColumns⟩ := ofNode_reads (query.elim .inl fun h => .inr (.inl h)) read
  have named : ∀ other ∈ statement.tables, other.hasOddAlias = false := by
    rw [tables]
    exact List.forall_mem_singleton.mpr plain
  have built : statement.aliasMap = .ok (.ofRefs statement.tables) := by
    rw [aliasMap, if_neg (by rw [tables]; simpa using plain)]
  have noFault : statement.usageFault? (.ofRefs statement.tables) = none := by
    refine (usageFault?_eq_none readsColumns named).mpr fun place mem _ => ?_
    exact Option.isNone_iff_eq_none.mp (List.all_eq_true.mp countable place (isNode ▸ mem))
  obtain ⟨log, extracts⟩ := extractUsages_eq_ok noFault
  exact ⟨statement, log, read, built, extracts, resolve_unqualified.mpr (by rw [tables]; rfl)⟩

/-- An unqualified column that is counted for a table, under its name, is counted for a table that the leftmost
    `SELECT` of the query reads. That table is in scope if the column lies inside the leftmost `SELECT`, and so in
    every query that is a `SELECT`. -/
theorem unqualified_counted_for_leftmost {tree : Node} {statement : Statement} {aliases : AliasMap}
    {extracted : Logged TableUsages} {place : Place} {table : String} (query : tree.cls.IsQuery)
    (read : Statement.ofNode tree = .ok statement) (built : statement.aliasMap = .ok aliases)
    (extracts : statement.extractUsages aliases = .ok extracted) (mem : place ∈ tree.places)
    (column : place.IsColumn) (unqualified : place.qualifier = "")
    (counted : resolve place.qualifier aliases statement.tableNames = .known table) :
    (∀ name, place.node.columnName? = some name → extracted.value.Holds .all (.known table) name) ∧
      aliases.values = [table] ∧
      ∃ leftmost, tree.leftmostQuery = .ok leftmost ∧ leftmost.Reads table ∧
        (leftmost.cls = .select → place.LiesIn leftmost → place.HasInScope table) ∧
        (tree.cls = .select → place.HasInScope table) := by
  obtain ⟨isNode, readsColumns⟩ := Statement.ofNode_reads (query.elim .inl fun h => .inr (.inl h)) read
  obtain ⟨rfl, -⟩ := Statement.aliasMap_eq_ok built
  obtain ⟨select, rfl, made⟩ := Statement.ofNode_query query read
  obtain ⟨leftmost, isLeftmost, shows⟩ := Node.toSelect_shows made
  have reads : leftmost.Reads table := shows.reads_of_resolve (fun name => Statement.mem_tableNames.mp) counted
  refine ⟨fun name named => ?holds, ?only, leftmost, isLeftmost, reads, fun isSelect within => ?inside,
    fun isSelect => ?whole⟩
  case holds =>
    rw [Statement.extractUsages_value extracts, (Statement.usages_exact readsColumns).holds, isNode]
    exact .inl ⟨place, mem, ⟨column, counted, named⟩, trivial⟩
  case only => exact resolve_unqualified.mp (unqualified ▸ counted)
  case inside => exact within.hasInScope isSelect reads
  case whole =>
    have other : place.node.cls ≠ tree.cls := by
      rw [column.cls_eq, isSelect]
      decide
    rw [Node.leftmostQuery_select isSelect] at isLeftmost
    cases isLeftmost
    exact (Place.liesIn_root mem other).hasInScope isSelect reads

/-- `name`, as a column without a qualifier -/
def bareColumn (name : String) : Node :=
  .mk .column [("this", .node (.mk .identifier [("this", .text name)] none))] (some name)

/-- `SELECT column FROM table` -/
def simpleSelect (column table : String) : Node :=
  let source : Node := .mk .table [("this", .node (.mk .identifier [("this", .text table)] none))] (some table)
  .mk .select
    [("expressions", .list [.node (bareColumn column)]),
     ("from_", .node (.mk .fromClause [("this", .node source)] none))]
    (some ("SELECT " ++ column ++ " FROM " ++ table))

theorem fromTables_simpleSelect (column : String) {table : String} (named : table ≠ "") :
    (simpleSelect column table).fromTables = .ok [⟨table, none⟩] :=
  fromTables_eq_singleton named rfl rfl

theorem ofNode_simpleSelect (column : String) {table : String} (named : table ≠ "") :
    Statement.ofNode (simpleSelect column table) = .ok (.select {
      node := simpleSelect column table
      sql := "SELECT " ++ column ++ " FROM " ++ table
      tables := [⟨table, none⟩]
      joins := []
      condition := .null
      groupBy := []
      orderBy := []
      resultColumns := [.node (bareColumn column)]
      isDistinct := false
      hasLimit := false
      setOperator := .none }) :=
  Statement.ofNode_select (.inl rfl)
    (Node.toSelect_eq (Node.leftmostQuery_select rfl) rfl (fromTables_simpleSelect column named) rfl rfl rfl rfl rfl)

/-- The column of a simple `SELECT` that lies below other nodes. -/
def simpleColumn (column : String) (above : List Occurrence) : Place :=
  ⟨above, ⟨bareColumn column, some ⟨.select, "expressions"⟩⟩⟩

theorem simpleColumn_mem (column table : String) (slot? : Option Slot) (above : List Occurrence) :
    simpleColumn column (above ++ [⟨simpleSelect column table, slot?⟩]) ∈
      Occurrence.places ⟨simpleSelect column table, slot?⟩ above := by
  have isChild : (simpleColumn column []).occurrence ∈ Occurrence.children ⟨simpleSelect column table, slot?⟩ :=
    .head _
  exact Occurrence.mem_places_of_mem_children isChild (Occurrence.self_mem_places _ _)

theorem unqualified_counted_simpleSelect :
    ∃ place ∈ (simpleSelect "id" "orders").places, place.IsColumn ∧ place.qualifier = "" ∧
      place.HasInScope "orders" := by
  have tables : (Statement.ofNode (simpleSelect "id" "orders")).map (·.tables) = .ok [⟨"orders", none⟩] := by
    rw [ofNode_simpleSelect "id" (by decide)]
    rfl
  obtain ⟨statement, log, read, built, extracts, meant⟩ :=
    Statement.ofNode_sole (simpleSelect "id" "orders") ⟨"orders", none⟩ (.inl rfl) tables rfl
      (by with_unfolding_all rfl)
  have mem := simpleColumn_mem "id" "orders" none []
  obtain ⟨-, -, leftmost, -, -, -, inScope⟩ :=
    unqualified_counted_for_leftmost (.inl rfl) read built extracts mem rfl rfl meant
  exact ⟨_, mem, rfl, rfl, inScope rfl⟩

/-- `SELECT id FROM orders UNION SELECT name FROM users` -/
def unionQuery : Node :=
  .mk .union
    [("this", .node (simpleSelect "id" "orders")), ("distinct", .flag true),
     ("expression", .node (simpleSelect "name" "users"))]
    (some "SELECT id FROM orders UNION SELECT name FROM users")

/-- The column of the second branch is counted for the table of the first, which its own `SELECT` does not read. -/
theorem unqualified_counted_out_of_scope :
    ∃ statement aliases extracted, Statement.ofNode unionQuery = .ok statement ∧
      statement.aliasMap = .ok aliases ∧ statement.extractUsages aliases = .ok extracted ∧
      ∃ place ∈ unionQuery.places, place.IsColumn ∧ place.qualifier = "" ∧
        place.node.columnName? = some "name" ∧ place.IsBelow (· = .select) ∧
        resolve place.qualifier aliases statement.tableNames = .known "orders" ∧
        extracted.value.Holds .all (.known "orders") "name" ∧ ¬place.HasInScope "orders" := by
  have leftmost : unionQuery.leftmostQuery = .ok (simpleSelect "id" "orders") := by
    rw [Node.leftmostQuery]
    exact Node.leftmostQuery_select rfl
  have made :=
    Node.toSelect_eq leftmost rfl (fromTables_simpleSelect "id" (by decide)) rfl rfl rfl rfl rfl
  have tables : (Statement.ofNode unionQuery).map (·.tables) = .ok [⟨"orders", none⟩] := by
    rw [Statement.ofNode_select (.inr rfl) made]
    rfl
  obtain ⟨statement, log, read, built, extracts, meant⟩ :=
    Statement.ofNode_sole unionQuery ⟨"orders", none⟩ (.inr rfl) tables rfl (by with_unfolding_all rfl)
  obtain ⟨isNode, readsColumns⟩ := Statement.ofNode_reads (.inr (.inl rfl)) read
  let second : Occurrence := ⟨simpleSelect "name" "users", some ⟨.union, "expression"⟩⟩
  have isChild : second ∈ Occurrence.children ⟨unionQuery, none⟩ := .tail _ (.head _)
  have mem : simpleColumn "name" [⟨unionQuery, none⟩, second] ∈ unionQuery.places :=
    Occurrence.mem_places_of_mem_children isChild (simpleColumn_mem "name" "users" _ [⟨unionQuery, none⟩])
  refine ⟨statement, _, _, read, built, extracts, _, mem, rfl, rfl, rfl, ⟨second, .tail _ (.head _), rfl⟩, meant,
    ?holds, ?scope⟩
  case holds =>
    rw [(Statement.usages_exact readsColumns).holds, isNode]
    exact .inl ⟨_, mem, ⟨rfl, meant, rfl⟩, trivial⟩
  case scope =>
    -- Around the column are the union and the `SELECT` of its own branch.
    have sources : (simpleSelect "name" "users").fromTables = .ok [⟨"users", none⟩] :=
      fromTables_simpleSelect "name" (by decide)
    rintro ⟨o, around, isSelect, refs, isFrom, ref, isSource, called⟩
    rcases List.mem_pair.mp around with rfl | rfl
    · cases isSelect
    · cases sources.symm.trans isFrom
      cases List.mem_singleton.mp isSource
      exact absurd called (by decide)

end SqlAdvisor
