import SqlAdvisor.Proofs.Statement.Sources
import SqlAdvisor.Proofs.Usage.Scope

/-! # Which tables have a record

Every table that an insertion mentions has a usage record, and so has every one that a statement of no kind of its own
mentions. An update or a deletion has records for its sources only, so a table of a subquery in its conditions has none.
-/

namespace SqlAdvisor

namespace Statement

variable {statement : Statement} {aliases : AliasMap} {extracted : Logged TableUsages} {table : String}

theorem extractUsages_succeeds :
    (∃ extracted, statement.extractUsages aliases = .ok extracted) ↔ statement.usageFault? aliases = none := by
  rw [extractUsages]
  cases statement.usageFault? aliases <;> simp

theorem known_mem_keys_extracted (built : statement.aliasMap = .ok aliases)
    (extracts : statement.extractUsages aliases = .ok extracted) :
    .known table ∈ extracted.value.keys ↔ table ∈ statement.tables.map (·.name) := by
  obtain ⟨rfl, -⟩ := aliasMap_eq_ok built
  rw [extractUsages_value extracts, known_mem_keys_usages, mem_tableNames]

end Statement

/-- A statement that is no query has a record for every table that its tree mentions, unless it is an update or a
    deletion. An update or a deletion, which has records if its columns can be counted, has one for every table that is
    one of its sources. There are no other records of known tables. -/
theorem tables_recorded {tree : Node} {statement : Statement} {aliases : AliasMap} (notQuery : ¬tree.cls.IsQuery)
    (read : Statement.ofNode tree = .ok statement) (built : statement.aliasMap = .ok aliases) :
    (¬tree.cls.Modifies → ∃ extracted, statement.extractUsages aliases = .ok extracted ∧
      ∀ table, .known table ∈ extracted.value.keys ↔ tree.Mentions table) ∧
    (tree.cls.Modifies →
      ((∃ extracted, statement.extractUsages aliases = .ok extracted) ↔
        ∀ place ∈ tree.places, place.IsCountedColumn → place.node.columnFault? = none) ∧
      ∀ extracted, statement.extractUsages aliases = .ok extracted →
        ∀ table, .known table ∈ extracted.value.keys ↔ tree.Draws table) := by
  obtain ⟨-, named⟩ := Statement.aliasMap_eq_ok built
  refine ⟨fun notModification => ?whole, fun modifies => ?modification⟩
  case whole =>
    obtain ⟨tables, noColumns⟩ := Statement.ofNode_whole notQuery notModification read
    have noFault : statement.usageFault? aliases = none := by
      rw [Statement.usageFault?, noColumns, if_neg (Statement.not_any_isNameless named)]
      rfl
    obtain ⟨log, extracts⟩ := Statement.extractUsages_eq_ok noFault
    refine ⟨_, extracts, fun table => ?_⟩
    rw [Statement.known_mem_keys_extracted built extracts, Node.names_allTables tables]
  case modification =>
    have tables := Statement.ofNode_modification modifies read
    obtain ⟨rfl, readsColumns⟩ := Statement.ofNode_reads (.inr (.inr modifies)) read
    refine ⟨?_, fun extracted extracts table => ?_⟩
    · rw [← Statement.usageFault?_eq_none readsColumns named]
      exact Statement.extractUsages_succeeds
    · rw [Statement.known_mem_keys_extracted built extracts, Node.names_modificationTables tables named]

theorem fromTable_mentions_orders : (fromTable "orders").Mentions "orders" := by
  have called : (plainTable "orders").IsTableCalled "orders" := isPlainTable_plainTable.isTableCalled (by decide)
  exact called.mentions.of_mem_children (.head _)

/-- `INSERT INTO archive SELECT id FROM orders` -/
def copyingInsert : Node :=
  let target : Node := .mk .table [("this", .node (.mk .identifier [("this", .text "archive")] none))] (some "archive")
  .mk .insert [("this", .node target), ("expression", .node (simpleSelect "id" "orders"))]
    (some "INSERT INTO archive SELECT id FROM orders")

theorem copyingInsert_read : ∃ statement, Statement.ofNode copyingInsert = .ok statement ∧
    statement.tables = [⟨"archive", none⟩, ⟨"orders", none⟩] := by
  have reads : (Statement.ofNode copyingInsert).map (·.tables) = .ok [⟨"archive", none⟩, ⟨"orders", none⟩] := by
    with_unfolding_all rfl
  exact Except.map_eq_ok.mp reads

theorem tables_recorded_copyingInsert :
    ∃ statement aliases extracted, Statement.ofNode copyingInsert = .ok statement ∧
      statement.aliasMap = .ok aliases ∧ statement.extractUsages aliases = .ok extracted ∧
      .known "orders" ∈ extracted.value.keys := by
  obtain ⟨statement, read, tables⟩ := copyingInsert_read
  have built : statement.aliasMap = .ok (.ofRefs statement.tables) := by
    rw [Statement.aliasMap, if_neg (by rw [tables]; decide)]
  obtain ⟨whole, -⟩ := tables_recorded (by rintro (h | h) <;> cases h) read built
  obtain ⟨extracted, extracts, recorded⟩ := whole (by rintro (h | h) <;> cases h)
  have inQuery : (simpleSelect "id" "orders").Mentions "orders" :=
    fromTable_mentions_orders.of_mem_children (.tail _ (.head _))
  have mentions : copyingInsert.Mentions "orders" := inQuery.of_mem_children (.tail _ (.head _))
  exact ⟨statement, _, extracted, read, built, extracts, (recorded _).mpr mentions⟩

/-- `WHERE EXISTS(SELECT 1 FROM orders)` -/
def whereOrdersExist : Node :=
  let one : Node := .mk .literal [("this", .text "1"), ("is_string", .flag false)] (some "1")
  let inner : Node :=
    .mk .select [("expressions", .list [.node one]), ("from_", .node (fromTable "orders"))]
      (some "SELECT 1 FROM orders")
  let condition : Node := .mk .existsQuery [("this", .node inner)] (some "EXISTS(SELECT 1 FROM orders)")
  .mk .whereClause [("this", .node condition)] none

theorem whereOrdersExist_mentions_orders : whereOrdersExist.Mentions "orders" := by
  refine Node.Mentions.of_mem_children (Node.Mentions.of_mem_children ?_ (.head _)) (.head _)
  exact fromTable_mentions_orders.of_mem_children (.tail _ (.head _))

/-- `DELETE FROM users WHERE EXISTS(SELECT 1 FROM orders)` -/
def guardedDelete : Node :=
  let target : Node := .mk .table [("this", .node (.mk .identifier [("this", .text "users")] none))] (some "users")
  .mk .delete [("this", .node target), ("where", .node whereOrdersExist)]
    (some "DELETE FROM users WHERE EXISTS(SELECT 1 FROM orders)")

/-- The deletion mentions a table that is none of its sources, and has no record for it. -/
theorem table_unrecorded_guardedDelete :
    ∃ statement aliases extracted, ¬guardedDelete.cls.IsQuery ∧ Statement.ofNode guardedDelete = .ok statement ∧
      statement.aliasMap = .ok aliases ∧ statement.extractUsages aliases = .ok extracted ∧
      guardedDelete.Mentions "orders" ∧ .known "orders" ∉ extracted.value.keys := by
  have reads : (Statement.ofNode guardedDelete).map (·.tables) = .ok [⟨"users", none⟩] := by with_unfolding_all rfl
  obtain ⟨statement, read, tables⟩ := Except.map_eq_ok.mp reads
  have built : statement.aliasMap = .ok (.ofRefs statement.tables) := by
    rw [Statement.aliasMap, if_neg (by rw [tables]; decide)]
  obtain ⟨isNode, readsColumns⟩ := Statement.ofNode_reads (.inr (.inr (.inr rfl))) read
  obtain ⟨-, named⟩ := Statement.aliasMap_eq_ok built
  have countable : guardedDelete.places.all (fun place => place.node.columnFault?.isNone) = true := by
    with_unfolding_all rfl
  have noFault : statement.usageFault? (.ofRefs statement.tables) = none := by
    refine (Statement.usageFault?_eq_none readsColumns named).mpr fun place mem _ => ?_
    exact Option.isNone_iff_eq_none.mp (List.all_eq_true.mp countable place (isNode ▸ mem))
  obtain ⟨log, extracts⟩ := Statement.extractUsages_eq_ok noFault
  refine ⟨statement, _, _, ?query, read, built, extracts, ?mentions, ?unrecorded⟩
  case query => rintro (h | h) <;> cases h
  case mentions => exact whereOrdersExist_mentions_orders.of_mem_children (.tail _ (.head _))
  case unrecorded =>
    rw [Statement.known_mem_keys_extracted built extracts, tables]
    decide

end SqlAdvisor
