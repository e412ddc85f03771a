import SqlAdvisor.Proofs.Analysis.Totality
import SqlAdvisor.Proofs.Usage.Aliases

/-! # Columns of tables that differ by schema

The full name of a table has its schema, but a column is counted by its qualifier alone. So the columns of two tables
that differ by nothing but the schema are all counted for one of them.
-/

namespace SqlAdvisor

/-- The reference to a table of a schema that has no alias. -/
def TableRef.ofSchema (schema table : String) : TableRef := ⟨schema ++ "." ++ table, none⟩

/-- The node is a column, written with a schema and a table in front of its name. -/
def Place.IsOfSchema (place : Place) (schema table : String) : Prop :=
  place.IsColumn ∧ place.node.named "db" = .text schema ∧ place.qualifier = table

theorem TableRef.ofSchema_name_inj {first second table : String} :
    (ofSchema first table).name = (ofSchema second table).name ↔ first = second := by
  simp [ofSchema, String.append_left_inj]

theorem Means.exists_known {refs : List TableRef} {ref : TableRef} {qualifier : String}
    (plain : ∀ ref ∈ refs, ref.hasOddAlias = false) (mem : ref ∈ refs) (called : ref.simpleName = qualifier) :
    ∃ name, Means refs qualifier (.known name) := by
  obtain ⟨key, means⟩ := Means.exists_key plain qualifier
  cases means with
  | addressed last => exact ⟨_, .addressed last⟩
  | named unaddressed among named first => exact ⟨_, .named unaddressed among named first⟩
  | unknown _ unnamed => exact absurd (.inr (congrArg Text.lower called)) (unnamed ref mem)

/-- Of two tables without aliases that differ by schema only, the name that they share means one table of the
    statement. Every column with that name for its qualifier is counted for it, whatever schema the column is written
    with. So a column with a schema is counted for the table of its schema exactly if that is the table meant, and of
    columns of both schemas some are counted for the wrong table. -/
theorem schemas_share_columns {tree : Node} {statement : Statement} {first second table : String}
    (reads : tree.cls.ReadsColumns) (read : Statement.ofNode tree = .ok statement) (regular : statement.IsRegular)
    (ofFirst : TableRef.ofSchema first table ∈ statement.tables)
    (ofSecond : TableRef.ofSchema second table ∈ statement.tables) (differ : first ≠ second)
    (simple : (TableRef.ofSchema first table).simpleName = table) (given : table ≠ "") :
    ∃ aliases extracted owner, statement.aliasMap = .ok aliases ∧ statement.extractUsages aliases = .ok extracted ∧
      Means statement.tables table (.known owner) ∧
      (∀ place ∈ tree.places, place.IsColumn → place.qualifier = table →
        resolve place.qualifier aliases statement.tableNames = .known owner ∧
        ∃ name, place.node.columnName? = some name ∧
          ∀ set : UsageSet, set.Covers place → extracted.value.Holds set (.known owner) name) ∧
      (∀ place ∈ tree.places, ∀ schema, place.IsOfSchema schema table →
        (resolve place.qualifier aliases statement.tableNames = .known (TableRef.ofSchema schema table).name ↔
          (TableRef.ofSchema schema table).name = owner)) ∧
      ((∃ place ∈ tree.places, place.IsOfSchema first table) → (∃ place ∈ tree.places, place.IsOfSchema second table) →
        ∃ place ∈ tree.places, ∃ schema ∈ [first, second], place.IsOfSchema schema table ∧
          resolve place.qualifier aliases statement.tableNames ≠ .known (TableRef.ofSchema schema table).name) := by
  obtain ⟨isNode, readsColumns⟩ := Statement.ofNode_reads reads read
  obtain ⟨log, extracts⟩ := regular.extractUsages_total
  obtain ⟨owner, means⟩ := Means.exists_known regular.aliases ofFirst simple
  have counted : ∀ place ∈ tree.places, place.qualifier = table →
      resolve place.qualifier (.ofRefs statement.tables) statement.tableNames = .known owner := by
    rintro place - rfl
    exact means.resolve_eq regular.aliases given
  have right : ∀ place ∈ tree.places, ∀ schema, place.IsOfSchema schema table →
      (resolve place.qualifier (.ofRefs statement.tables) statement.tableNames =
          .known (TableRef.ofSchema schema table).name ↔ (TableRef.ofSchema schema table).name = owner) := by
    intro place mem schema written
    rw [counted place mem written.2.2, TableKey.known.injEq, eq_comm]
  refine ⟨_, _, owner, regular.aliasMap_eq_ok, extracts, means, ?holds, right, ?wrong⟩
  case holds =>
    intro place mem column qualified
    have meant := counted place mem qualified
    obtain ⟨name, named⟩ :=
      Node.columnName?_eq_some (regular.nodes _ (isNode ▸ List.mem_map_of_mem mem)) column
    refine ⟨meant, name, named, fun set covers => ?_⟩
    rw [(Statement.usages_exact readsColumns).holds, isNode]
    exact .inl ⟨place, mem, ⟨column, meant, named⟩, covers⟩
  case wrong =>
    rintro ⟨one, memOne, writtenOne⟩ ⟨other, memOther, writtenOther⟩
    by_cases isFirst : (TableRef.ofSchema first table).name = owner
    · refine ⟨other, memOther, second, by simp, writtenOther, fun resolved => ?_⟩
      have isSecond := (right other memOther second writtenOther).mp resolved
      exact differ (TableRef.ofSchema_name_inj.mp (isFirst.trans isSecond.symm))
    · exact ⟨one, memOne, first, by simp, writtenOne, mt (right one memOne first writtenOne).mp isFirst⟩

/-- `SELECT shop.orders.id, archive.orders.total FROM shop.orders JOIN archive.orders` -/
def archivedTotals : Node :=
  let identifier (name : String) : Argument := .node (.mk .identifier [("this", .text name)] none)
  let column (schema name : String) : Argument :=
    .node (.mk .column [("this", identifier name), ("table", identifier "orders"), ("db", identifier schema)]
      (some (schema ++ ".orders." ++ name)))
  let source (schema : String) : Argument :=
    .node (.mk .table [("this", identifier "orders"), ("db", identifier schema)] (some (schema ++ ".orders")))
  .mk .select
    [("expressions", .list [column "shop" "id", column "archive" "total"]),
     ("from_", .node (.mk .fromClause [("this", source "shop")] none)),
     ("joins", .list [.node (.mk .join [("this", source "archive")] none)])]
    (some "SELECT shop.orders.id, archive.orders.total FROM shop.orders JOIN archive.orders")

theorem archivedTotals_read : ∃ statement, Statement.ofNode archivedTotals = .ok statement ∧ statement.IsRegular ∧
    statement.tables = [.ofSchema "shop" "orders", .ofSchema "archive" "orders"] := by
  have reads : (Statement.ofNode archivedTotals).map (fun statement => (statement.tables, statement.clauseParts)) =
      .ok ([.ofSchema "shop" "orders", .ofSchema "archive" "orders"], [.null]) := by with_unfolding_all rfl
  obtain ⟨statement, read, parts⟩ := Except.map_eq_ok.mp reads
  obtain ⟨tables, parts⟩ := Prod.mk.inj parts
  obtain ⟨isNode, -⟩ := Statement.ofNode_reads (.inl rfl) read
  refine ⟨statement, read, Statement.isRegular_of_bare isNode (by with_unfolding_all rfl) ?_ ?_, tables⟩
  · rw [tables]
    decide
  · rw [parts]
    exact List.forall_mem_singleton.mpr rfl

theorem archivedTotals_ofSchema : ∀ written ∈ [("shop", "id"), ("archive", "total")],
    ∃ place ∈ archivedTotals.places, place.IsOfSchema written.1 "orders" ∧
      place.node.columnName? = some written.2 := by
  have found : [("shop", "id"), ("archive", "total")].all (fun written =>
      archivedTotals.places.any fun place => place.node.isPlainColumn &&
        (place.node.named "db").text? = some written.1 && place.qualifier = "orders" &&
        place.node.columnName? = some written.2) = true := by with_unfolding_all rfl
  intro written mem
  obtain ⟨place, isPlace, facts⟩ := List.any_eq_true.mp (List.all_eq_true.mp found written mem)
  simp only [Bool.and_eq_true, decide_eq_true_eq, Argument.text?_eq_some] at facts
  obtain ⟨⟨⟨column, schema⟩, qualifier⟩, name⟩ := facts
  exact ⟨place, isPlace, ⟨column, schema, qualifier⟩, name⟩

theorem archivedTotals_means :
    Means [.ofSchema "shop" "orders", .ofSchema "archive" "orders"] "orders" (.known "shop.orders") := by
  let shop : TableRef := .ofSchema "shop" "orders"
  let archive : TableRef := .ofSchema "archive" "orders"
  have plain : ∀ ref ∈ [shop, archive], ref.hasOddAlias = false := by decide
  have differs : [shop, archive].all (fun ref => decide (Text.lower ref.handle ≠ Text.lower "orders")) = true := by cbv
  have unaddressed : ∀ ref ∈ [shop, archive], ¬ref.HasKey (Text.lower "orders") := by
    intro ref mem has
    exact of_decide_eq_true (List.all_eq_true.mp differs ref mem) ((TableRef.hasKey_iff (plain ref mem)).mp has)
  have first : [shop, archive] = [] ++ shop :: [archive] := rfl
  exact .named unaddressed first (.inr (by cbv)) (List.forall_mem_nil _)

theorem schemas_share_columns_archivedTotals :
    ∃ statement aliases extracted, Statement.ofNode archivedTotals = .ok statement ∧
      statement.aliasMap = .ok aliases ∧ statement.extractUsages aliases = .ok extracted ∧
      extracted.value.Holds .all (.known "shop.orders") "id" ∧
      extracted.value.Holds .all (.known "shop.orders") "total" ∧
      ∃ place ∈ archivedTotals.places, ∃ schema ∈ ["shop", "archive"], place.IsOfSchema schema "orders" ∧
        resolve place.qualifier aliases statement.tableNames ≠ .known (TableRef.ofSchema schema "orders").name := by
  obtain ⟨statement, read, regular, tables⟩ := archivedTotals_read
  obtain ⟨aliases, extracted, owner, built, extracts, means, counted, -, wrong⟩ :=
    @schemas_share_columns _ _ "shop" "archive" "orders" (.inl rfl) read regular (by simp [tables]) (by simp [tables])
      (by decide) (by cbv) (by decide)
  -- What the name means is one thing.
  obtain rfl : owner = "shop.orders" := by
    rw [tables] at means
    have plain : ∀ ref ∈ [TableRef.ofSchema "shop" "orders", .ofSchema "archive" "orders"],
        ref.hasOddAlias = false := by decide
    have same := (means.resolve_eq plain (by decide)).symm.trans (archivedTotals_means.resolve_eq plain (by decide))
    exact TableKey.known.inj same
  have holds : ∀ written ∈ [("shop", "id"), ("archive", "total")],
      extracted.value.Holds .all (.known "shop.orders") written.2 := by
    intro written mem
    obtain ⟨place, isPlace, ⟨column, -, qualifier⟩, named⟩ := archivedTotals_ofSchema written mem
    obtain ⟨-, name, isName, holds⟩ := counted place isPlace column qualifier
    obtain rfl := Option.some.inj (named.symm.trans isName)
    exact holds .all trivial
  obtain ⟨shop, ofShop, shopWritten, -⟩ := archivedTotals_ofSchema ("shop", "id") (by simp)
  obtain ⟨archive, ofArchive, archiveWritten, -⟩ := archivedTotals_ofSchema ("archive", "total") (by simp)
  exact ⟨statement, aliases, extracted, read, built, extracts, holds ("shop", "id") (by simp),
    holds ("archive", "total") (by simp), wrong ⟨shop, ofShop, shopWritten⟩ ⟨archive, ofArchive, archiveWritten⟩⟩

/-- The column of the one schema is recorded for the table of the other, and its own table has none. -/
theorem archived_total_recorded_elsewhere :
    ∃ statement aliases extracted, archivedTotals.cls = .select ∧ Statement.ofNode archivedTotals = .ok statement ∧
      statement.tables = [.ofSchema "shop" "orders", .ofSchema "archive" "orders"] ∧
      statement.aliasMap = .ok aliases ∧ statement.extractUsages aliases = .ok extracted ∧
      (∃ place ∈ archivedTotals.places, place.IsOfSchema "archive" "orders" ∧
        place.node.columnName? = some "total") ∧
      ¬extracted.value.Holds .all (.known "archive.orders") "total" ∧
      extracted.value.Holds .all (.known "shop.orders") "total" := by
  obtain ⟨statement, read, regular, tables⟩ := archivedTotals_read
  obtain ⟨isNode, readsColumns⟩ := Statement.ofNode_reads (.inl rfl) read
  obtain ⟨log, extracts⟩ := regular.extractUsages_total
  have meant : resolve "orders" (.ofRefs statement.tables) statement.tableNames = .known "shop.orders" :=
    Means.resolve_eq regular.aliases (by decide) (tables ▸ archivedTotals_means)
  have exact := Statement.usages_exact readsColumns
  rw [isNode] at exact
  refine ⟨statement, _, _, rfl, read, tables, regular.aliasMap_eq_ok, extracts,
    archivedTotals_ofSchema ("archive", "total") (by simp), ?_, ?_⟩
  · rw [exact.holds]
    -- Every column of the list has the same qualifier, and there is no star.
    have plain : archivedTotals.places.all (fun place => !place.node.isStar &&
        (!place.node.isPlainColumn || place.qualifier = "orders")) = true := by with_unfolding_all rfl
    simp only [List.all_eq_true, Bool.and_eq_true, Bool.or_eq_true, Bool.not_eq_true', decide_eq_true_eq] at plain
    rintro (⟨place, mem, ⟨column, counted, -⟩, -⟩ | ⟨-, ⟨place, mem, star, -⟩ | ⟨-, before, place, after, split, star, -⟩⟩)
    · have qualified : place.qualifier = "orders" :=
        (plain place mem).2.resolve_left fun other => nomatch column.symm.trans other
      rw [qualified, meant] at counted
      exact absurd (TableKey.known.inj counted) (by decide)
    · exact nomatch star.2.symm.trans (plain place mem).1
    · exact nomatch star.2.symm.trans (plain place (by simp [split])).1
  · obtain ⟨place, mem, ⟨column, -, qualifier⟩, named⟩ := archivedTotals_ofSchema ("archive", "total") (by simp)
    rw [exact.holds]
    exact .inl ⟨place, mem, ⟨column, qualifier ▸ meant, named⟩, trivial⟩

end SqlAdvisor
