import Mathlib
import SqlAdvisor.Proofs.Statement.Query
import SqlAdvisor.Proofs.Usage.Exactness

/-! # Extraction is exact

The records of a query, an update or a deletion start from the tables that it names and end as the places of its
tree call for. They can be told unless a column that counts is called by nothing that can be counted.
-/

namespace SqlAdvisor

/-! ## The statement of a tree -/

namespace Node

variable {n : Node}

theorem toSelect_node {statement : SelectStatement} (h : n.toSelect = .ok statement) : statement.node = n := by
  simp only [toSelect, Except.bind_eq_ok] at h
  obtain ⟨_, _, _, _, _, _, _, _, _, _, _, _, _, _, _, _, h⟩ := h
  cases h
  rfl

theorem toUpdate_node {statement : UpdateStatement} (h : n.toUpdate = .ok statement) : statement.node = n := by
  simp only [toUpdate, Except.bind_eq_ok] at h
  obtain ⟨_, _, _, _, _, _, _, _, _, _, h⟩ := h
  cases h
  rfl

theorem toDelete_node {statement : DeleteStatement} (h : n.toDelete = .ok statement) : statement.node = n := by
  simp only [toDelete, Except.bind_eq_ok] at h
  obtain ⟨_, _, _, _, _, _, _, _, h⟩ := h
  cases h
  rfl

end Node

/-- The classes of the trees in which columns are looked for. -/
def NodeClass.ReadsColumns (c : NodeClass) : Prop :=
  c = .select ∨ c.isSetOperation = true ∨ c = .update ∨ c = .delete

namespace Statement

theorem ofNode_reads {tree : Node} {statement : Statement} (reads : tree.cls.ReadsColumns)
    (read : ofNode tree = .ok statement) : statement.node = tree ∧ statement.readsColumns = true := by
  cases isMadeOf read with
  | select _ made => exact ⟨Node.toSelect_node made, rfl⟩
  | update _ made => exact ⟨Node.toUpdate_node made, rfl⟩
  | delete _ made => exact ⟨Node.toDelete_node made, rfl⟩
  | insert cls => simp [NodeClass.ReadsColumns, cls, NodeClass.isSetOperation] at reads
  | other notQuery _ notUpdate notDelete =>
      rw [NodeClass.ReadsColumns, ← or_assoc] at reads
      exact absurd reads (not_or.mpr ⟨notQuery, not_or.mpr ⟨notUpdate, notDelete⟩⟩)

variable {statement : Statement} {aliases : AliasMap}

theorem aliasMap_eq_ok (built : statement.aliasMap = .ok aliases) :
    aliases = .ofRefs statement.tables ∧ ∀ ref ∈ statement.tables, ref.hasOddAlias = false := by
  rw [aliasMap] at built
  split at built
  · cases built
  · rename_i odd
    cases built
    exact ⟨rfl, by simpa using odd⟩

theorem mem_tableNames {name : String} : name ∈ statement.tableNames ↔ name ∈ statement.tables.map (·.name) :=
  List.mem_eraseDups

theorem resolve_mem_tableNames (qualifier name : String)
    (h : resolve qualifier (.ofRefs statement.tables) statement.tableNames = .known name) :
    name ∈ statement.tableNames :=
  mem_tableNames.mpr (resolve_known_mem (fun _ mem => mem_tableNames.mp mem) h)

/-! ## The records beforehand -/

private theorem keys_namedTables (statement : Statement) :
    statement.namedTables.keys = statement.tableNames.map .known := by
  rw [namedTables, tableNames]
  induction statement.tables using List.reverseRecOn with
  | nil => rfl
  | append_singleton refs ref keys =>
      rw [List.foldl_append, List.map_append, List.eraseDups_append]
      dsimp only [List.foldl_cons, List.foldl_nil, List.map_cons, List.map_nil]
      generalize List.foldl _ (∅ : TableUsages) refs = usages at keys ⊢
      have present : TableKey.known ref.name ∈ usages.keys ↔ ref.name ∈ refs.map (·.name) := by
        rw [keys, List.mem_map_of_injective fun _ _ => TableKey.known.inj, List.mem_eraseDups]
      have contains : usages.contains (.known ref.name) = true ↔ ref.name ∈ refs.map (·.name) := by
        rw [Dictionary.contains, Option.isSome_iff_exists, ← Dictionary.mem_keys, present]
      by_cases old : ref.name ∈ refs.map (·.name)
      · rw [if_pos (contains.mpr old)]
        simp [List.cons_removeAll, old, keys]
      · rw [if_neg (mt contains.mp old), Dictionary.keys_insert, if_neg (mt present.mp old), keys]
        simp [List.cons_removeAll, old]
        rfl

private theorem not_holds_namedTables (statement : Statement) (set : UsageSet) (key : TableKey) (name : String) :
    ¬statement.namedTables.Holds set key name := by
  refine List.foldlRecOn (motive := fun usages : TableUsages => ¬usages.Holds set key name) statement.tables _
    (fun ⟨_, found, _⟩ => nomatch found) ?_
  intro usages empty ref _
  dsimp only
  split
  · exact empty
  · rintro ⟨usage, found, mem⟩
    rw [Dictionary.find?_insert] at found
    split at found
    · cases found
      cases set <;> exact ColumnSet.not_mem_empty mem
    · exact empty ⟨usage, found, mem⟩

theorem exactUsage_namedTables (statement : Statement) (aliases : AliasMap) :
    ExactUsage aliases statement.tableNames [] statement.namedTables where
  keys := ⟨[], by rw [keys_namedTables, List.append_nil], by simp⟩
  recorded key := by simp [keys_namedTables, Recorded]
  holds set key name := by simp [not_holds_namedTables, Used, Marked]

theorem usages_exact (reads : statement.readsColumns = true) :
    ExactUsage (.ofRefs statement.tables) statement.tableNames statement.node.places
      (statement.usages (.ofRefs statement.tables)) := by
  rw [usages, if_pos reads, walk_observing]
  exact (exactUsage_namedTables statement _).foldl_observe resolve_mem_tableNames _

/-- A name that a record holds is that of a column in the tree, unless it marks a star. -/
theorem exists_column_of_holds {set : UsageSet} {key : TableKey} {name : String}
    (holds : (statement.usages (.ofRefs statement.tables)).Holds set key name)
    (columns : set ≠ .all) :
    statement.readsColumns = true ∧ ∃ place ∈ statement.node.places,
      place.IsColumnOf (.ofRefs statement.tables) statement.tableNames key name ∧ set.Covers place := by
  by_cases reads : statement.readsColumns = true
  · refine ⟨reads, ?_⟩
    rcases ((usages_exact reads).holds set key name).mp holds with column | ⟨rfl, -⟩
    · obtain ⟨place, mem, column, covers⟩ := column
      exact ⟨place, mem, column, covers⟩
    · exact absurd rfl columns
  · rw [usages, if_neg reads] at holds
    have used := ((exactUsage_namedTables statement .empty).holds set key name).mp holds
    simp [Used, columns] at used

theorem holds_filtering_of_wrapped {key : TableKey} {name : String}
    (holds : (statement.usages (.ofRefs statement.tables)).Holds .wrapped key name) :
    (statement.usages (.ofRefs statement.tables)).Holds .filtering key name := by
  obtain ⟨reads, place, mem, column, inWhere, -⟩ := exists_column_of_holds holds nofun
  exact ((usages_exact reads).holds _ _ _).mpr (.inl ⟨place, mem, column, inWhere⟩)

/-- Whatever the statement, the records of its tables come first, and no others are those of known tables. -/
theorem keys_usages (statement : Statement) :
    ∃ others, (statement.usages (.ofRefs statement.tables)).keys = statement.tableNames.map .known ++ others ∧
      ∀ key ∈ others, key.knownName? = none := by
  by_cases reads : statement.readsColumns = true
  · exact (usages_exact reads).keys
  · rw [usages, if_neg reads]
    exact (exactUsage_namedTables statement .empty).keys

theorem knownTables_usages (statement : Statement) :
    (statement.usages (.ofRefs statement.tables)).knownTables = statement.tableNames := by
  obtain ⟨others, keys, unknown⟩ := statement.keys_usages
  exact TableUsages.knownTables_eq keys unknown

theorem known_mem_keys_usages {name : String} :
    .known name ∈ (statement.usages (.ofRefs statement.tables)).keys ↔ name ∈ statement.tableNames := by
  obtain ⟨others, keys, unknown⟩ := statement.keys_usages
  rw [keys, List.mem_append, List.mem_map_of_injective fun _ _ => TableKey.known.inj]
  exact or_iff_left fun other => nomatch unknown _ other

/-! ## Columns that cannot be counted -/

private theorem foldl_eq_none {step : Option Fault → Place → Option Fault} {sound : Place → Prop}
    (each : ∀ found place, step found place = none ↔ found = none ∧ sound place) {places : List Place}
    {found : Option Fault} :
    places.foldl step found = none ↔ found = none ∧ ∀ place ∈ places, sound place := by
  induction places generalizing found with
  | nil => simp
  | cons place rest ih => rw [List.foldl_cons, ih, each, List.forall_mem_cons, and_assoc]

theorem not_any_isNameless (named : ∀ ref ∈ statement.tables, ref.hasOddAlias = false) :
    ¬statement.tables.any (·.isNameless) = true := by
  rw [List.any_eq_true]
  rintro ⟨ref, mem, nameless⟩
  simp [TableRef.isNameless, named ref mem] at nameless

theorem meetsNameless_eq_false (named : ∀ ref ∈ statement.tables, ref.hasOddAlias = false) (qualifier : String) :
    statement.meetsNameless aliases qualifier = false := by
  have all : statement.tables.takeWhile (fun ref => !ref.isNameless) = statement.tables :=
    List.takeWhile_eq_self_iff.mpr fun ref mem => by simp [TableRef.isNameless, named ref mem]
  simp [meetsNameless, all]

end Statement

namespace Place

/-- The node is counted and is a column: one of a name, or one of a result list with a star for a name. -/
def IsCountedColumn (place : Place) : Prop :=
  place.IsColumn ∨ place.IsStar ∧ place.node.cls = .column

end Place

namespace Statement

variable {statement : Statement} {aliases : AliasMap}

private theorem observed_fault_eq_none (named : ∀ ref ∈ statement.tables, ref.hasOddAlias = false)
    (found : Option Fault) (place : Place) :
    place.occurrence.observe
        (fun o kind _ found => found.or (statement.observationFault? aliases o kind)) (place.context .root)
        found = none ↔
      found = none ∧ (place.IsCountedColumn → place.node.columnFault? = none) := by
  have own : place.node.cls.kind = .columnRef ↔ place.node.cls = .column := NodeClass.kind_eq_columnRef
  have notResult : place.node.cls.kind ≠ .resultColumn := NodeClass.kind_ne_resultColumn
  simp only [Occurrence.observe_eq, observationFault?, meetsNameless_eq_false named, ← Place.node.eq_1]
  simp only [Place.IsCountedColumn, Place.IsColumn, Place.IsStar, Node.isPlainColumn]
  by_cases column : place.node.cls = .column
  · have kind : NodeClass.column.kind = .columnRef := rfl
    cases place.occurrence.isResultColumn <;> cases place.node.isStar <;> simp [column, kind]
  · cases place.occurrence.isResultColumn <;> simp [own, column, notResult]

/-- The usage of a statement can be told unless one of the columns that count cannot be counted. -/
theorem usageFault?_eq_none (reads : statement.readsColumns = true)
    (named : ∀ ref ∈ statement.tables, ref.hasOddAlias = false) :
    statement.usageFault? aliases = none ↔
      ∀ place ∈ statement.node.places, place.IsCountedColumn → place.node.columnFault? = none := by
  rw [usageFault?, if_pos reads, if_neg (not_any_isNameless named), walk_observing]
  rw [Option.or_none, foldl_eq_none (observed_fault_eq_none named)]
  exact and_iff_right rfl

theorem extractUsages_eq_ok (noFault : statement.usageFault? aliases = none) :
    ∃ log, statement.extractUsages aliases = .ok ⟨statement.usages aliases, log⟩ :=
  ⟨_, by rw [extractUsages, noFault]⟩

theorem extractUsages_value {extracted : Logged TableUsages} (h : statement.extractUsages aliases = .ok extracted) :
    extracted.value = statement.usages aliases := by
  rw [extractUsages] at h
  split at h
  · cases h
  · cases h
    rfl

end Statement

/-- The records of a query, an update or a deletion can be told exactly if every column that counts can be
    counted. The statement's tables come first among them, then what belongs to none of those. A name stands in
    a set of a table's record exactly if the tree has such a column in the clauses that the set is for, or for
    the set of all columns a star that marks the record. -/
theorem extractUsages_exact {tree : Node} {statement : Statement} {aliases : AliasMap}
    (reads : tree.cls.ReadsColumns) (read : Statement.ofNode tree = .ok statement)
    (built : statement.aliasMap = .ok aliases) :
    ((∃ extracted, statement.extractUsages aliases = .ok extracted) ↔
      ∀ place ∈ tree.places, place.IsCountedColumn → place.node.columnFault? = none) ∧
    ∀ extracted, statement.extractUsages aliases = .ok extracted →
      ExactUsage aliases statement.tableNames tree.places extracted.value := by
  obtain ⟨rfl, readsColumns⟩ := Statement.ofNode_reads reads read
  obtain ⟨rfl, named⟩ := Statement.aliasMap_eq_ok built
  rw [← Statement.usageFault?_eq_none readsColumns named, Statement.extractUsages]
  cases statement.usageFault? (.ofRefs statement.tables) with
  | some fault => exact ⟨by simp, fun _ h => nomatch h⟩
  | none =>
      refine ⟨by simp, fun extracted h => ?_⟩
      cases h
      exact statement.usages_exact readsColumns

/-- `SELECT u.* FROM (SELECT name FROM users) AS u WHERE LOWER(u.name) = 'ann'` -/
def filteredQuery : Node :=
  let identifier (name : String) : Argument := .node (.mk .identifier [("this", .text name)] none)
  let column (name : Argument) : Argument := .node (.mk .column [("this", name), ("table", identifier "u")] none)
  let users : Node :=
    .mk .select
      [("expressions", .list [.node (.mk .column [("this", identifier "name")] none)]),
       ("from_",
        .node (.mk .fromClause [("this", .node (.mk .table [("this", identifier "users")] none))] none))] none
  let derived : Node :=
    .mk .subquery [("this", .node users), ("alias", .node (.mk .tableAlias [("this", identifier "u")] none))] none
  let condition : Node :=
    .mk .eq [("this", .node (.mk .lower [("this", column (identifier "name"))] none)),
      ("expression", .node (.mk .literal [("this", .text "ann"), ("is_string", .flag true)] none))] none
  .mk .select
    [("expressions", .list [column (.node (.mk .star [] none))]),
     ("from_", .node (.mk .fromClause [("this", .node derived)] none)),
     ("where", .node (.mk .whereClause [("this", .node condition)] none))] none

theorem filteredQuery_read :
    ∃ statement, Statement.ofNode filteredQuery = .ok statement ∧ statement.tables = [⟨"u", some (.text "u")⟩] := by
  have reads : (Statement.ofNode filteredQuery).map (·.tables) = .ok [⟨"u", some (.text "u")⟩] := by
    with_unfolding_all rfl
  exact Except.map_eq_ok.mp reads

theorem filteredQuery_tables {statement : Statement} (read : Statement.ofNode filteredQuery = .ok statement) :
    statement.tables = [⟨"u", some (.text "u")⟩] := by
  obtain ⟨_, same, tables⟩ := filteredQuery_read
  cases read.symm.trans same
  exact tables

theorem filteredQuery_used {aliases : AliasMap} {names : List String} (means : resolve "u" aliases names = .known "u") :
    Used aliases names filteredQuery.places .wrapped (.known "u") "name" ∧
      Used aliases names filteredQuery.places .all (.known "u") "*(u.*)" := by
  have wrapped : filteredQuery.places.any (fun place => place.node.isPlainColumn && place.qualifier = "u" &&
      place.node.columnName? = some "name" && place.IsBelow (· = .whereClause) && place.IsBelow (·.isCall)) = true := by
    with_unfolding_all rfl
  have star : filteredQuery.places.any (fun place => place.occurrence.isResultColumn && place.node.isStar &&
      place.qualifier = "u") = true := by
    with_unfolding_all rfl
  constructor
  · obtain ⟨place, mem, facts⟩ := List.any_eq_true.mp wrapped
    simp only [Bool.and_eq_true, decide_eq_true_eq] at facts
    obtain ⟨⟨⟨⟨column, qualifier⟩, named⟩, inWhere⟩, inCall⟩ := facts
    exact .inl ⟨place, mem, ⟨column, qualifier ▸ means, named⟩, inWhere, inCall⟩
  · obtain ⟨place, mem, facts⟩ := List.any_eq_true.mp star
    simp only [Bool.and_eq_true, decide_eq_true_eq] at facts
    obtain ⟨isStar, qualifier⟩ := facts
    have qualified : place.qualifier ≠ "" := by
      rw [qualifier]
      decide
    exact .inr ⟨rfl, .inl ⟨place, mem, isStar, qualified, qualifier ▸ means, by rw [qualifier]; rfl⟩⟩

theorem filteredQuery_means {statement : Statement} (tables : statement.tables = [⟨"u", some (.text "u")⟩]) :
    resolve "u" (.ofRefs statement.tables) statement.tableNames = .known "u" := by
  rw [tables]
  exact resolve_aliased (by decide) (by with_unfolding_all rfl)

theorem extractUsages_exact_filteredQuery :
    ∃ statement aliases extracted, Statement.ofNode filteredQuery = .ok statement ∧
      statement.aliasMap = .ok aliases ∧ statement.extractUsages aliases = .ok extracted ∧
      ExactUsage aliases statement.tableNames filteredQuery.places extracted.value ∧
      extracted.value.Holds .wrapped (.known "u") "name" ∧ extracted.value.Holds .all (.known "u") "*(u.*)" := by
  obtain ⟨statement, read, tables⟩ := filteredQuery_read
  have built : statement.aliasMap = .ok (.ofRefs statement.tables) := by
    rw [Statement.aliasMap, if_neg (by rw [tables]; decide)]
  obtain ⟨extracts, exact⟩ := extractUsages_exact (.inl rfl) read built
  have countable : filteredQuery.places.all (fun place => place.node.columnFault?.isNone) = true := by
    with_unfolding_all rfl
  obtain ⟨extracted, h⟩ := extracts.mpr fun place mem _ =>
    Option.isNone_iff_eq_none.mp (List.all_eq_true.mp countable place mem)
  obtain ⟨wrapped, star⟩ := filteredQuery_used (filteredQuery_means tables)
  have holds := (exact extracted h).holds
  exact ⟨statement, _, extracted, read, built, h, exact extracted h, (holds _ _ _).mpr wrapped, (holds _ _ _).mpr star⟩

theorem filteredQuery_wraps {statement : Statement} (read : Statement.ofNode filteredQuery = .ok statement) :
    (statement.usages (.ofRefs statement.tables)).Holds .wrapped (.known "u") "name" := by
  obtain ⟨isNode, reads⟩ := Statement.ofNode_reads (.inl rfl) read
  rw [(Statement.usages_exact reads).holds, isNode]
  exact (filteredQuery_used (filteredQuery_means (filteredQuery_tables read))).1

end SqlAdvisor
