import SqlAdvisor.Proofs.Analysis.Regularity

/-! # Regular statements can be analysed

No rule for hints fails on a regular statement, and so its analysis gives a result.
-/

namespace SqlAdvisor

/-- Every node of the tree is regular. -/
def Node.IsRegularTree (root : Node) : Prop := ∀ n ∈ root.nodes, n.isRegular = true

theorem Node.likeOperands?_eq_some {n column pattern : Node} : n.likeOperands? = some (column, pattern) ↔
    (n.cls = .like ∨ n.cls = .iLike) ∧ (n.child? "this" = some column ∧ column.isPlainColumn = true) ∧
      n.child? "expression" = some pattern ∧ pattern.isStringLiteral = true := by
  rw [likeOperands?]
  by_cases like : n.cls = .like ∨ n.cls = .iLike
  · rw [if_pos (by simpa using like)]
    cases n.child? "this" with
    | none => simp
    | some left =>
        cases n.child? "expression" with
        | none => simp
        | some right =>
            simp only [Bool.and_eq_true, Option.ite_none_right_eq_some, Option.some.injEq, Prod.mk.injEq]
            constructor
            · rintro ⟨⟨plain, literal⟩, rfl, rfl⟩
              exact ⟨like, ⟨rfl, plain⟩, rfl, literal⟩
            · rintro ⟨-, ⟨rfl, plain⟩, rfl, literal⟩
              exact ⟨⟨plain, literal⟩, rfl, rfl⟩
  · rw [if_neg (by simpa using like)]
    simp [like]

namespace Node.IsRegularTree

variable {root n : Node}

theorem below (regular : root.IsRegularTree) (mem : n ∈ root.nodes) : n.IsRegularTree :=
  fun _ below => regular _ (mem_nodes_trans mem below)

/-! ## Conditions -/

theorem leadingWildcardColumn?_total (regular : root.IsRegularTree) (mem : n ∈ root.nodes) :
    ∃ found, n.leadingWildcardColumn? = .ok found ∧
      ∀ column, found = some column → ∃ name, column.columnName? = some name := by
  rw [leadingWildcardColumn?]
  cases like : n.likeOperands? with
  | none => exact ⟨none, rfl, fun _ h => nomatch h⟩
  | some operands =>
      obtain ⟨column, pattern⟩ := operands
      obtain ⟨-, ⟨isColumn, plain⟩, isPattern, -⟩ := likeOperands?_eq_some.mp like
      obtain ⟨written, sql⟩ := sql_total (regular _ (mem_nodes_child mem isPattern))
      obtain ⟨name, named⟩ := columnName?_eq_some (regular _ (mem_nodes_child mem isColumn)) plain
      refine ⟨_, by dsimp only; rw [sql]; rfl, fun found eq => ?_⟩
      split at eq
      · cases eq
        exact ⟨name, named⟩
      · cases eq

theorem leadingWildcardColumns_total (regular : root.IsRegularTree) :
    ∃ columns, root.leadingWildcardColumns = .ok columns := by
  let holds (found : Except Fault (List (Option String))) : Prop :=
    ∃ columns, found = .ok columns ∧ ∀ column ∈ columns, ∃ name, column = some name
  rw [leadingWildcardColumns]
  refine Except.bind_total (walk_keeps holds ?_ ?_ ⟨[], rfl, by simp⟩ _) ?_
  · rintro o mem kind - context _ ⟨columns, rfl, named⟩
    obtain ⟨found, total, isNamed⟩ := regular.leadingWildcardColumn?_total mem
    simp only [Visitor.observing, bind, Except.bind, total]
    cases found with
    | none => exact ⟨columns, rfl, named⟩
    | some column =>
        obtain ⟨name, isName⟩ := isNamed column rfl
        refine ⟨_, rfl, ?_⟩
        split
        · exact named
        · intro other isOther
          rcases List.mem_append.mp isOther with old | new
          · exact named other old
          · exact ⟨name, by rw [List.mem_singleton.mp new, isName]⟩
  · intro o mem kind own context found h
    exact h
  · intro columns named
    refine Except.mapM_total fun column mem => ?_
    obtain ⟨name, rfl⟩ := named column mem
    exact ⟨name, rfl⟩

theorem hasNamelessBaseColumn_eq_false (regular : root.IsRegularTree) : root.hasNamelessBaseColumn = false := by
  rw [hasNamelessBaseColumn]
  refine walk_keeps (· = false) ?_ ?_ rfl _
  · rintro o mem kind - context _ rfl
    cases kind with
    | columnRef =>
        cases plain : o.node.isPlainColumn with
        | false => simp [plain]
        | true =>
            obtain ⟨name, named⟩ := columnName?_eq_some (regular _ mem) plain
            simp [plain, named]
    | _ => rfl
  · intro o mem kind own context found h
    exact h

end Node.IsRegularTree

/-! ## Hints -/

namespace Statement.IsRegular

variable {statement : Statement}

theorem onCondition_total (regular : statement.IsRegular) {condition : Argument}
    (part : condition ∈ statement.clauseParts) : ∃ hints, Hint.onCondition condition = .ok hints := by
  rcases regular.parts _ part with rfl | ⟨n, mem, rfl⟩
  · exact ⟨[], rfl⟩
  · have tree := Node.IsRegularTree.below regular.nodes mem
    obtain ⟨columns, listed⟩ := tree.leadingWildcardColumns_total
    have noNameless : ¬n.hasNamelessBaseColumn = true := by
      rw [tree.hasNamelessBaseColumn_eq_false]
      exact Bool.false_ne_true
    exact ⟨_, by rw [Hint.onCondition, listed, Node.hasSplitAlternative, if_neg noNameless]; rfl⟩

theorem onExpressions_total (regular : statement.IsRegular) (hint : String → Hint) {items : List Argument}
    (parts : ∀ item ∈ items, item ∈ statement.clauseParts) :
    ∃ hints, Hint.onExpressions hint items = .ok hints := by
  have each : ∀ item ∈ items, ∃ text?, Hint.expressionText? item = .ok text? := by
    intro item mem
    rcases regular.parts _ (parts item mem) with rfl | ⟨n, isNode, rfl⟩
    · exact ⟨_, rfl⟩
    · rw [Hint.expressionText?]
      split
      · exact ⟨none, rfl⟩
      · obtain ⟨written, sql⟩ := Node.sql_total (regular.nodes n isNode)
        exact ⟨some written, by rw [sql]; rfl⟩
  obtain ⟨texts, listed⟩ := Except.mapM_total each
  exact ⟨_, by rw [Hint.onExpressions, listed]; rfl⟩

end Statement.IsRegular

theorem ColumnSet.namesInOrder_total {columns : ColumnSet} (named : columns.isNamed = true) :
    columns.namesInOrder = .ok columns.names.toList := by
  rw [namesInOrder, if_pos named]

namespace TableUsages.AreNamed

variable {usages : TableUsages}

theorem onWrapped_total (named : usages.AreNamed) : ∃ hints, Hint.onWrapped usages = .ok hints := by
  refine Except.mapM_total fun ⟨key, usage⟩ mem => ?_
  have wrapped : usage.wrapped.isNamed = true := named _ (List.mem_filter.mp mem).1 .wrapped
  exact ⟨_, by dsimp only; rw [ColumnSet.namesInOrder_total wrapped]; rfl⟩

theorem targetUsage?_total (named : usages.AreNamed) (target : String) :
    ∃ usage?, Hint.targetUsage? (.text target) usages = .ok usage? ∧
      ∀ usage, usage? = some usage → usage.IsNamed := by
  refine ⟨_, rfl, fun usage found => ?_⟩
  rcases Option.or_eq_some_iff.mp found with known | ⟨-, only⟩
  · exact named _ (Dictionary.mem_entries_of_find? known)
  · split at only
    · rename_i value values
      cases only
      obtain ⟨entry, mem, rfl⟩ : ∃ entry ∈ usages.entries, entry.2 = usage := by
        have : usage ∈ Dictionary.values usages := by simp [values]
        simpa [Dictionary.values] using this
      exact named entry mem
    · cases only

theorem ofModification_total (named : usages.AreNamed) (verb : String) (condition : Argument)
    (withoutCondition : String → Hint) {stats : Statistics} {target : String}
    (told : (stats.find? "target_table").getD (.text "UNKNOWN") = .text target) :
    ∃ hint, Hint.ofModification verb condition withoutCondition usages stats = .ok hint := by
  rw [Hint.ofModification, told]
  dsimp only
  split
  · exact ⟨_, rfl⟩
  · refine Except.bind_total (named.targetUsage?_total target) fun usage? isNamed => ?_
    cases usage? with
    | none => exact ⟨_, rfl⟩
    | some usage =>
        dsimp only
        split
        · exact ⟨_, rfl⟩
        · have wrapped : usage.wrapped.isNamed = true := isNamed usage rfl .wrapped
          exact ⟨_, by rw [ColumnSet.namesInOrder_total wrapped]; rfl⟩

end TableUsages.AreNamed

theorem Hint.unfiltered_total {stats : Statistics} {count : Int}
    (counted : (stats.find? "table_count").getD (.int 0) = .int count) :
    ∃ hints, unfiltered stats = .ok hints := by
  rw [unfiltered, counted]
  split
  · exact ⟨_, rfl⟩
  · simp only [Datum.exceeds, bind, Except.bind]
    split
    · exact ⟨_, rfl⟩
    · split <;> exact ⟨_, rfl⟩

theorem Statement.target_isText {statement : Statement} (usages : TableUsages)
    (modifies : (∃ s, statement = .update s) ∨ ∃ s, statement = .delete s) :
    ∃ target, ((statement.statistics (some usages)).find? "target_table").getD (.text "UNKNOWN") = .text target := by
  cases found : (statement.statistics (some usages)).find? "target_table" with
  | none => exact ⟨_, rfl⟩
  | some value =>
      have mem := Statistics.mem_of_find? found
      rcases modifies with ⟨s, rfl⟩ | ⟨s, rfl⟩
      · simp [structural] at mem
        exact ⟨_, mem⟩
      · simp [structural] at mem
        exact ⟨_, mem⟩

namespace Statement.IsRegular

variable {statement : Statement} {usages : TableUsages}

theorem hints_total (regular : statement.IsRegular) (named : usages.AreNamed) :
    ∃ hints, Hint.ofStatement statement usages (statement.statistics (some usages)) = .ok hints := by
  cases statement with
  | select s =>
      obtain ⟨wrapped, onWrapped⟩ := named.onWrapped_total
      obtain ⟨count, counted⟩ := s.tableCount_isNumber usages
      obtain ⟨ordering, onOrdering⟩ := regular.onExpressions_total Hint.orderByExpression
        fun item mem => List.mem_cons_of_mem s.condition (List.mem_append_right s.groupBy mem)
      obtain ⟨grouping, onGrouping⟩ := regular.onExpressions_total Hint.groupByExpression
        fun item mem => List.mem_cons_of_mem s.condition (List.mem_append_left s.orderBy mem)
      have first : s.condition ∈ clauseParts (.select s) := List.mem_cons_self
      obtain ⟨condition, onCondition⟩ := regular.onCondition_total first
      obtain ⟨unfiltered, onTables⟩ := Hint.unfiltered_total counted
      exact ⟨_, by
        rw [Hint.ofStatement, Hint.ofSelect, onWrapped, onTables, onOrdering, onGrouping, onCondition]
        rfl⟩
  | insert s => exact ⟨_, rfl⟩
  | update s =>
      obtain ⟨target, told⟩ := target_isText usages (.inl ⟨s, rfl⟩)
      obtain ⟨hint, total⟩ := named.ofModification_total "UPDATE" s.condition Hint.updateAll told
      exact ⟨_, by rw [Hint.ofStatement, total]; rfl⟩
  | delete s =>
      obtain ⟨target, told⟩ := target_isText usages (.inr ⟨s, rfl⟩)
      obtain ⟨hint, total⟩ := named.ofModification_total "DELETE" s.condition Hint.deleteAll told
      exact ⟨_, by rw [Hint.ofStatement, total]; rfl⟩
  | other s => exact ⟨_, rfl⟩

end Statement.IsRegular

theorem Statement.IsRegular.aliasMap_eq_ok {statement : Statement} (regular : statement.IsRegular) :
    statement.aliasMap = .ok (.ofRefs statement.tables) := by
  rw [Statement.aliasMap, if_neg]
  simpa using regular.aliases

namespace Analysis

/-- What the analysis of a statement consists of. -/
theorem ofStatement_value {statement : Statement} {analysed : Logged Analysis}
    (h : ofStatement statement = .ok analysed) :
    let usages := statement.usages (.ofRefs statement.tables)
    let statistics := statement.statistics (some usages)
    (∀ ref ∈ statement.tables, ref.hasOddAlias = false) ∧
      ∃ hints, Hint.ofStatement statement usages statistics = .ok hints ∧
        analysed.value = {
          statementType := some statement.typeName
          usages := usages
          statistics := statistics
          hints := hints.value
          aliases := .ofRefs statement.tables
          statement := some statement } := by
  intro usages statistics
  obtain ⟨aliases, built, h⟩ := Except.bind_eq_ok.mp h
  obtain ⟨rfl, named⟩ := Statement.aliasMap_eq_ok built
  obtain ⟨extracted, extracts, h⟩ := Except.bind_eq_ok.mp h
  obtain ⟨hints, given, h⟩ := Except.bind_eq_ok.mp h
  cases h
  rw [Statement.extractUsages_value extracts] at given ⊢
  exact ⟨named, hints, given, rfl⟩

theorem ofStatement_total {statement : Statement} (regular : statement.IsRegular) :
    ∃ analysed, ofStatement statement = .ok analysed ∧ analysed.value.usages.AreNamed := by
  have named := regular.areNamed_usages
  obtain ⟨log, extracted⟩ := regular.extractUsages_total
  obtain ⟨hints, total⟩ := regular.hints_total named
  have result : ofStatement statement = .ok {
      value := {
        statementType := some statement.typeName
        usages := statement.usages (.ofRefs statement.tables)
        statistics := statement.statistics (some (statement.usages (.ofRefs statement.tables)))
        hints := hints.value
        aliases := .ofRefs statement.tables
        statement := some statement }
      log := log ++ hints.log } := by
    rw [ofStatement, regular.aliasMap_eq_ok]
    simp only [bind, Except.bind, extracted, total]
    rfl
  exact ⟨_, result, named⟩

theorem ofScript_total {script : Script} (regular : ∀ first ∈ script.statements.head?, first.IsRegular) :
    ∃ analysed, ofScript script = .ok analysed ∧ analysed.value.usages.AreNamed := by
  rw [ofScript]
  cases script.errorText? with
  | some error => exact ⟨_, rfl, fun entry mem => nomatch mem⟩
  | none =>
      cases statements : script.statements with
      | nil => exact ⟨_, rfl, fun entry mem => nomatch mem⟩
      | cons first rest => exact ofStatement_total (regular first (by rw [statements]; rfl))

end Analysis

/-- There are regular statements. -/
theorem filteredQuery_isRegular :
    ∃ statement, Statement.ofNode filteredQuery = .ok statement ∧ statement.IsRegular ∧
      statement.isExplainable = true := by
  obtain ⟨clause, where_⟩ : ∃ clause, filteredQuery.child? "where" = some clause := ⟨_, rfl⟩
  obtain ⟨condition, part⟩ : ∃ condition, clause.child? "this" = some condition := by
    cases where_
    exact ⟨_, rfl⟩
  have inTree : condition ∈ filteredQuery.nodes :=
    Node.mem_nodes_child (Node.mem_nodes_child filteredQuery.self_mem_nodes where_) part
  have parts : (Statement.ofNode filteredQuery).map
      (fun statement => (statement.tables, statement.clauseParts, statement.isExplainable)) =
      .ok ([⟨"u", some (.text "u")⟩], [.node condition], true) := by
    cases where_
    cases part
    with_unfolding_all rfl
  obtain ⟨statement, read, parts⟩ := Except.map_eq_ok.mp parts
  simp only [Prod.mk.injEq] at parts
  obtain ⟨tables, clauseParts, explainable⟩ := parts
  obtain ⟨node, -⟩ := Statement.ofNode_reads (.inl rfl) read
  refine ⟨statement, read, Statement.isRegular_of_nodes node (by with_unfolding_all rfl) ?_ ?_, explainable⟩
  · rw [tables]
    decide
  · rw [clauseParts]
    simpa using inTree

end SqlAdvisor
