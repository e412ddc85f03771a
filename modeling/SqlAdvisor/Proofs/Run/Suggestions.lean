import SqlAdvisor.Proofs.Explain.Findings
import SqlAdvisor.Proofs.Report.Sections

/-! # Where suggested columns come from

A warning suggests an index on columns that the explained statement uses of the warning's table, in the clauses that
the warning is about. Where the statement that opens the script is not the explained one, its records hold no columns,
so that there is nothing to suggest.
-/

namespace SqlAdvisor

namespace Statement

variable {statement : Statement}

theorem isExplainable_of_readsColumns (reads : statement.readsColumns = true) : statement.isExplainable = true := by
  cases statement <;> first | rfl | cases reads

end Statement

theorem WarningType.usageSet_ne_all {type : WarningType} : type.usageSet ≠ .all := by
  cases type <;> exact nofun

theorem Correlation.columns_of_mem_warnings {aliases : AliasMap} {usages : TableUsages} {thresholds : Thresholds}
    {rows : List ExplainRow} {index : Nat} {warning : TableWarning}
    (mem : warning ∈ (ofReports (reportsOn aliases usages thresholds rows index)).warnings) :
    ∃ columns : NameSet, warning.columns = columns.toList ∧
      ∀ name, name ∈ columns ↔
        warning.table ≠ "" ∧ usages.Holds warning.type.usageSet (.known warning.table) name := by
  obtain ⟨row, -, position, told, finding, found, isWarning⟩ := exists_finding_of_mem_warnings mem
  have type : warning.type = finding.type := congrArg TableWarning.type isWarning
  have columns : warning.columns = finding.columns := congrArg TableWarning.columns isWarning
  refine ⟨_, columns.trans (RowReport.columns_of_mem_findings found), fun name => ?_⟩
  rw [type]
  exact RowSubject.mem_usage_ofRow told

theorem TableWarning.indexSql?_eq_some {warning : TableWarning} {sql : String} (made : warning.indexSql? = some sql) :
    warning.columns ≠ [] ∧ ∃ index, sql = "CREATE INDEX " ++ index ++ " ON " ++ warning.table ++
      " (" ++ ", ".intercalate warning.columns ++ ");" := by
  rw [indexSql?] at made
  split at made
  · cases made
  · rename_i columns
    exact ⟨by simpa using columns, _, (Option.some.inj made).symm⟩

namespace Run.IsCorrelated

variable {run : Run} {script : Script} {first target : Statement} {aliases : AliasMap} {thresholds : Thresholds}

theorem aliasMap_first (correlated : run.IsCorrelated script first target aliases thresholds) :
    first.aliasMap = .ok (.ofRefs first.tables) := by
  obtain ⟨log, analysed⟩ := correlated.analyses
  obtain ⟨plain, -⟩ := Analysis.ofStatement_value analysed
  rw [Statement.aliasMap, if_neg (by simpa using plain)]

/-- What a set of the records holds is a column of the explained statement. -/
theorem exists_column (correlated : run.IsCorrelated script first target aliases thresholds) {set : UsageSet}
    {key : TableKey} {name : String} (holds : run.report.analysis.usages.Holds set key name) (columns : set ≠ .all) :
    target.aliasMap = .ok (.ofRefs target.tables) ∧ ∃ place ∈ target.node.places,
      place.IsColumnOf (.ofRefs target.tables) target.tableNames key name ∧ set.Covers place := by
  rw [correlated.usages_eq] at holds
  obtain ⟨reads, column⟩ := Statement.exists_column_of_holds holds columns
  have explainable := Statement.isExplainable_of_readsColumns reads
  obtain rfl := correlated.explains.eq_of_opens correlated.opens explainable
  exact ⟨correlated.aliasMap_first, column⟩

end Run.IsCorrelated

/-- Whatever a script and the answer of a database, the columns that a warning suggests are listed in order, and each
    is a column in the tree of the statement that was explained. Its qualifier means the table of the warning, and it
    stands in a clause of the kind that the warning is about. The command for an index names these columns alone. -/
theorem suggested_columns_grounded {outcome : ParseOutcome} {access? : Option DatabaseAccess} {thresholds : Thresholds}
    {run : Run} {correlation : Correlation} (returned : Run.ofOutcome outcome access? thresholds = .ok run)
    (correlated : run.report.correlation = some correlation) :
    ∃ script target, Script.ofOutcome outcome = .ok script ∧ FirstExplainable script.statements target ∧
      run.report.explainSql = some target.sql ∧
      ∀ warning ∈ correlation.warnings, warning.columns.Pairwise (· < ·) ∧
        (∀ name ∈ warning.columns, ∃ aliases, target.aliasMap = .ok aliases ∧ ∃ place ∈ target.node.places,
          place.IsColumnOf aliases target.tableNames (.known warning.table) name ∧
            warning.type.usageSet.Covers place) ∧
        ∀ sql, warning.indexSql? = some sql → warning.columns ≠ [] ∧
          ∃ index, sql = "CREATE INDEX " ++ index ++ " ON " ++ warning.table ++
            " (" ++ ", ".intercalate warning.columns ++ ");" := by
  obtain ⟨script, first, target, aliases, parsed, isCorrelated⟩ :=
    Run.ofOutcome_correlates returned (by simp [correlated])
  refine ⟨script, target, parsed, isCorrelated.explains, isCorrelated.asks, fun warning mem => ?_⟩
  obtain rfl := Option.some.inj (isCorrelated.correlation.symm.trans correlated)
  obtain ⟨columns, suggested, held⟩ := Correlation.columns_of_mem_warnings mem
  refine ⟨suggested ▸ columns.increasing, fun name among => ?_, fun sql made => ?_⟩
  · rw [suggested] at among
    obtain ⟨-, holds⟩ := (held name).mp among
    exact ⟨_, isCorrelated.exists_column holds WarningType.usageSet_ne_all⟩
  · exact TableWarning.indexSql?_eq_some made

/-- A query whose table is scanned is to have an index on the column of its condition. -/
theorem suggested_columns_filteredQuery :
    ∃ run correlation, Run.ofOutcome (.trees [some filteredQuery]) (some (scanning "u")) {} = .ok run ∧
      run.report.correlation = some correlation ∧ ∃ warning ∈ correlation.warnings, "name" ∈ warning.columns ∧
        ∃ place ∈ filteredQuery.places, place.IsColumn ∧ place.node.columnName? = some "name" ∧
          place.IsBelow (· = .whereClause) := by
  obtain ⟨statement, read, regular, explainable⟩ := filteredQuery_isRegular
  have tables := filteredQuery_tables read
  have isSelect : statement.isSelect = true := by
    obtain ⟨s, rfl, -⟩ := Statement.ofNode_query (.inl rfl) read
    rfl
  have parsed : Script.ofOutcome (.trees [some filteredQuery]) = .ok { statements := [statement] } := by
    simp [Script.ofOutcome, read, bind, Except.bind, pure, Except.pure]
  have explains : FirstExplainable [statement] statement := ⟨[], [], rfl, explainable, by simp⟩
  have aliased : (AliasMap.ofRefs statement.tables).find? (Text.lower "u") = some "u" := by
    rw [tables]
    with_unfolding_all rfl
  obtain ⟨run, correlation, returned, correlated, -, warning, mem, table, type⟩ :=
    scanning_scans parsed rfl (by simpa using regular) explains isSelect (by decide) aliased
  obtain ⟨script, first, target, aliases, parsed', isCorrelated⟩ :=
    Run.ofOutcome_correlates returned (by simp [correlated])
  cases parsed.symm.trans parsed'
  obtain rfl : statement = first := Option.some.inj isCorrelated.opens
  have suggested : "name" ∈ warning.columns := by
    obtain rfl := Option.some.inj (isCorrelated.correlation.symm.trans correlated)
    obtain ⟨columns, same, held⟩ := Correlation.columns_of_mem_warnings mem
    rw [same, NameSet.mem_toList, held, table, type, isCorrelated.usages_eq]
    exact ⟨by decide, Statement.holds_filtering_of_wrapped (filteredQuery_wraps read)⟩
  obtain ⟨script, target, parsed', explains', -, each⟩ := suggested_columns_grounded returned correlated
  cases parsed.symm.trans parsed'
  obtain ⟨-, grounded, -⟩ := each warning mem
  obtain ⟨aliases, -, place, inTree, ⟨column, -, named⟩, covers⟩ := grounded "name" suggested
  obtain rfl : target = statement := explains'.eq_of_opens rfl explainable
  obtain ⟨isNode, -⟩ := Statement.ofNode_reads (.inl rfl) read
  rw [type] at covers
  exact ⟨run, correlation, returned, correlated, warning, mem, suggested, place, isNode ▸ inTree, column, named, covers⟩

end SqlAdvisor
