import SqlAdvisor.Proofs.Explain.Flagged
import SqlAdvisor.Proofs.Explain.Ledger
import SqlAdvisor.Proofs.Run.Answer
import SqlAdvisor.Proofs.Run.Correlated
import SqlAdvisor.Proofs.Statement.Sources
import SqlAdvisor.Proofs.Usage.Scope
import SqlAdvisor.Report.Section

/-! # Which warnings a report shows

A report has a section for each record of the analysis, with the warnings about its table. A warning about a table
without a record is told nowhere in the sections. Every warning has one where the script's first statement is the
one that is explained, but not where that statement cannot be explained and a later query is.
-/

namespace SqlAdvisor

/-- The warnings of a table are the first ones of their keys among those recorded whose table has its name, whatever
    the letter case. -/
theorem Ledger.warningsFor_record (warnings : List TableWarning) (table : String) :
    (Ledger.record {} warnings).ledger.warningsFor table =
      (firstsAfter [] warnings).filter fun warning => Text.lower warning.table = Text.lower table := by
  have keeps := (record_keeps keeps_nil warnings).1
  rw [List.nil_append] at keeps
  rw [keeps.warningsFor_eq, keeps.warnings_eq]

theorem Ledger.exists_mem_warningsFor {warnings : List TableWarning} {warning : TableWarning}
    (mem : warning ∈ warnings) :
    ∃ kept ∈ (Ledger.record {} warnings).ledger.warningsFor warning.table, kept.type = warning.type := by
  have known : warning.key ∈ (firstsAfter [] warnings).map TableWarning.key :=
    mem_keys_firstsAfter.mpr ⟨List.mem_map_of_mem mem, List.not_mem_nil⟩
  obtain ⟨kept, first, same⟩ := List.mem_map.mp known
  obtain ⟨table, type⟩ := Prod.mk.inj same
  refine ⟨kept, ?_, type⟩
  rw [warningsFor_record]
  exact List.mem_filter.mpr ⟨first, decide_eq_true table⟩

namespace ReportSection

/-- The section is titled by the warning's table and has the line that begins a warning of its type. -/
def Tells (shown : ReportSection) (warning : TableWarning) : Prop :=
  shown.title = warning.table ∧ ∃ notes, ⟨warningCategory, warning.type.label, notes⟩ ∈ shown.rows

/-! ## The lines about a record -/

/-- The line begins a warning of some type. -/
def Begins (line : SectionRow) : Prop :=
  line.category = warningCategory ∧ ∃ type : WarningType, line.item = type.label

theorem not_begins_of_category {category notes : String} {item : Label} (other : category ≠ warningCategory) :
    ¬Begins ⟨category, item, notes⟩ :=
  fun h => other h.1

section Lines

variable {property : SectionRow → Prop} {rows : List SectionRow}

theorem columnRows_forall {columns : ColumnSet} {none : String} {row : Label → SectionRow}
    (h : columnRows columns none row = .ok rows) (bare : property ⟨"", none, ""⟩)
    (each : ∀ listed, columns.listing = .ok listed → ∀ column ∈ listed, property (row column)) :
    ∀ line ∈ rows, property line := by
  rw [columnRows] at h
  split at h
  · cases h
    exact List.forall_mem_singleton.mpr bare
  · obtain ⟨listed, isListed, h⟩ := Except.bind_eq_ok.mp h
    cases h
    exact List.forall_mem_map.mpr (each listed isListed)

theorem wrappedRows_forall {columns : ColumnSet} (h : wrappedRows columns = .ok rows)
    (heading : property ⟨warningCategory, "Function on WHERE column(s)", "May prevent index usage"⟩)
    (each : ∀ item : String, property ⟨"", item, "(Function applied)"⟩) (last : property spacer) :
    ∀ line ∈ rows, property line := by
  rw [wrappedRows] at h
  split at h
  · cases h
    exact List.forall_mem_nil _
  · obtain ⟨listed, -, h⟩ := Except.bind_eq_ok.mp h
    cases h
    refine List.forall_mem_append.mpr ⟨List.forall_mem_append.mpr ⟨?_, ?_⟩, ?_⟩
    · exact List.forall_mem_singleton.mpr heading
    · exact List.forall_mem_map.mpr fun column _ => each _
    · exact List.forall_mem_singleton.mpr last

theorem usageRows_forall {usage : TableUsage} (h : usageRows usage = .ok rows)
    (wraps : property ⟨warningCategory, "Function on WHERE column(s)", "May prevent index usage"⟩)
    (told : ∀ category item notes : String, category ≠ warningCategory → property ⟨category, item, notes⟩)
    (listed : ∀ (set : UsageSet) labels, (set.columns usage).listing = .ok labels → ∀ label ∈ labels,
      ∀ category notes : String, category ≠ warningCategory → property ⟨category, label, notes⟩) :
    ∀ line ∈ rows, property line := by
  obtain ⟨wrapped, isWrapped, h⟩ := Except.bind_eq_ok.mp h
  obtain ⟨all, isAll, h⟩ := Except.bind_eq_ok.mp h
  obtain ⟨filtering, isFiltering, h⟩ := Except.bind_eq_ok.mp h
  obtain ⟨grouping, isGrouping, h⟩ := Except.bind_eq_ok.mp h
  obtain ⟨sorting, isSorting, h⟩ := Except.bind_eq_ok.mp h
  cases h
  have empty : property spacer := told _ _ _ (by decide)
  have ofWrapped := wrappedRows_forall isWrapped wraps (fun item => told _ _ _ (by decide)) empty
  have ofAll := columnRows_forall isAll (told _ _ _ (by decide))
    fun labels isListed label mem => listed .all labels isListed label mem _ _ (by decide)
  have ofFiltering := columnRows_forall isFiltering (told _ _ _ (by decide))
    fun labels isListed label mem => listed .filtering labels isListed label mem _ _ (by decide)
  have ofGrouping := columnRows_forall isGrouping (told _ _ _ (by decide))
    fun labels isListed label mem => listed .grouping labels isListed label mem _ _ (by decide)
  have ofSorting := columnRows_forall isSorting (told _ _ _ (by decide))
    fun labels isListed label mem => listed .sorting labels isListed label mem _ _ (by decide)
  have nothing := List.forall_mem_nil property
  simp only [List.forall_mem_append, List.forall_mem_cons]
  -- What is left are the headings and the line that tells the alias.
  refine ⟨⟨⟨⟨⟨⟨⟨⟨⟨?_, ofWrapped⟩, ?_⟩, ofAll⟩, ?_⟩, ofFiltering⟩, ?_⟩, ofGrouping⟩, ?_⟩, ofSorting⟩
  · exact ⟨told _ _ _ (by decide), empty, nothing⟩
  · exact ⟨told _ _ _ (by decide), nothing⟩
  all_goals exact ⟨empty, told _ _ _ (by decide), nothing⟩

end Lines

theorem usageRows_begin_none {usage : TableUsage} {rows : List SectionRow} (h : usageRows usage = .ok rows) :
    ∀ line ∈ rows, ¬Begins line := by
  refine usageRows_forall h ?_ (fun _ _ _ => not_begins_of_category) fun _ _ _ _ _ _ _ => not_begins_of_category
  rintro ⟨-, type, label⟩
  cases type <;> exact absurd label (by decide)

/-! ## The section of a record -/

variable {ledger : Ledger} {flagged : Dictionary String TableFlag} {usage : TableUsage} {shown : ReportSection}

/-- The warnings that a section tells: those about its table, if that is known. -/
def warningsOf (ledger : Ledger) : TableKey → List TableWarning
  | .known table => ledger.warningsFor table
  | _ => []

/-- The flag of a section is that of its table, if that is known. -/
def flagOf (flagged : Dictionary String TableFlag) : TableKey → Option TableFlag
  | .known table => flagged.find? table
  | _ => none

/-- A section is the warnings about its table, and then the lines about the record. -/
theorem ofUsage_eq_ok {key : TableKey} (h : ofUsage ledger flagged key usage = .ok shown) :
    ∃ rows, usageRows usage = .ok rows ∧ shown =
      { title := key.display, flag := flagOf flagged key, rows := (warningsOf ledger key).flatMap warningRows ++ rows } := by
  obtain ⟨rows, isRows, h⟩ := Except.bind_eq_ok.mp h
  refine ⟨rows, isRows, ?_⟩
  cases key <;> exact (Except.ok.inj h).symm

theorem ofUsage_known {table : String} (h : ofUsage ledger flagged (.known table) usage = .ok shown) :
    shown.title = table ∧ ∀ warning ∈ ledger.warningsFor table, ∀ line ∈ warningRows warning, line ∈ shown.rows := by
  obtain ⟨rows, -, rfl⟩ := ofUsage_eq_ok h
  exact ⟨rfl, fun warning mem line among => List.mem_append_left _ (List.mem_flatMap.mpr ⟨warning, mem, among⟩)⟩

theorem ofUsage_begins {key : TableKey} (h : ofUsage ledger flagged key usage = .ok shown)
    (begins : ∃ line ∈ shown.rows, Begins line) : key = .known shown.title := by
  obtain ⟨rows, isRows, rfl⟩ := ofUsage_eq_ok h
  obtain ⟨line, mem, begins⟩ := begins
  cases key with
  | known table => rfl
  | unresolved qualifier => exact absurd begins (usageRows_begin_none isRows line mem)
  | ambiguous => exact absurd begins (usageRows_begin_none isRows line mem)

/-! ## Totality -/

theorem columnRows_total {columns : ColumnSet} (named : columns.isNamed = true) (none : String)
    (row : Label → SectionRow) : ∃ rows, columnRows columns none row = .ok rows := by
  rw [columnRows, ColumnSet.listing_total named]
  split <;> exact ⟨_, rfl⟩

theorem wrappedRows_total {columns : ColumnSet} (named : columns.isNamed = true) :
    ∃ rows, wrappedRows columns = .ok rows := by
  rw [wrappedRows, ColumnSet.listing_total named]
  split <;> exact ⟨_, rfl⟩

theorem usageRows_total (named : usage.IsNamed) : ∃ rows, usageRows usage = .ok rows := by
  refine Except.bind_succeeds (wrappedRows_total (named .wrapped)) fun _ => ?_
  refine Except.bind_succeeds (columnRows_total (named .all) _ _) fun _ => ?_
  refine Except.bind_succeeds (columnRows_total (named .filtering) _ _) fun _ => ?_
  refine Except.bind_succeeds (columnRows_total (named .grouping) _ _) fun _ => ?_
  exact Except.bind_succeeds (columnRows_total (named .sorting) _ _) fun _ => ⟨_, rfl⟩

theorem ofUsage_total (named : usage.IsNamed) (key : TableKey) :
    ∃ shown, ofUsage ledger flagged key usage = .ok shown := by
  refine Except.bind_succeeds (usageRows_total named) fun rows => ?_
  cases key <;> exact ⟨_, rfl⟩

end ReportSection

namespace RunReport

/-- The warnings of the report's correlation, if it has one. -/
def warnings (report : RunReport) : List TableWarning := (report.correlation.map (·.warnings)).getD []

/-- The flags of the report's correlation, if it has one. -/
def flagged (report : RunReport) : Dictionary String TableFlag := (report.correlation.map (·.flagged)).getD ∅

variable {report : RunReport} {correlation : Correlation} {sections : Logged (List ReportSection)}

theorem forall₂_sections (made : report.sections = .ok sections) :
    List.Forall₂ (fun entry shown => ReportSection.ofUsage (Ledger.record {} report.warnings).ledger report.flagged
      entry.1 entry.2 = .ok shown) report.analysis.usages.entries sections.value := by
  obtain ⟨all, mapped, h⟩ := Except.bind_eq_ok.mp made
  cases h
  refine Except.mapM_eq_ok.mp (Eq.trans ?_ mapped)
  rw [warnings, flagged]
  cases report.correlation <;> rfl

/-- A warning is shown exactly if there is a record of its table. -/
theorem sections_tell_iff (correlated : report.correlation = some correlation)
    (made : report.sections = .ok sections) {warning : TableWarning} (mem : warning ∈ correlation.warnings) :
    (∃ shown ∈ sections.value, shown.Tells warning) ↔ .known warning.table ∈ report.analysis.usages.keys := by
  obtain ⟨sectionOf, recordOf⟩ := forall₂_partners (forall₂_sections made)
  rw [warnings, correlated] at sectionOf
  constructor
  · rintro ⟨shown, among, titled, notes, line⟩
    obtain ⟨⟨key, usage⟩, entry, ofEntry⟩ := recordOf shown among
    have known := ReportSection.ofUsage_begins ofEntry ⟨_, line, rfl, warning.type, rfl⟩
    exact titled ▸ known ▸ List.mem_map_of_mem entry
  · intro recorded
    obtain ⟨usage, found⟩ := Dictionary.mem_keys.mp recorded
    obtain ⟨shown, among, ofEntry⟩ := sectionOf _ (Dictionary.mem_entries_of_find? found)
    obtain ⟨titled, lines⟩ := ReportSection.ofUsage_known ofEntry
    obtain ⟨kept, stored, type⟩ := Ledger.exists_mem_warningsFor mem
    exact ⟨shown, among, titled, kept.shortMessage, lines kept stored _ (type ▸ .head _)⟩

theorem sections_total (named : report.analysis.usages.AreNamed) : ∃ sections, report.sections = .ok sections := by
  refine Except.bind_succeeds (Except.mapM_total fun entry mem => ?_) fun _ => ⟨_, rfl⟩
  exact ReportSection.ofUsage_total (named entry mem) entry.1

end RunReport

/-- Whatever a script and the answer of a database, a warning has its line in a section of its table exactly if the
    script's first statement names the table. One that the first statement does not name is about a table of the query
    that is explained in place of a first statement that cannot be. The sections can be made where the first statement
    is regular. -/
theorem warning_shown_iff_named {outcome : ParseOutcome} {access? : Option DatabaseAccess} {thresholds : Thresholds}
    {run : Run} {correlation : Correlation} (returned : Run.ofOutcome outcome access? thresholds = .ok run)
    (correlated : run.report.correlation = some correlation) :
    ∃ script first target, Script.ofOutcome outcome = .ok script ∧ script.statements.head? = some first ∧
      FirstExplainable script.statements target ∧
      (first.IsRegular → ∃ sections, run.report.sections = .ok sections) ∧
      ∀ warning ∈ correlation.warnings,
        (∀ sections, run.report.sections = .ok sections →
          ((∃ shown ∈ sections.value, shown.Tells warning) ↔ warning.table ∈ first.tableNames)) ∧
        (warning.table ∈ first.tableNames ∨
          first.isExplainable = false ∧ target.isSelect = true ∧ warning.table ∈ target.tableNames) := by
  obtain ⟨script, first, target, aliases, parsed, isCorrelated⟩ :=
    Run.ofOutcome_correlates returned (by simp [correlated])
  refine ⟨script, first, target, parsed, isCorrelated.opens, isCorrelated.explains, fun regular => ?total,
    fun warning mem => ⟨fun sections made => ?shown, isCorrelated.warning_table correlated mem⟩⟩
  case total =>
    refine RunReport.sections_total ?_
    rw [isCorrelated.usages_eq]
    exact regular.areNamed_usages
  case shown =>
    rw [RunReport.sections_tell_iff correlated made mem, isCorrelated.usages_eq]
    exact Statement.known_mem_keys_usages

/-- A database that answers with one row, which reads a table whole. -/
def scanning (table : String) : DatabaseAccess where
  config := {
    host := .null, port := .null, dbname := .null, user := .null, password := .null, vendor := .text "mysql" }
  server := { result := { columns := ["table", "type"], rows := [[.text table, .text "ALL"]] } }

/-- The row that it answers with. -/
def scannedRow (cell : String) : ExplainRow := .ofCells [("table", .text cell), ("type", .text "ALL")]

theorem scannedRow_table (cell : String) : (scannedRow cell).text? "table" = some cell := by
  rw [scannedRow]
  cbv

theorem scannedRow_fits (cell : String) : ¬IsTooGreat ((scannedRow cell).text? "rows") := by
  have noEstimate : (scannedRow cell).text? "rows" = none := by
    rw [scannedRow]
    cbv
  have blank : writtenIn none = [] := by cbv
  rw [noEstimate]
  rintro ⟨point, -⟩
  simp [blank] at point

theorem scanning_isAnswered {outcome : ParseOutcome} {script : Script} {target : Statement}
    (parsed : Script.ofOutcome outcome = .ok script) (valid : script.isValid = true)
    (regular : ∀ statement ∈ script.statements, statement.IsRegular)
    (explains : FirstExplainable script.statements target) (cell : String) :
    Run.IsAnswered outcome (scanning cell) script target 0 := by
  have lowered : Text.lower "mysql" = "mysql" := by cbv
  have tabular : (scanning cell).config.IsTabular := ⟨"mysql", rfl, by simp [lowered]⟩
  have timed : Stopwatch.elapsedMs? {} = some 0 := by decide +kernel
  exact ⟨parsed, valid, regular, explains, tabular, rfl, timed⟩

theorem scanning_scans {outcome : ParseOutcome} {script : Script} {target : Statement} {cell table : String}
    (parsed : Script.ofOutcome outcome = .ok script) (valid : script.isValid = true)
    (regular : ∀ statement ∈ script.statements, statement.IsRegular)
    (explains : FirstExplainable script.statements target) (isSelect : target.isSelect = true) (given : cell ≠ "")
    (aliased : (AliasMap.ofRefs target.tables).find? (Text.lower cell) = some table) :
    ∃ run correlation, Run.ofOutcome outcome (some (scanning cell)) {} = .ok run ∧
      run.report.correlation = some correlation ∧ (∀ warning ∈ correlation.warnings, warning.table = table) ∧
      ∃ warning ∈ correlation.warnings, warning.table = table ∧ warning.type = .fullTableScan := by
  have answered := scanning_isAnswered parsed valid regular explains cell
  obtain ⟨analysed, analyses, named⟩ := answered.analysis_total
  have finds : Run.explainAliases target = .ok (.ofRefs target.tables) := by
    rw [Run.explainAliases, if_pos isSelect, (regular target explains.mem).aliasMap_eq_ok]
  have rows : (scanning cell).server.result.tabularRows = [scannedRow cell] := rfl
  obtain ⟨log, reports⟩ :=
    Correlation.reportsFrom_total named (List.forall_mem_singleton.mpr (scannedRow_fits cell)) 0
  have report : (Run.ofOutcome outcome (some (scanning cell)) {}).map (·.report) = _ :=
    answered.report_eq analyses finds
  rw [rows, reports] at report
  obtain ⟨run, returned, report⟩ := Except.map_eq_ok.mp report
  refine ⟨run, _, returned, by rw [report], fun warning mem => ?_, ?_⟩
  · obtain ⟨other, among, called, isNamed, -, means⟩ := Correlation.resolve_of_mem_warnings mem
    rw [List.mem_singleton.mp among, scannedRow_table] at isNamed
    cases isNamed
    exact (TableKey.known.inj ((resolve_aliased given aliased).symm.trans means)).symm
  · have told : RowSubject.tableOf ((scannedRow cell).text? "table") (.ofRefs target.tables) analysed.value.usages =
        some table :=
      RowSubject.tableOf_eq_some.mpr ⟨cell, scannedRow_table cell, given, resolve_aliased given aliased⟩
    have scan : (scannedRow cell).isFullScan = true := by
      rw [scannedRow]
      cbv
    exact Correlation.exists_warning_iff.mpr ⟨_, .head _, told, scan⟩

theorem scanning_warns {outcome : ParseOutcome} {script : Script} {target : Statement}
    (parsed : Script.ofOutcome outcome = .ok script) (valid : script.isValid = true)
    (regular : ∀ statement ∈ script.statements, statement.IsRegular)
    (explains : FirstExplainable script.statements target) (isSelect : target.isSelect = true)
    (tables : target.tables = [⟨"orders", none⟩]) :
    ∃ run correlation, Run.ofOutcome outcome (some (scanning "orders")) {} = .ok run ∧
      run.report.correlation = some correlation ∧ ∃ warning ∈ correlation.warnings, warning.table = "orders" := by
  have aliased : (AliasMap.ofRefs target.tables).find? (Text.lower "orders") = some "orders" := by
    rw [tables]
    with_unfolding_all rfl
  obtain ⟨run, correlation, returned, correlated, -, warning, mem, table, -⟩ :=
    scanning_scans parsed valid regular explains isSelect (by decide) aliased
  exact ⟨run, correlation, returned, correlated, warning, mem, table⟩

theorem simpleSelect_isRegular : ∃ statement, Statement.ofNode (simpleSelect "id" "orders") = .ok statement ∧
    statement.IsRegular ∧ statement.isExplainable = true ∧ statement.isSelect = true ∧
    statement.tables = [⟨"orders", none⟩] := by
  have read := ofNode_simpleSelect "id" (by decide : "orders" ≠ "")
  obtain ⟨node, -⟩ := Statement.ofNode_reads (.inl rfl) read
  refine ⟨_, read, Statement.isRegular_of_bare node (by with_unfolding_all rfl) ?_ ?_, rfl, rfl, rfl⟩
  · exact List.forall_mem_singleton.mpr rfl
  · exact List.forall_mem_singleton.mpr rfl

theorem warning_shown_simpleSelect :
    ∃ run correlation,
      Run.ofOutcome (.trees [some (simpleSelect "id" "orders")]) (some (scanning "orders")) {} = .ok run ∧
      run.report.correlation = some correlation ∧ ∃ warning ∈ correlation.warnings, warning.table = "orders" ∧
        ∃ sections, run.report.sections = .ok sections ∧ ∃ shown ∈ sections.value, shown.Tells warning := by
  obtain ⟨select, read, regular, explainable, isSelect, tables⟩ := simpleSelect_isRegular
  have parsed : Script.ofOutcome (.trees [some (simpleSelect "id" "orders")]) = .ok { statements := [select] } := by
    simp [Script.ofOutcome, read, bind, Except.bind, pure, Except.pure]
  have explains : FirstExplainable [select] select := ⟨[], [], rfl, explainable, by simp⟩
  obtain ⟨run, correlation, returned, correlated, warning, mem, table⟩ :=
    scanning_warns parsed rfl (by simpa using regular) explains isSelect tables
  obtain ⟨script, first, target, parsed', opens, -, total, each⟩ := warning_shown_iff_named returned correlated
  cases parsed.symm.trans parsed'
  cases opens
  obtain ⟨sections, made⟩ := total regular
  obtain ⟨shown, named⟩ := each warning mem
  refine ⟨run, correlation, returned, correlated, warning, mem, table, sections, made, (shown sections made).mpr ?_⟩
  rw [Statement.mem_tableNames, tables, table]
  exact .head _

/-- `DROP TABLE archive` -/
def droppedTable : Node :=
  let table : Node := .mk .table [("this", .node (.mk .identifier [("this", .text "archive")] none))] (some "archive")
  .mk .drop [("tables", .list [.node table]), ("kind", .text "TABLE")] (some "DROP TABLE archive")

theorem droppedTable_isRegular : ∃ statement, Statement.ofNode droppedTable = .ok statement ∧
    statement.IsRegular ∧ statement.isExplainable = false ∧ statement.tables = [⟨"archive", none⟩] := by
  let dropping : OtherStatement := ⟨droppedTable, "DROP TABLE archive", [⟨"archive", none⟩], "DROP"⟩
  have read : Statement.ofNode droppedTable = .ok (.other dropping) := by with_unfolding_all rfl
  have nodes : droppedTable.nodes.all Node.isRegular = true := by with_unfolding_all rfl
  refine ⟨_, read, Statement.isRegular_of_bare rfl nodes ?_ (fun _ mem => nomatch mem), rfl, rfl⟩
  exact List.forall_mem_singleton.mpr rfl

/-- Where a table is dropped before a query is made, the warning about the table of the query is not shown. -/
theorem warning_lost_after_droppedTable :
    ∃ run correlation sections,
      Run.ofOutcome (.trees [some droppedTable, some (simpleSelect "id" "orders")]) (some (scanning "orders")) {} =
        .ok run ∧
      run.report.correlation = some correlation ∧ run.report.sections = .ok sections ∧
      ∃ warning ∈ correlation.warnings, ¬∃ shown ∈ sections.value, shown.Tells warning := by
  obtain ⟨dropped, readDropped, regularDropped, other, archive⟩ := droppedTable_isRegular
  obtain ⟨select, read, regular, explainable, isSelect, tables⟩ := simpleSelect_isRegular
  have parsed : Script.ofOutcome (.trees [some droppedTable, some (simpleSelect "id" "orders")]) =
      .ok { statements := [dropped, select] } := by
    simp [Script.ofOutcome, readDropped, read, bind, Except.bind, pure, Except.pure]
  have explains : FirstExplainable [dropped, select] select := ⟨[dropped], [], rfl, explainable, by simpa using other⟩
  obtain ⟨run, correlation, returned, correlated, warning, mem, table⟩ :=
    scanning_warns parsed rfl (by simp [regularDropped, regular]) explains isSelect tables
  obtain ⟨script, first, target, aliases, parsed', isCorrelated⟩ :=
    Run.ofOutcome_correlates returned (by simp [correlated])
  cases parsed.symm.trans parsed'
  obtain rfl : dropped = first := Option.some.inj isCorrelated.opens
  obtain ⟨sections, made⟩ : ∃ sections, run.report.sections = .ok sections :=
    RunReport.sections_total (isCorrelated.usages_eq ▸ regularDropped.areNamed_usages)
  refine ⟨run, correlation, sections, returned, correlated, made, warning, mem, ?_⟩
  rw [RunReport.sections_tell_iff correlated made mem, isCorrelated.usages_eq, Statement.known_mem_keys_usages,
    Statement.mem_tableNames, archive, table]
  decide

end SqlAdvisor
