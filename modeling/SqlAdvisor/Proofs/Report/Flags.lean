import SqlAdvisor.Proofs.Report.Lines

/-! # Flags and the warnings that are shown with them

A section is flagged for the warnings about exactly its table, but it shows those about any table whose name differs
at most in letter case. So flag and warnings agree where each warning that is shown has one that is at least as strong
about the section's own table.
-/

namespace SqlAdvisor

theorem WarningType.label_injective : Function.Injective label := by
  intro first second same
  revert same
  cases first <;> cases second <;> decide

/-! ## What a section shows -/

/-- The warnings that are told under a table's name: the first of each type about a table of that name, whatever the
    letter case. -/
def toldUnder (warnings : List TableWarning) (table : String) : List TableWarning :=
  (firstsAfter [] warnings).filter fun warning => Text.lower warning.table = Text.lower table

theorem exists_mem_toldUnder {warnings : List TableWarning} {warning : TableWarning} (mem : warning ∈ warnings) :
    ∃ told ∈ toldUnder warnings warning.table, told.type = warning.type := by
  obtain ⟨kept, among, type⟩ := Ledger.exists_mem_warningsFor mem
  rw [Ledger.warningsFor_record] at among
  exact ⟨kept, among, type⟩

namespace ReportSection

variable {shown : ReportSection} {warnings : List TableWarning} {table : String}

/-- The section has a line that begins a warning of the type. -/
def Shows (shown : ReportSection) (type : WarningType) : Prop :=
  ∃ notes, ⟨warningCategory, type.label, notes⟩ ∈ shown.rows

/-- The section's flag is that of the warnings that it shows. -/
structure FlagAgrees (shown : ReportSection) : Prop where
  none_iff : shown.flag = none ↔ ∀ type, ¬shown.Shows type
  severe_iff : shown.flag = some .severe ↔ shown.Shows .fullTableScan
  warn_iff : shown.flag = some .warn ↔ (∃ type, shown.Shows type) ∧ ¬shown.Shows .fullTableScan

theorem FlagAgrees.of_iff (none : shown.flag = none ↔ ∀ type, ¬shown.Shows type)
    (severe : shown.flag = some .severe ↔ shown.Shows .fullTableScan) : shown.FlagAgrees := by
  refine ⟨none, severe, ?_⟩
  rw [← severe, ← not_forall_not, ← none]
  cases shown.flag with
  | none => simp
  | some flag => cases flag <;> simp

theorem eq_of_mem_warningRows {warning : TableWarning} {line : SectionRow}
    (remarks : ∀ line ∈ warning.rows, line.IsRemark) (mem : line ∈ warningRows warning)
    (begins : line.category = warningCategory) :
    line = ⟨warningCategory, warning.type.label, warning.shortMessage⟩ := by
  have bare : spacer.category ≠ warningCategory := by decide
  have command : "-> SQL" ≠ warningCategory := by decide
  simp only [warningRows, List.mem_append, List.mem_cons, List.not_mem_nil, or_false] at mem
  rcases mem with (((rfl | rfl) | mem) | mem) | rfl
  · rfl
  · exact absurd begins bare
  · exact absurd begins (remarks line mem).category
  · split at mem
    · rw [List.mem_singleton.mp mem] at begins
      exact absurd begins command
    · exact absurd mem List.not_mem_nil
  · exact absurd begins bare

theorem shows_iff {rest : List SectionRow} {type : WarningType}
    (isRows : shown.rows = warnings.flatMap warningRows ++ rest)
    (remarks : ∀ warning ∈ warnings, ∀ line ∈ warning.rows, line.IsRemark) (others : ∀ line ∈ rest, ¬Begins line) :
    shown.Shows type ↔ ∃ warning ∈ warnings, warning.type = type := by
  rw [Shows, isRows]
  constructor
  · rintro ⟨notes, mem⟩
    rcases List.mem_append.mp mem with mem | mem
    · obtain ⟨warning, among, line⟩ := List.mem_flatMap.mp mem
      have same := eq_of_mem_warningRows (remarks warning among) line rfl
      have labels : type.label = warning.type.label := by simpa using congrArg SectionRow.item same
      exact ⟨warning, among, (WarningType.label_injective labels).symm⟩
    · exact absurd ⟨rfl, type, rfl⟩ (others _ mem)
  · rintro ⟨warning, among, rfl⟩
    exact ⟨warning.shortMessage, List.mem_append_left _ (List.mem_flatMap.mpr ⟨warning, among, .head _⟩)⟩

/-- The section of a table, with the warnings of an EXPLAIN: what it shows is told under the table's name, and what
    it is flagged for is about the table itself. -/
structure Presents (shown : ReportSection) (warnings : List TableWarning) (table : String) : Prop where
  title : shown.title = table
  rows : ∃ rest, shown.rows = (toldUnder warnings table).flatMap warningRows ++ rest ∧ ∀ line ∈ rest, ¬Begins line
  shows : ∀ type, shown.Shows type ↔ ∃ warning ∈ toldUnder warnings table, warning.type = type
  none_iff : shown.flag = none ↔ ∀ warning ∈ warnings, warning.table ≠ table
  severe_iff : shown.flag = some .severe ↔
    ∃ warning ∈ warnings, warning.table = table ∧ warning.type = .fullTableScan

namespace Presents

/-- Flag and warnings agree where each warning that is shown has one that is as strong about the table itself. -/
theorem flagAgrees_iff (presents : shown.Presents warnings table) :
    shown.FlagAgrees ↔ ∀ told ∈ toldUnder warnings table, ∃ own ∈ warnings,
      own.table = table ∧ (told.type = .fullTableScan → own.type = .fullTableScan) := by
  constructor
  · intro agrees told mem
    have shows := (presents.shows told.type).mpr ⟨told, mem, rfl⟩
    by_cases scan : told.type = .fullTableScan
    · rw [scan] at shows
      obtain ⟨own, among, about, isScan⟩ := presents.severe_iff.mp (agrees.severe_iff.mpr shows)
      exact ⟨own, among, about, fun _ => isScan⟩
    · have flagged := mt agrees.none_iff.mp fun bare => bare told.type shows
      rw [presents.none_iff] at flagged
      push Not at flagged
      obtain ⟨own, among, about⟩ := flagged
      exact ⟨own, among, about, fun isScan => absurd isScan scan⟩
  · intro owned
    apply FlagAgrees.of_iff
    · rw [presents.none_iff]
      constructor
      · intro none type shows
        obtain ⟨told, mem, -⟩ := (presents.shows type).mp shows
        obtain ⟨own, among, about, -⟩ := owned told mem
        exact none own among about
      · rintro none own among rfl
        exact none own.type ((presents.shows own.type).mpr (exists_mem_toldUnder among))
    · rw [presents.severe_iff, presents.shows]
      constructor
      · rintro ⟨own, among, rfl, isScan⟩
        exact isScan ▸ exists_mem_toldUnder among
      · rintro ⟨told, mem, isScan⟩
        obtain ⟨own, among, about, strong⟩ := owned told mem
        exact ⟨own, among, about, strong isScan⟩

theorem flagAgrees (presents : shown.Presents warnings table)
    (own : ∀ told ∈ toldUnder warnings table, told.table = table) : shown.FlagAgrees :=
  presents.flagAgrees_iff.mpr fun told mem =>
    ⟨told, firstsAfter_subset (List.mem_filter.mp mem).1, own told mem, id⟩

end Presents

end ReportSection

namespace RunReport

variable {report : RunReport} {correlation : Correlation} {sections : Logged (List ReportSection)}

theorem sections_present (correlated : report.correlation = some correlation)
    (flags : correlation.flagged = Correlation.flagsOf correlation.warnings)
    (remarks : ∀ warning ∈ correlation.warnings, ∀ line ∈ warning.rows, line.IsRemark)
    (made : report.sections = .ok sections) :
    List.Forall₂ (fun entry shown => ∀ table, entry.1 = .known table → shown.Presents correlation.warnings table)
      report.analysis.usages.entries sections.value := by
  refine (forall₂_sections made).imp ?_
  rintro ⟨key, usage⟩ shown ofEntry table rfl
  rw [warnings, flagged, correlated] at ofEntry
  obtain ⟨rest, isRest, isShown⟩ := ReportSection.ofUsage_eq_ok ofEntry
  have told : (Ledger.record {} correlation.warnings).ledger.warningsFor table = toldUnder correlation.warnings table :=
    Ledger.warningsFor_record _ _
  have isRows : shown.rows = (toldUnder correlation.warnings table).flatMap ReportSection.warningRows ++ rest := by
    rw [isShown, ← told]
    rfl
  have isFlag : shown.flag = (Correlation.flagsOf correlation.warnings).find? table := by
    rw [isShown, ← flags]
    rfl
  have bare := ReportSection.usageRows_begin_none isRest
  have remarksTold : ∀ warning ∈ toldUnder correlation.warnings table, ∀ line ∈ warning.rows, line.IsRemark :=
    fun warning mem => remarks warning (firstsAfter_subset (List.mem_filter.mp mem).1)
  obtain ⟨none_iff, severe_iff⟩ := Correlation.find?_flagsOf correlation.warnings table
  exact {
    title := isShown ▸ rfl
    rows := ⟨rest, isRows, bare⟩
    shows := fun type => ReportSection.shows_iff isRows remarksTold bare
    none_iff := isFlag ▸ none_iff
    severe_iff := isFlag ▸ severe_iff }

end RunReport

theorem Run.sections_present {outcome : ParseOutcome} {access? : Option DatabaseAccess} {thresholds : Thresholds}
    {run : Run} {correlation : Correlation} {sections : Logged (List ReportSection)}
    (returned : Run.ofOutcome outcome access? thresholds = .ok run)
    (correlated : run.report.correlation = some correlation) (made : run.report.sections = .ok sections) :
    List.Forall₂ (fun entry shown => ∀ table, entry.1 = .known table → shown.Presents correlation.warnings table)
      run.report.analysis.usages.entries sections.value := by
  obtain ⟨script, first, target, aliases, -, isCorrelated⟩ :=
    Run.ofOutcome_correlates returned (by simp [correlated])
  obtain rfl := Option.some.inj (isCorrelated.correlation.symm.trans correlated)
  apply RunReport.sections_present correlated rfl _ made
  intro warning mem
  exact Correlation.rows_of_mem_warnings mem

/-- Whatever a script and the answer of a database, the section of a table shows the first warning of each type whose
    table has its name in any letter case, and is flagged for the warnings about the table itself. So its flag agrees
    with what it shows exactly if every warning shown has one about the table itself that is as strong, and in any case
    where all that is shown is about the table itself. The sections can be made where the first statement is regular. -/
theorem section_flag_agrees_iff {outcome : ParseOutcome} {access? : Option DatabaseAccess} {thresholds : Thresholds}
    {run : Run} {correlation : Correlation} (returned : Run.ofOutcome outcome access? thresholds = .ok run)
    (correlated : run.report.correlation = some correlation) :
    (∃ script first, Script.ofOutcome outcome = .ok script ∧ script.statements.head? = some first ∧
      (first.IsRegular → ∃ sections, run.report.sections = .ok sections)) ∧
    ∀ sections, run.report.sections = .ok sections →
      List.Forall₂ (fun entry shown => ∀ table, entry.1 = .known table →
        shown.Presents correlation.warnings table ∧
        (shown.FlagAgrees ↔ ∀ told ∈ toldUnder correlation.warnings table, ∃ own ∈ correlation.warnings,
          own.table = table ∧ (told.type = .fullTableScan → own.type = .fullTableScan)) ∧
        ((∀ told ∈ toldUnder correlation.warnings table, told.table = table) → shown.FlagAgrees))
        run.report.analysis.usages.entries sections.value := by
  obtain ⟨script, first, target, aliases, parsed, isCorrelated⟩ :=
    Run.ofOutcome_correlates returned (by simp [correlated])
  refine ⟨⟨script, first, parsed, isCorrelated.opens, fun regular => ?total⟩, fun sections made => ?shown⟩
  case total =>
    apply RunReport.sections_total
    rw [isCorrelated.usages_eq]
    exact regular.areNamed_usages
  case shown =>
    refine (Run.sections_present returned correlated made).imp fun entry shown presents table known => ?_
    have ofTable := presents table known
    exact ⟨ofTable, ofTable.flagAgrees_iff, ofTable.flagAgrees⟩

theorem scanning_records {outcome : ParseOutcome} {target : Statement} {cell table : String}
    (parsed : Script.ofOutcome outcome = .ok { statements := [target] }) (regular : target.IsRegular)
    (explainable : target.isExplainable = true) (isSelect : target.isSelect = true) (given : cell ≠ "")
    (aliased : (AliasMap.ofRefs target.tables).find? (Text.lower cell) = some table) :
    ∃ run correlation sections, Run.ofOutcome outcome (some (scanning cell)) {} = .ok run ∧
      run.report.correlation = some correlation ∧ run.report.sections = .ok sections ∧
      (∀ warning ∈ correlation.warnings, warning.table = table) ∧
      (∃ warning ∈ correlation.warnings, warning.table = table ∧ warning.type = .fullTableScan) ∧
      ∀ name ∈ target.tableNames, ∃ usage, (.known name, usage) ∈ run.report.analysis.usages.entries := by
  have explains : FirstExplainable [target] target := ⟨[], [], rfl, explainable, by simp⟩
  obtain ⟨run, correlation, returned, correlated, about, scan⟩ :=
    scanning_scans parsed rfl (by simpa using regular) explains isSelect given aliased
  obtain ⟨script, first, explained, aliases, again, isCorrelated⟩ :=
    Run.ofOutcome_correlates returned (by simp [correlated])
  cases parsed.symm.trans again
  obtain rfl : target = first := Option.some.inj isCorrelated.opens
  obtain ⟨sections, made⟩ : ∃ sections, run.report.sections = .ok sections :=
    RunReport.sections_total (isCorrelated.usages_eq ▸ regular.areNamed_usages)
  refine ⟨run, correlation, sections, returned, correlated, made, about, scan, fun name mem => ?_⟩
  obtain ⟨usage, found⟩ := Dictionary.mem_keys.mp (Statement.known_mem_keys_usages.mpr mem)
  rw [isCorrelated.usages_eq]
  exact ⟨usage, Dictionary.mem_entries_of_find? found⟩

theorem flag_agrees_simpleSelect :
    ∃ run correlation sections,
      Run.ofOutcome (.trees [some (simpleSelect "id" "orders")]) (some (scanning "orders")) {} = .ok run ∧
      run.report.correlation = some correlation ∧ run.report.sections = .ok sections ∧
      ∃ shown ∈ sections.value, shown.title = "orders" ∧ shown.FlagAgrees ∧ shown.flag = some .severe := by
  obtain ⟨select, read, regular, explainable, isSelect, tables⟩ := simpleSelect_isRegular
  have parsed : Script.ofOutcome (.trees [some (simpleSelect "id" "orders")]) = .ok { statements := [select] } := by
    simp [Script.ofOutcome, read, bind, Except.bind, pure, Except.pure]
  have aliased : (AliasMap.ofRefs select.tables).find? (Text.lower "orders") = some "orders" := by
    rw [tables]
    with_unfolding_all rfl
  obtain ⟨run, correlation, sections, returned, correlated, made, about, scan, recorded⟩ :=
    scanning_records parsed regular explainable isSelect (by decide) aliased
  obtain ⟨usage, entry⟩ := recorded "orders" (by rw [Statement.mem_tableNames, tables]; exact .head _)
  obtain ⟨-, each⟩ := section_flag_agrees_iff returned correlated
  obtain ⟨shown, among, ofEntry⟩ := (forall₂_partners (each sections made)).1 _ entry
  obtain ⟨presents, -, agrees⟩ := ofEntry "orders" rfl
  have own : ∀ told ∈ toldUnder correlation.warnings "orders", told.table = "orders" :=
    fun told mem => about told (firstsAfter_subset (List.mem_filter.mp mem).1)
  exact ⟨run, correlation, sections, returned, correlated, made, shown, among, presents.title, agrees own,
    presents.severe_iff.mpr scan⟩

/-- `SELECT o.id FROM Orders AS o JOIN orders AS p` -/
def caseTwins : Node :=
  let identifier (name : String) : Argument := .node (.mk .identifier [("this", .text name)] none)
  let table (name called : String) : Argument :=
    .node (.mk .table [("this", identifier name), ("alias", .node (.mk .tableAlias [("this", identifier called)] none))]
      (some (name ++ " AS " ++ called)))
  .mk .select
    [("expressions", .list [.node (.mk .column [("this", identifier "id"), ("table", identifier "o")] (some "o.id"))]),
     ("from_", .node (.mk .fromClause [("this", table "Orders" "o")] none)),
     ("joins", .list [.node (.mk .join [("this", table "orders" "p")] none)])]
    (some "SELECT o.id FROM Orders AS o JOIN orders AS p")

/-- `table AS called` -/
def aliasedTable (table called : String) : Node :=
  .mk .table [("this", .node (.mk .identifier [("this", .text table)] none)),
    ("alias", .node (.mk .tableAlias [("this", .node (.mk .identifier [("this", .text called)] none))] none))]
    (some (table ++ " AS " ++ called))

theorem sourceRef?_aliasedTable {table called : String} (named : table ≠ "") (given : called ≠ "") :
    Node.sourceRef? (.node (aliasedTable table called)) = .ok (some ⟨table, some (.text called)⟩) := by
  have plain : (aliasedTable table called).IsPlainTable table := ⟨rfl, rfl, rfl, rfl⟩
  have aliasName : (aliasedTable table called).aliasName = .ok (.text called) := by
    have isAlias : (aliasedTable table called).child? "alias" =
      some (.mk .tableAlias [("this", .node (.mk .identifier [("this", .text called)] none))] none) := rfl
    simp only [Node.aliasName, isAlias]
    rw [Node.name]
    rfl
  refine plain.sourceRef?_eq named ?_
  have truthy : (Argument.text called).truthy = true := by simp [Argument.truthy, given]
  simp only [Node.givenAlias?, aliasName, bind, Except.bind, truthy]
  rfl

theorem caseTwins_isRegular : ∃ statement, Statement.ofNode caseTwins = .ok statement ∧
    statement.IsRegular ∧ statement.isExplainable = true ∧ statement.isSelect = true ∧
    statement.tables = [⟨"Orders", some (.text "o")⟩, ⟨"orders", some (.text "p")⟩] := by
  have orders := sourceRef?_aliasedTable (by decide : "Orders" ≠ "") (by decide : "o" ≠ "")
  have twin := sourceRef?_aliasedTable (by decide : "orders" ≠ "") (by decide : "p" ≠ "")
  have isFrom : Node.sourceRefs [.node (aliasedTable "Orders" "o")] = .ok [⟨"Orders", some (.text "o")⟩] := by
    rw [Node.sourceRefs, List.mapM_cons, orders]
    rfl
  have isJoined : Node.sourceRefs [.node (aliasedTable "orders" "p")] = .ok [⟨"orders", some (.text "p")⟩] := by
    rw [Node.sourceRefs, List.mapM_cons, twin]
    rfl
  have tables : caseTwins.fromTables = .ok [⟨"Orders", some (.text "o")⟩, ⟨"orders", some (.text "p")⟩] := by
    have parts : caseTwins.fromTables = (do
        let listed ← Node.sourceRefs [.node (aliasedTable "Orders" "o")]
        let joined ← Node.sourceRefs [.node (aliasedTable "orders" "p")]
        return listed ++ joined) := rfl
    rw [parts, isFrom, isJoined]
    rfl
  have joins : caseTwins.joins = .ok [⟨"COMMA", some ⟨"orders", some (.text "p")⟩⟩] := by
    let join : Node := .mk .join [("this", .node (aliasedTable "orders" "p"))] none
    have items : caseTwins.items "joins" = .ok [.node join] := rfl
    have kind : join.joinKind = .ok "COMMA" := by with_unfolding_all rfl
    have held : join.arg "this" = .node (aliasedTable "orders" "p") := rfl
    rw [Node.joins, items]
    simp only [bind, Except.bind, List.mapM_cons, List.mapM_nil, Node.requireNode, kind, held, twin]
    rfl
  have read := Statement.ofNode_select (.inl rfl)
    (Node.toSelect_eq (Node.leftmostQuery_select rfl) rfl tables joins rfl rfl rfl rfl)
  obtain ⟨node, -⟩ := Statement.ofNode_reads (.inl rfl) read
  refine ⟨_, read, Statement.isRegular_of_bare node (by with_unfolding_all rfl) ?_ ?_, rfl, rfl, rfl⟩
  · simp [Statement.tables, TableRef.hasOddAlias, Label.text?]
  · exact List.forall_mem_singleton.mpr rfl

/-- A scan of one of two tables whose names differ in letter case is shown for the other one, too, without a flag. -/
theorem unflagged_scan_caseTwins :
    ∃ run correlation sections, Run.ofOutcome (.trees [some caseTwins]) (some (scanning "p")) {} = .ok run ∧
      run.report.correlation = some correlation ∧ run.report.sections = .ok sections ∧
      (∀ warning ∈ correlation.warnings, warning.table = "orders") ∧
      ∃ shown ∈ sections.value, shown.title = "Orders" ∧ shown.Shows .fullTableScan ∧ shown.flag = none := by
  obtain ⟨select, read, regular, explainable, isSelect, tables⟩ := caseTwins_isRegular
  have parsed : Script.ofOutcome (.trees [some caseTwins]) = .ok { statements := [select] } := by
    simp [Script.ofOutcome, read, bind, Except.bind, pure, Except.pure]
  have aliased : (AliasMap.ofRefs select.tables).find? (Text.lower "p") = some "orders" := by
    rw [tables]
    with_unfolding_all rfl
  obtain ⟨run, correlation, sections, returned, correlated, made, about, ⟨scan, mem, table, type⟩, recorded⟩ :=
    scanning_records parsed regular explainable isSelect (by decide) aliased
  obtain ⟨usage, entry⟩ := recorded "Orders" (by rw [Statement.mem_tableNames, tables]; exact .head _)
  obtain ⟨shown, among, ofEntry⟩ :=
    (forall₂_partners (Run.sections_present returned correlated made)).1 _ entry
  have presents := ofEntry "Orders" rfl
  refine ⟨run, correlation, sections, returned, correlated, made, about, shown, among, presents.title, ?_, ?_⟩
  · obtain ⟨told, among, same⟩ := exists_mem_toldUnder mem
    have twins : Text.lower "orders" = Text.lower "Orders" := by cbv
    rw [table, toldUnder, twins, ← toldUnder] at among
    exact (presents.shows _).mpr ⟨told, among, same.trans type⟩
  · rw [presents.none_iff]
    intro warning mem
    rw [about warning mem]
    decide

end SqlAdvisor
