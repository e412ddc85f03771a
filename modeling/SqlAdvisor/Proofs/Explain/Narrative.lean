import SqlAdvisor.Proofs.Explain.Thresholds

/-! # What the narrative tells

The narrative tells the same of each row as the warnings do: one line for every warning that the row calls for. It
tells it of a row of no known table too, about which there is no warning.
-/

namespace SqlAdvisor

/-- What must be true of a row for a warning of the type, if estimates above `high` are high. -/
def WarningType.Holds (row : ExplainRow) (high : Int) : WarningType → Prop
  | fullTableScan => Text.upper (row.text "type") = "ALL"
  | indexNotUsed =>
      row.text "possible_keys" ≠ "" ∧ (row.text "key" = "" ∨ Text.upper (row.text "key") = "NULL")
  | highRowEstimate => high < row.estimate
  | filesortUsed => Text.contains (row.text "Extra") "Using filesort" = true
  | temporaryTableUsed => Text.contains (row.text "Extra") "Using temporary" = true

theorem WarningType.mem_every (type : WarningType) : type ∈ every := by
  cases type <;> decide

theorem WarningType.isTold_iff_holds {row : ExplainRow} {thresholds : Thresholds} {type : WarningType} :
    type.isTold row thresholds row.estimate = true ↔ type.Holds row thresholds.high := by
  cases type with
  | fullTableScan => simp [isTold, Holds, ExplainRow.isFullScan]
  | indexNotUsed => simp [isTold, Holds, ExplainRow.unusedKeys?]
  | highRowEstimate => simp [isTold, Holds]
  | filesortUsed | temporaryTableUsed => rfl

instance (row : ExplainRow) (high : Int) (type : WarningType) : Decidable (type.Holds row high) :=
  decidable_of_iff (type.isTold row ⟨high, high⟩ row.estimate = true) WarningType.isTold_iff_holds

/-- The narrative's words for a finding of the type in a row with the estimate. -/
def WarningType.headline (rows : Int) : WarningType → String
  | fullTableScan => "SEVERE: Full Table Scan ('type' is 'ALL'). Why: DB read every row."
  | indexNotUsed => "WARN: Index Not Used"
  | highRowEstimate => "INFO: High est. rows (" ++ toString rows ++ ")."
  | filesortUsed => "WARN: 'Using filesort'."
  | temporaryTableUsed => "WARN: 'Using temporary'."

/-- The line is set in below another one. -/
def isSetIn (line : String) : Bool := line.toList.head? = some ' '

/-- The estimate is told without a warning. -/
def Thresholds.Tells (thresholds : Thresholds) (rows : Int) : Prop := thresholds.told < rows ∧ rows ≤ thresholds.high

instance (thresholds : Thresholds) (rows : Int) : Decidable (thresholds.Tells rows) :=
  inferInstanceAs (Decidable (_ ∧ _))

namespace ExplainRow

/-- The table cell of the row means the known table. -/
def IsAbout (row : ExplainRow) (aliases : AliasMap) (usages : TableUsages) (table : String) : Prop :=
  ∃ cell, row.text? "table" = some cell ∧ cell ≠ "" ∧ resolve cell aliases usages.knownTables = .known table

/-- What a narrative calls the row at the position: its first cell, or its number if that is empty. -/
def idAt (row : ExplainRow) (index : Nat) : String :=
  if row.firstText?.getD "" = "" then "Row " ++ toString (index + 1) else row.firstText?.getD ""

/-- The line of a narrative that names what is found of the type in the row, if there is one and it begins with
    `start`. An estimate may have a line without being high. -/
def headline (row : ExplainRow) (thresholds : Thresholds) (start : String) (type : WarningType) : List String :=
  if type.Holds row thresholds.high then [start ++ " " ++ type.headline row.estimate]
  else if type = .highRowEstimate ∧ thresholds.Tells row.estimate then
    [start ++ " INFO: Est. rows: " ++ toString row.estimate]
  else []

/-- The lines of a narrative that name what is found in the row, if each begins with `start`. -/
def headlines (row : ExplainRow) (thresholds : Thresholds) (start : String) : List String :=
  WarningType.every.flatMap (row.headline thresholds start)

/-- Nothing about the row is worth a line. -/
def IsQuiet (row : ExplainRow) (thresholds : Thresholds) : Prop :=
  (∀ type : WarningType, ¬type.Holds row thresholds.high) ∧ ¬thresholds.Tells row.estimate

/-- The warnings and the lines of a narrative tell of the row at the position what there is to tell. -/
structure IsToldBy (row : ExplainRow) (index : Nat) (aliases : AliasMap) (usages : TableUsages)
    (thresholds : Thresholds) (warnings : List TableWarning) (lines : List String) : Prop where
  estimate : ∃ log, rowCount (row.text? "rows") = .ok ⟨row.estimate, log⟩
  known : ∀ table, row.IsAbout aliases usages table →
    warnings.map (fun warning => (warning.table, warning.type, warning.rowId)) =
      (WarningType.every.filter (·.Holds row thresholds.high)).map fun type =>
        (table, type, some (.text (row.idAt index)))
  unknown : (∀ table, ¬row.IsAbout aliases usages table) → warnings = []
  headlines : ∃ mention,
    lines.filter (!isSetIn ·) = row.headlines thresholds
      ("[" ++ row.idAt index ++ " " ++ (row.text? "table").getD "?" ++ mention ++ "]") ∧
    (mention = "" ∨ ∃ table, row.IsAbout aliases usages table ∧ mention = " (" ++ table ++ ")")
  quiet : lines = [] ↔ row.IsQuiet thresholds

end ExplainRow

theorem ExplainRow.IsToldBy.warnings_eq_nil {row : ExplainRow} {index : Nat} {aliases : AliasMap} {usages : TableUsages}
    {thresholds : Thresholds} {warnings : List TableWarning} {lines : List String}
    (told : row.IsToldBy index aliases usages thresholds warnings lines) (quiet : row.IsQuiet thresholds) :
    warnings = [] := by
  by_cases about : ∃ table, row.IsAbout aliases usages table
  · obtain ⟨table, about⟩ := about
    simpa [quiet.1] using told.known table about
  · exact told.unknown (not_exists.mp about)

/-- The first line about a remark. -/
def Remark.firstLine (start : String) : Remark → String
  | .finding found => start ++ " " ++ found.headline
  | .estimate rows => start ++ " INFO: Est. rows: " ++ toString rows

namespace RowReport

variable {s : RowSubject} {row : ExplainRow} {thresholds : Thresholds} {rows : Int}

theorem head?_firstLine (s : RowSubject) (remark : Remark) :
    (remark.firstLine s.lineStart).toList.head? = some '[' := by
  cases remark <;> simp only [Remark.firstLine, String.append_assoc, RowSubject.head?_lineStart]

theorem remarkLines_eq_cons (start : String) (remark : Remark) :
    ∃ details, remarkLines start remark = remark.firstLine start :: details := by
  cases remark <;> exact ⟨_, rfl⟩

/-- Of the lines about a remark only the first one is not set in. -/
theorem filter_remarkLines {remark : Remark} (among : remark ∈ remarksOn s row thresholds rows) :
    (remarkLines s.lineStart remark).filter (!isSetIn ·) = [remark.firstLine s.lineStart] := by
  have outside : isSetIn (remark.firstLine s.lineStart) = false := by
    rw [isSetIn, head?_firstLine]
    rfl
  cases remark with
  | estimate k => simpa [remarkLines, Remark.firstLine] using outside
  | finding finding =>
      have found : finding ∈ findings ⟨s, remarksOn s row thresholds rows⟩ := List.mem_filterMap.mpr ⟨_, among, rfl⟩
      have below : finding.details.filter (!isSetIn ·) = [] := by
        apply List.filter_eq_nil_iff.mpr
        intro detail mem
        simp [isSetIn, head?_of_mem_details found mem]
      rw [remarkLines, List.filter_cons_of_pos (by simpa [Remark.firstLine] using outside), below]
      rfl

theorem map_firstLine_finding (start : String) {type : WarningType} (other : type ≠ .highRowEstimate) (given : Prop)
    [Decidable given] (holds : given ↔ type.Holds row thresholds.high) (finding : Finding)
    (words : finding.headline = type.headline row.estimate) :
    (if given then [Remark.finding finding] else []).map (Remark.firstLine start) =
      row.headline thresholds start type := by
  unfold ExplainRow.headline
  by_cases h : given
  · simp [h, holds.mp h, Remark.firstLine, words]
  · simp [h, mt holds.mpr h, other]

theorem map_firstLine_onEstimate (s : RowSubject) (row : ExplainRow) (thresholds : Thresholds) (start : String) :
    (onEstimate s thresholds row.estimate).map (Remark.firstLine start) =
      row.headline thresholds start .highRowEstimate := by
  unfold onEstimate ExplainRow.headline
  by_cases high : thresholds.high < row.estimate
  · have holds : WarningType.highRowEstimate.Holds row thresholds.high := high
    rw [if_pos high, if_pos holds]
    rfl
  · have fails : ¬WarningType.highRowEstimate.Holds row thresholds.high := high
    rw [if_neg high, if_neg fails]
    by_cases tells : thresholds.told < row.estimate
    · rw [if_pos tells, if_pos ⟨rfl, tells, not_lt.mp high⟩]
      rfl
    · rw [if_neg tells, if_neg fun both => tells both.2.1]
      rfl

theorem map_firstLine_remarksOn (s : RowSubject) (row : ExplainRow) (thresholds : Thresholds) :
    (remarksOn s row thresholds row.estimate).map (Remark.firstLine s.lineStart) =
      row.headlines thresholds s.lineStart := by
  have told (type : WarningType) := @WarningType.isTold_iff_holds row thresholds type
  have scan := map_firstLine_finding s.lineStart (by decide) (row.isFullScan = true) (told .fullTableScan)
    s.fullTableScan rfl
  have filesort := map_firstLine_finding s.lineStart (by decide) (row.notes "Using filesort" = true)
    (told .filesortUsed) s.filesortUsed rfl
  have temporary := map_firstLine_finding s.lineStart (by decide) (row.notes "Using temporary" = true)
    (told .temporaryTableUsed) s.temporaryTableUsed rfl
  have estimate := map_firstLine_onEstimate s row thresholds s.lineStart
  simp only [remarksOn, ExplainRow.headlines, WarningType.every, List.map_append, List.flatMap_cons, List.flatMap_nil,
    List.append_nil, List.append_assoc]
  refine congrArg₂ _ scan (congrArg₂ _ ?keys (congrArg₂ _ estimate (congrArg₂ _ filesort temporary)))
  have isTold : row.unusedKeys?.isSome = true ↔ _ := told .indexNotUsed
  cases unused : row.unusedKeys? with
  | none => exact map_firstLine_finding _ (by decide) False (by simpa [unused] using isTold) (s.indexNotUsed "") rfl
  | some keys => exact map_firstLine_finding _ (by decide) True (by simpa [unused] using isTold) (s.indexNotUsed keys) rfl

theorem filter_lines : (lines ⟨s, remarksOn s row thresholds row.estimate⟩).filter (!isSetIn ·) =
    row.headlines thresholds s.lineStart := by
  rw [lines, List.filter_flatMap, ← map_firstLine_remarksOn, List.map_eq_flatMap]
  exact List.flatMap_congr fun remark among => filter_remarkLines among

theorem head?_of_mem_lines {line : String} (mem : line ∈ lines ⟨s, remarksOn s row thresholds rows⟩) :
    line.toList.head? = some '[' ∨ line.toList.head? = some ' ' := by
  obtain ⟨remark, among, mem⟩ := List.mem_flatMap.mp mem
  by_cases below : isSetIn line = true
  · exact .inr (by simpa [isSetIn] using below)
  · have outside : line ∈ (remarkLines s.lineStart remark).filter (!isSetIn ·) := by simp [mem, below]
    rw [filter_remarkLines among, List.mem_singleton] at outside
    exact .inl (outside ▸ head?_firstLine s remark)

theorem lines_eq_nil_iff : lines ⟨s, remarksOn s row thresholds row.estimate⟩ = [] ↔ row.IsQuiet thresholds := by
  have remarks :
      lines ⟨s, remarksOn s row thresholds row.estimate⟩ = [] ↔ row.headlines thresholds s.lineStart = [] := by
    rw [← map_firstLine_remarksOn, List.map_eq_nil_iff, lines, List.flatMap_eq_nil_iff]
    constructor
    · intro silent
      apply List.eq_nil_iff_forall_not_mem.mpr
      intro remark among
      obtain ⟨details, told⟩ := remarkLines_eq_cons s.lineStart remark
      exact absurd (silent remark among) (by simp [told])
    · intro none remark among
      simp [none] at among
  rw [remarks, ExplainRow.headlines, List.flatMap_eq_nil_iff]
  constructor
  · intro silent
    have noType (type : WarningType) : ¬type.Holds row thresholds.high := by
      intro holds
      have := silent type type.mem_every
      simp [ExplainRow.headline, holds] at this
    refine ⟨noType, ?_⟩
    intro tells
    have := silent .highRowEstimate (by decide)
    simp [ExplainRow.headline, noType, tells] at this
  · rintro ⟨noType, untold⟩ type -
    simp [ExplainRow.headline, noType, untold]

variable {aliases : AliasMap} {usages : TableUsages}

theorem rowId_ofRow (index : Nat) : (RowSubject.ofRow index row aliases usages).rowId = row.idAt index := by
  simp [RowSubject.ofRow, ExplainRow.idAt]

theorem lineStart_ofRow (row : ExplainRow) (index : Nat) (aliases : AliasMap) (usages : TableUsages) :
    ∃ mention, (RowSubject.ofRow index row aliases usages).lineStart =
        "[" ++ row.idAt index ++ " " ++ (row.text? "table").getD "?" ++ mention ++ "]" ∧
      (mention = "" ∨ ∃ table, row.IsAbout aliases usages table ∧ mention = " (" ++ table ++ ")") := by
  rw [RowSubject.lineStart, rowId_ofRow]
  refine ⟨_, rfl, ?_⟩
  cases isTable : (RowSubject.ofRow index row aliases usages).table with
  | none => exact .inl rfl
  | some table =>
      dsimp only
      split
      · exact .inl rfl
      · exact .inr ⟨table, RowSubject.tableOf_eq_some.mp isTable, rfl⟩

/-- A row that can be reported on is told of in the warnings and in the narrative. -/
theorem isToldBy_ofEstimate (reportable : row.IsReportable aliases usages thresholds) (index : Nat) :
    row.IsToldBy index aliases usages thresholds
      (ofEstimate aliases usages thresholds row index row.estimate).warnings
      (ofEstimate aliases usages thresholds row index row.estimate).lines where
  estimate := by
    cases counts : rowCount (row.text? "rows") with
    | error fault => exact absurd (rowCount_eq_error.mp counts).2 reportable.fits
    | ok counted =>
        have estimate : row.estimate = counted.value := by rw [ExplainRow.estimate, counts]
        exact ⟨counted.log, by rw [estimate]⟩
  known := by
    intro table about
    have isTable : (RowSubject.ofRow index row aliases usages).table = some table :=
      RowSubject.tableOf_eq_some.mpr about
    have types : (ofEstimate aliases usages thresholds row index row.estimate).findings.map (·.type) =
        WarningType.every.filter (·.Holds row thresholds.high) := by
      rw [ofEstimate, types_findings]
      apply List.filter_congr
      intro type _
      exact Bool.eq_iff_iff.mpr (WarningType.isTold_iff_holds.trans decide_eq_true_iff.symm)
    have warned : (ofEstimate aliases usages thresholds row index row.estimate).warnings =
        (ofEstimate aliases usages thresholds row index row.estimate).findings.map
          (toWarning (RowSubject.ofRow index row aliases usages) table) := by
      rw [warnings]
      simp only [ofEstimate, isTable]
    rw [warned, ← types, List.map_map, List.map_map, ← rowId_ofRow]
    rfl
  unknown := by
    intro unknown
    have noTable : (RowSubject.ofRow index row aliases usages).table = none := by
      apply Option.eq_none_iff_forall_not_mem.mpr
      intro table isTable
      exact unknown table (RowSubject.tableOf_eq_some.mp isTable)
    rw [warnings]
    simp only [ofEstimate, noTable]
  headlines := by
    obtain ⟨mention, start, named⟩ := lineStart_ofRow row index aliases usages
    exact ⟨mention, by rw [← start]; exact filter_lines, named⟩
  quiet := lines_eq_nil_iff

end RowReport

namespace Correlation

variable {rows : List ExplainRow} {aliases : AliasMap} {usages : TableUsages} {thresholds : Thresholds}

theorem forall₂_isToldBy (reportable : ∀ row ∈ rows, row.IsReportable aliases usages thresholds) :
    List.Forall₂ (fun (row, index) (warnings, lines) => row.IsToldBy index aliases usages thresholds warnings lines)
      rows.zipIdx ((reportsOn aliases usages thresholds rows 0).map fun report => (report.warnings, report.lines)) := by
  rw [reportsOn, List.map_map, List.forall₂_map_right_iff, List.forall₂_same]
  rintro ⟨row, index⟩ mem
  have isReportable := reportable row (List.fst_mem_of_mem_zipIdx mem)
  dsimp only [Function.comp]
  exact RowReport.isToldBy_ofEstimate isReportable index

theorem notMem_lines_reportsOn {line : String} (first : line.toList.head? ≠ some '[' ∧ line.toList.head? ≠ some ' ') :
    line ∉ (reportsOn aliases usages thresholds rows 0).flatMap RowReport.lines := by
  intro mem
  obtain ⟨report, among, mem⟩ := List.mem_flatMap.mp mem
  obtain ⟨⟨row, index⟩, -, rfl⟩ := List.mem_map.mp among
  rcases RowReport.head?_of_mem_lines mem with bracket | blank
  · exact first.1 bracket
  · exact first.2 blank

theorem warnings_reportsOn_eq_nil (reportable : ∀ row ∈ rows, row.IsReportable aliases usages thresholds)
    (quiet : ∀ row ∈ rows, row.IsQuiet thresholds) :
    (reportsOn aliases usages thresholds rows 0).flatMap RowReport.warnings = [] := by
  rw [List.flatMap_eq_nil_iff, reportsOn, List.forall_mem_map]
  rintro ⟨row, index⟩ mem
  have among : row ∈ rows := List.fst_mem_of_mem_zipIdx mem
  exact (RowReport.isToldBy_ofEstimate (reportable row among) index).warnings_eq_nil (quiet row among)

theorem lines_reportsOn_eq_nil_iff : (reportsOn aliases usages thresholds rows 0).flatMap RowReport.lines = [] ↔
    ∀ row ∈ rows, row.IsQuiet thresholds := by
  rw [List.flatMap_eq_nil_iff, reportsOn, List.forall_mem_map]
  constructor
  · intro silent row among
    obtain ⟨index, bound, rfl⟩ := List.mem_iff_getElem.mp among
    have := silent (rows[index], index) (List.mk_mem_zipIdx_iff_getElem?.mpr (List.getElem?_eq_getElem bound))
    exact RowReport.lines_eq_nil_iff.mp this
  · rintro quiet ⟨row, index⟩ mem
    exact RowReport.lines_eq_nil_iff.mpr (quiet row (List.fst_mem_of_mem_zipIdx mem))

/-- The two placeholder lines tell whether there is a plan and whether anything in it is worth a line. -/
theorem narrative_ofReports {reports : List RowReport} (noPlanApart : noPlan ∉ reports.flatMap RowReport.lines)
    (noIssuesApart : noIssues ∉ reports.flatMap RowReport.lines) :
    ∃ lines, (ofReports reports).narrative =
        "\n".intercalate ("--- EXPLAIN Plan Micro-Analysis (DB Specific) ---" :: lines) ++ "\n" ∧
      (lines = reports.flatMap RowReport.lines ∨ lines = [noPlan] ∨ lines = [noIssues]) ∧
      (noPlan ∈ lines ↔ reports = []) ∧
      (noIssues ∈ lines ↔ reports ≠ [] ∧ reports.flatMap RowReport.lines = []) := by
  have differ : noPlan ≠ noIssues := by decide
  obtain ⟨lines, narrative, outcome⟩ := narrative_cases reports
  refine ⟨lines, narrative, ?_⟩
  rcases outcome with ⟨rfl, rfl⟩ | ⟨given, silent, rfl⟩ | ⟨told, rfl⟩
  · exact ⟨.inr (.inl rfl), by simp, by simp [differ.symm]⟩
  · exact ⟨.inr (.inr rfl), by simp [given, differ], iff_of_true (.head _) ⟨given, silent⟩⟩
  · have given : reports ≠ [] := by
      rintro rfl
      exact told rfl
    exact ⟨.inl rfl, iff_of_false noPlanApart given, iff_of_false noIssuesApart fun both => told both.2⟩

end Correlation

open Correlation in
/-- For whatever rows can be correlated, the warnings and the lines of the narrative are those about the rows, one row
    after the other. A narrative says that there is no plan if there are no rows, and that nothing was found if no row
    is worth a line; then there is no warning either. -/
theorem narrative_agrees_with_warnings {rows : List ExplainRow} {aliases : AliasMap} {usages : TableUsages}
    {thresholds : Thresholds} {correlated : Logged Correlation}
    (returned : ofRows rows aliases usages thresholds = .ok correlated) :
    ∃ told : List (List TableWarning × List String),
      List.Forall₂ (fun (row, index) (warnings, lines) => row.IsToldBy index aliases usages thresholds warnings lines)
        rows.zipIdx told ∧
      correlated.value.warnings = told.flatMap Prod.fst ∧
      ∃ lines, correlated.value.narrative =
          "\n".intercalate ("--- EXPLAIN Plan Micro-Analysis (DB Specific) ---" :: lines) ++ "\n" ∧
        (lines = told.flatMap Prod.snd ∨ lines = ["No EXPLAIN plan data available to analyze."] ∨
          lines = ["EXPLAIN plan analysis found no common high-priority issues."]) ∧
        ("No EXPLAIN plan data available to analyze." ∈ lines ↔ rows = []) ∧
        ("EXPLAIN plan analysis found no common high-priority issues." ∈ lines ↔
          rows ≠ [] ∧ ∀ row ∈ rows, row.IsQuiet thresholds) ∧
        ("EXPLAIN plan analysis found no common high-priority issues." ∈ lines → correlated.value.warnings = []) := by
  have value := ofRows_value returned
  have reportable := ofRows_total_iff.mp ⟨correlated, returned⟩
  have noRows : reportsOn aliases usages thresholds rows 0 = [] ↔ rows = [] := by
    simp [reportsOn]
  obtain ⟨lines, narrative, made, isNoPlan, isNoIssues⟩ := narrative_ofReports
    (@notMem_lines_reportsOn rows aliases usages thresholds noPlan (by decide)) (notMem_lines_reportsOn (by decide))
  rw [noRows] at isNoPlan
  rw [Ne, noRows, lines_reportsOn_eq_nil_iff] at isNoIssues
  refine ⟨_, forall₂_isToldBy reportable, ?_, lines, value ▸ narrative, ?_, isNoPlan, isNoIssues, ?_⟩
  · rw [value, List.flatMap_map]
    rfl
  · rw [List.flatMap_map]
    exact made
  · intro told
    rw [value]
    exact warnings_reportsOn_eq_nil reportable (isNoIssues.mp told).2

/-- A scan of rows that no name of a table means. -/
def derivedScan : ExplainRow :=
  .ofCells [("id", .int 2), ("table", .text "<derived2>"), ("type", .text "ALL"), ("rows", .int 7)]

/-- What is found of a scan of many rows of a table and of a scan of rows that are derived from it. -/
def twoScans : Except Fault (Logged Correlation) :=
  Correlation.ofRows
    [.ofCells [("id", .int 1), ("table", .text "o"), ("type", .text "ALL"), ("rows", .int 20000)], derivedScan]
    (.ofList [("o", "orders")]) (.ofList [(.known "orders", {})]) {}

theorem narrative_agrees_with_warnings_twoScans : ∃ correlated lines, twoScans = .ok correlated ∧
    correlated.value.warnings.map (fun warning => (warning.table, warning.type)) =
      [("orders", .fullTableScan), ("orders", .highRowEstimate)] ∧
    correlated.value.narrative =
      "\n".intercalate ("--- EXPLAIN Plan Micro-Analysis (DB Specific) ---" :: lines) ++ "\n" ∧
    "[2 <derived2>] SEVERE: Full Table Scan ('type' is 'ALL'). Why: DB read every row." ∈ lines := by
  have found : twoScans.map
      (fun correlated => correlated.value.warnings.map fun warning => (warning.table, warning.type)) =
      .ok [("orders", .fullTableScan), ("orders", .highRowEstimate)] := rfl
  obtain ⟨correlated, returned, found⟩ := Except.map_eq_ok.mp found
  obtain ⟨told, pairs, -, lines, narrative, made, isNoPlan, isNoIssues, -⟩ := narrative_agrees_with_warnings returned
  obtain ⟨⟨warnings, scanLines⟩, among, isTold⟩ := (forall₂_partners pairs).1 (derivedScan, 1) (by simp)
  obtain ⟨mention, headlines, rfl | ⟨table, ⟨cell, isCell, -, means⟩, -⟩⟩ := isTold.headlines
  · have isLine : "[2 <derived2>] SEVERE: Full Table Scan ('type' is 'ALL'). Why: DB read every row." ∈
        scanLines.filter (!isSetIn ·) := by
      rw [headlines]
      exact .head _
    have isTelling : lines = told.flatMap Prod.snd := by
      rcases made with made | rfl | rfl
      · exact made
      · exact nomatch isNoPlan.mp (.head _)
      · exact absurd ((isNoIssues.mp (.head _)).2 derivedScan (by simp)).1 fun quiet => quiet .fullTableScan (by decide)
    refine ⟨correlated, lines, returned, found, narrative, isTelling ▸ List.mem_flatMap.mpr ⟨_, among, ?_⟩⟩
    exact List.mem_of_mem_filter isLine
  · cases isCell
    have unresolved : resolve "<derived2>" (.ofList [("o", "orders")])
      (TableUsages.knownTables (.ofList [(.known "orders", {})])) = .unresolved "<derived2>" := rfl
    exact nomatch unresolved.symm.trans means

end SqlAdvisor
