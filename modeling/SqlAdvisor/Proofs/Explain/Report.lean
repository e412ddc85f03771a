import SqlAdvisor.Proofs.Analysis.Regularity
import SqlAdvisor.Proofs.Explain.Estimate

/-! # Reports on the rows of an EXPLAIN

Where each column of the records has a name, a row can be reported on unless its estimate is too great. The
rows are reported on one by one, so that one of them that is too great costs all reports.
-/

namespace SqlAdvisor

theorem ColumnSet.listing_total {columns : ColumnSet} (named : columns.isNamed = true) :
    columns.listing = .ok (columns.names.toList.map .text) := by
  rw [listing, if_pos named]

theorem RowSubject.tableOf_eq_some {cell? : Option String} {aliases : AliasMap} {usages : TableUsages} {name : String} :
    tableOf cell? aliases usages = some name ↔
      ∃ cell, cell? = some cell ∧ cell ≠ "" ∧ resolve cell aliases usages.knownTables = .known name := by
  cases cell? with
  | none => simp [tableOf]
  | some cell =>
      have known (key : TableKey) : key.knownName? = some name ↔ key = .known name := by
        cases key <;> simp [TableKey.knownName?]
      simp [tableOf, known]

namespace RowReport

variable {aliases : AliasMap} {usages : TableUsages} {thresholds : Thresholds}

theorem usage_isNamed (named : usages.AreNamed) (aliases : AliasMap) (row : ExplainRow) (index : Nat) :
    (RowSubject.ofRow index row aliases usages).usage.IsNamed := by
  rw [RowSubject.ofRow]
  dsimp only
  cases table : RowSubject.tableOf (row.text? "table") aliases usages with
  | none => exact TableUsage.isNamed_empty none
  | some name =>
      dsimp only [Option.bind_some]
      split
      · exact TableUsage.isNamed_empty none
      · cases found : usages.find? (.known name) with
        | none => exact TableUsage.isNamed_empty none
        | some usage => exact named _ (Dictionary.mem_entries_of_find? found)

variable {s : RowSubject} {row : ExplainRow}

theorem checkAccess_total (named : s.usage.IsNamed) : checkAccess s row = .ok () := by
  have listed (set : UsageSet) := ColumnSet.listing_total (named set)
  have filtering : s.usage.filtering.isNamed = true := named .filtering
  have wrapped : s.usage.wrapped.isNamed = true := named .wrapped
  have filteringListed : s.usage.filtering.listing = _ := listed .filtering
  have wrappedListed : s.usage.wrapped.listing = _ := listed .wrapped
  have groupingListed : s.usage.grouping.listing = _ := listed .grouping
  have sortingListed : s.usage.sorting.listing = _ := listed .sorting
  simp [checkAccess, filtering, wrapped, filteringListed, wrappedListed, groupingListed, sortingListed, bind,
    Except.bind, pure, Except.pure]

theorem checkNotes_total (named : s.usage.IsNamed) (rows : Int) : checkNotes s row thresholds rows = .ok () := by
  have filtering : s.usage.filtering.isNamed = true := named .filtering
  have grouping : s.usage.grouping.isNamed = true := named .grouping
  have sorting : s.usage.sorting.isNamed = true := named .sorting
  simp [checkNotes, filtering, grouping, sorting, pure, Except.pure]

/-- The report on a row whose estimate is known. -/
def ofEstimate (aliases : AliasMap) (usages : TableUsages) (thresholds : Thresholds) (row : ExplainRow)
    (index : Nat) (rows : Int) : RowReport :=
  let subject := RowSubject.ofRow index row aliases usages
  ⟨subject, remarksOn subject row thresholds rows⟩

theorem ofRow_named (named : usages.AreNamed) (row : ExplainRow) (index : Nat) :
    ofRow aliases usages thresholds row index =
      (rowCount (row.text? "rows")).map fun counted =>
        counted.map (ofEstimate aliases usages thresholds row index) := by
  have usageNamed := usage_isNamed named aliases row index
  rw [ofRow, checkAccess_total usageNamed]
  cases rowCount (row.text? "rows") with
  | error fault => rfl
  | ok counted =>
      simp only [bind, Except.bind, checkNotes_total usageNamed]
      rfl

end RowReport

/-- The row estimate that the row tells, as far as it can be told. -/
def ExplainRow.estimate (row : ExplainRow) : Int :=
  match rowCount (row.text? "rows") with
  | .ok counted => counted.value
  | .error _ => 0

theorem ExplainRow.estimate_unreadable {row : ExplainRow} (unreadable : IsUnreadable (row.text? "rows")) :
    row.estimate = 0 := by
  obtain ⟨log, counted⟩ := rowCount_unreadable unreadable
  rw [estimate, counted]

/-- Neither the estimate of a row nor the record of its table stands in the way of a report on it. -/
structure ExplainRow.IsReportable (row : ExplainRow) (aliases : AliasMap) (usages : TableUsages)
    (thresholds : Thresholds) : Prop where
  fits : ¬IsTooGreat (row.text? "rows")
  access : RowReport.checkAccess (RowSubject.ofRow 0 row aliases usages) row = .ok ()
  notes : RowReport.checkNotes (RowSubject.ofRow 0 row aliases usages) row thresholds row.estimate = .ok ()

theorem ExplainRow.IsReportable.of_areNamed {row : ExplainRow} {aliases : AliasMap} {usages : TableUsages}
    {thresholds : Thresholds} (named : usages.AreNamed) (fits : ¬IsTooGreat (row.text? "rows")) :
    row.IsReportable aliases usages thresholds where
  fits := fits
  access := RowReport.checkAccess_total (RowReport.usage_isNamed named aliases row 0)
  notes := RowReport.checkNotes_total (RowReport.usage_isNamed named aliases row 0) _

/-- Whether a report can be made on a row does not depend on the place of the row. -/
theorem RowReport.ofRow_total_iff {aliases : AliasMap} {usages : TableUsages} {thresholds : Thresholds}
    {row : ExplainRow} (index : Nat) :
    (∃ report, ofRow aliases usages thresholds row index = .ok report) ↔
      row.IsReportable aliases usages thresholds := by
  have sameAccess : checkAccess (RowSubject.ofRow index row aliases usages) row =
      checkAccess (RowSubject.ofRow 0 row aliases usages) row := rfl
  have sameNotes (rows : Int) : checkNotes (RowSubject.ofRow index row aliases usages) row thresholds rows =
      checkNotes (RowSubject.ofRow 0 row aliases usages) row thresholds rows := rfl
  constructor
  · rintro ⟨report, h⟩
    rw [ofRow] at h
    obtain ⟨_, access, h⟩ := Except.bind_eq_ok.mp h
    obtain ⟨counted, counts, h⟩ := Except.bind_eq_ok.mp h
    obtain ⟨_, notes, -⟩ := Except.bind_eq_ok.mp h
    have estimate : row.estimate = counted.value := by rw [ExplainRow.estimate, counts]
    exact ⟨fun great => (nomatch counts.symm.trans (rowCount_eq_error.mpr ⟨rfl, great⟩)), access, estimate ▸ notes⟩
  · rintro ⟨fits, access, notes⟩
    cases counts : rowCount (row.text? "rows") with
    | error fault => exact absurd (rowCount_eq_error.mp counts).2 fits
    | ok counted =>
        rw [ExplainRow.estimate, counts] at notes
        exact ⟨_, by rw [ofRow, sameAccess, access, counts]; simp only [bind, Except.bind, sameNotes, notes]; rfl⟩

theorem RowReport.ofRow_value {aliases : AliasMap} {usages : TableUsages} {thresholds : Thresholds} {row : ExplainRow}
    {index : Nat} {report : Logged RowReport} (h : ofRow aliases usages thresholds row index = .ok report) :
    report.value = ofEstimate aliases usages thresholds row index row.estimate := by
  rw [ofRow] at h
  obtain ⟨_, -, h⟩ := Except.bind_eq_ok.mp h
  obtain ⟨counted, counts, h⟩ := Except.bind_eq_ok.mp h
  obtain ⟨_, -, h⟩ := Except.bind_eq_ok.mp h
  cases h
  rw [ExplainRow.estimate, counts]
  rfl

namespace Correlation

/-- The reports on rows from a position on, if no estimate is too great. -/
def reportsOn (aliases : AliasMap) (usages : TableUsages) (thresholds : Thresholds) (rows : List ExplainRow)
    (index : Nat) : List RowReport :=
  (rows.zipIdx index).map fun (row, index) =>
    RowReport.ofEstimate aliases usages thresholds row index row.estimate

variable {aliases : AliasMap} {usages : TableUsages} {thresholds : Thresholds}

theorem reportsOn_cons (row : ExplainRow) (rest : List ExplainRow) (index : Nat) :
    reportsOn aliases usages thresholds (row :: rest) index =
      RowReport.ofEstimate aliases usages thresholds row index row.estimate ::
        reportsOn aliases usages thresholds rest (index + 1) := by
  rw [reportsOn, List.zipIdx_cons, List.map_cons]
  rfl

theorem reportsFrom_tooGreat (named : usages.AreNamed) {rows : List ExplainRow}
    (great : ∃ row ∈ rows, IsTooGreat (row.text? "rows")) (index : Nat) :
    reportsFrom aliases usages thresholds rows index = .error .notFinite := by
  induction rows generalizing index with
  | nil => exact absurd great (by simp)
  | cons row rest ih =>
      rw [reportsFrom, RowReport.ofRow_named named]
      cases counts : rowCount (row.text? "rows") with
      | error fault =>
          rw [(rowCount_eq_error.mp counts).1]
          rfl
      | ok counted =>
          -- The row that is too great comes later, and nothing in between fails in another way.
          have fits : ¬IsTooGreat (row.text? "rows") := fun great =>
            nomatch counts.symm.trans (rowCount_eq_error.mpr ⟨rfl, great⟩)
          obtain ⟨other, mem, tooGreat⟩ := great
          rcases List.mem_cons.mp mem with rfl | mem
          · exact absurd tooGreat fits
          · simp only [Except.map, bind, Except.bind, ih ⟨other, mem, tooGreat⟩]

theorem reportsFrom_total_iff {rows : List ExplainRow} (index : Nat) :
    (∃ reports, reportsFrom aliases usages thresholds rows index = .ok reports) ↔
      ∀ row ∈ rows, row.IsReportable aliases usages thresholds := by
  induction rows generalizing index with
  | nil => exact iff_of_true ⟨_, rfl⟩ (List.forall_mem_nil _)
  | cons row rest ih =>
      rw [List.forall_mem_cons, ← RowReport.ofRow_total_iff index, ← ih (index + 1)]
      constructor
      · rintro ⟨reports, h⟩
        obtain ⟨report, first, h⟩ := Except.bind_eq_ok.mp h
        obtain ⟨others, rest, -⟩ := Except.bind_eq_ok.mp h
        exact ⟨⟨report, first⟩, others, rest⟩
      · rintro ⟨⟨report, first⟩, others, rest⟩
        exact ⟨_, by rw [reportsFrom, first]; simp only [bind, Except.bind, rest]; rfl⟩

/-- Reports that can be made are those on the rows with their estimates. -/
theorem reportsFrom_value {rows : List ExplainRow} {index : Nat} {reports : Logged (List RowReport)}
    (h : reportsFrom aliases usages thresholds rows index = .ok reports) :
    reports.value = reportsOn aliases usages thresholds rows index := by
  induction rows generalizing index reports with
  | nil =>
      cases h
      rfl
  | cons row rest ih =>
      obtain ⟨report, first, h⟩ := Except.bind_eq_ok.mp h
      obtain ⟨others, rest, h⟩ := Except.bind_eq_ok.mp h
      cases h
      rw [reportsOn_cons, ← ih rest, ← RowReport.ofRow_value first]
      rfl

theorem reportsFrom_total (named : usages.AreNamed) {rows : List ExplainRow}
    (fit : ∀ row ∈ rows, ¬IsTooGreat (row.text? "rows")) (index : Nat) :
    ∃ log, reportsFrom aliases usages thresholds rows index =
      .ok ⟨reportsOn aliases usages thresholds rows index, log⟩ := by
  obtain ⟨reports, reported⟩ := (reportsFrom_total_iff index).mpr fun row mem => .of_areNamed named (fit row mem)
  exact ⟨reports.log, by rw [reported, ← reportsFrom_value reported]⟩

theorem ofRows_total_iff {rows : List ExplainRow} :
    (∃ correlated, ofRows rows aliases usages thresholds = .ok correlated) ↔
      ∀ row ∈ rows, row.IsReportable aliases usages thresholds := by
  rw [← reportsFrom_total_iff 0]
  constructor
  · rintro ⟨correlated, h⟩
    obtain ⟨reports, reported, -⟩ := Except.bind_eq_ok.mp h
    exact ⟨reports, reported⟩
  · rintro ⟨reports, reported⟩
    exact ⟨_, by rw [ofRows, reported]; rfl⟩

theorem ofRows_value {rows : List ExplainRow} {correlated : Logged Correlation}
    (h : ofRows rows aliases usages thresholds = .ok correlated) :
    correlated.value = ofReports (reportsOn aliases usages thresholds rows 0) := by
  obtain ⟨reports, reported, h⟩ := Except.bind_eq_ok.mp h
  cases h
  rw [← reportsFrom_value reported]
  rfl

theorem ofRows_flagged {rows : List ExplainRow} {correlated : Logged Correlation}
    (h : ofRows rows aliases usages thresholds = .ok correlated) :
    correlated.value.flagged = flagsOf correlated.value.warnings := by
  rw [ofRows_value h]
  rfl

theorem exists_finding_of_mem_warnings {rows : List ExplainRow} {index : Nat} {warning : TableWarning}
    (mem : warning ∈ (ofReports (reportsOn aliases usages thresholds rows index)).warnings) :
    ∃ row ∈ rows, ∃ position, (RowSubject.ofRow position row aliases usages).table = some warning.table ∧
      ∃ finding ∈ (RowReport.ofEstimate aliases usages thresholds row position row.estimate).findings,
        warning = RowReport.toWarning (RowSubject.ofRow position row aliases usages) warning.table finding := by
  obtain ⟨report, made, mem⟩ := List.mem_flatMap.mp mem
  obtain ⟨⟨row, position⟩, among, rfl⟩ := List.mem_map.mp made
  rw [RowReport.warnings] at mem
  split at mem
  · rename_i table told
    obtain ⟨finding, found, rfl⟩ := List.mem_map.mp mem
    exact ⟨row, List.fst_mem_of_mem_zipIdx among, position, told, finding, found, rfl⟩
  · cases mem

theorem resolve_of_mem_warnings {rows : List ExplainRow} {index : Nat} {warning : TableWarning}
    (mem : warning ∈ (ofReports (reportsOn aliases usages thresholds rows index)).warnings) :
    ∃ row ∈ rows, ∃ cell, row.text? "table" = some cell ∧ cell ≠ "" ∧
      resolve cell aliases usages.knownTables = .known warning.table := by
  obtain ⟨row, among, position, told, -⟩ := exists_finding_of_mem_warnings mem
  exact ⟨row, among, RowSubject.tableOf_eq_some.mp told⟩

end Correlation

end SqlAdvisor
