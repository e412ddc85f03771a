import SqlAdvisor.Proofs.Explain.Findings
import SqlAdvisor.Proofs.Report.Sections

/-! # The lines of sections

What a section tells is text, wherever the columns of its record have names. A warning begins with a line of its own,
and none of the lines that suggest something begins another.
-/

namespace SqlAdvisor

def SectionRow.IsTextual (row : SectionRow) : Prop := ∃ text, row.item = .text text

/-- The line is text and follows the one that begins its warning. -/
structure SectionRow.IsRemark (row : SectionRow) : Prop where
  textual : row.IsTextual
  category : row.category ≠ ReportSection.warningCategory

theorem SectionRow.isRemark_mk {category notes : String} (text : String)
    (other : category ≠ ReportSection.warningCategory) : IsRemark ⟨category, .text text, notes⟩ :=
  ⟨⟨text, rfl⟩, other⟩

open SectionRow in
theorem RowReport.rows_of_mem_findings {s : RowSubject} {row : ExplainRow} {thresholds : Thresholds} {rows : Int}
    {finding : Finding} (mem : finding ∈ findings ⟨s, remarksOn s row thresholds rows⟩) :
    ∀ line ∈ finding.rows, line.IsRemark := by
  have suggestion : "-> Index Suggestion" ≠ ReportSection.warningCategory := by decide
  rcases cases_of_mem_findings mem with rfl | ⟨keys, rfl⟩ | rfl | rfl | rfl
  · rw [RowSubject.fullTableScan]
    by_cases bare : s.filtering.isEmpty = true
    · rw [if_pos bare]
      exact List.forall_mem_singleton.mpr (isRemark_mk _ suggestion)
    · rw [if_neg bare]
      exact List.forall_mem_singleton.mpr (isRemark_mk _ suggestion)
  · refine List.forall_mem_cons.mpr ⟨isRemark_mk _ (by decide), List.forall_mem_map.mpr fun reason _ => ?_⟩
    exact isRemark_mk reason (by decide)
  · exact List.forall_mem_singleton.mpr (isRemark_mk _ (by decide))
  · exact List.forall_mem_singleton.mpr (isRemark_mk _ suggestion)
  · refine List.forall_mem_singleton.mpr ?_
    split <;> exact isRemark_mk _ suggestion

theorem Correlation.rows_of_mem_warnings {aliases : AliasMap} {usages : TableUsages} {thresholds : Thresholds}
    {rows : List ExplainRow} {index : Nat} {warning : TableWarning}
    (mem : warning ∈ (ofReports (reportsOn aliases usages thresholds rows index)).warnings) :
    ∀ line ∈ warning.rows, line.IsRemark := by
  obtain ⟨row, -, position, -, finding, found, isWarning⟩ := exists_finding_of_mem_warnings mem
  rw [isWarning]
  exact RowReport.rows_of_mem_findings found

/-- Everything that the report's sections tell is text. -/
structure RunReport.IsTextual (report : RunReport) : Prop where
  named : report.analysis.usages.AreNamed
  warnings : ∀ warning ∈ report.warnings, ∀ row ∈ warning.rows, row.IsTextual

namespace ReportSection

theorem warningRows_textual {warning : TableWarning} (textual : ∀ row ∈ warning.rows, row.IsTextual) :
    ∀ line ∈ warningRows warning, line.IsTextual := by
  intro line mem
  simp only [warningRows, List.mem_append, List.mem_cons, List.not_mem_nil, or_false] at mem
  rcases mem with (((rfl | rfl) | mem) | mem) | rfl
  · exact ⟨_, rfl⟩
  · exact ⟨_, rfl⟩
  · exact textual line mem
  · split at mem
    · rw [List.mem_singleton.mp mem]
      exact ⟨_, rfl⟩
    · exact absurd mem List.not_mem_nil
  · exact ⟨_, rfl⟩

theorem usageRows_textual {usage : TableUsage} {rows : List SectionRow} (named : usage.IsNamed)
    (h : usageRows usage = .ok rows) : ∀ line ∈ rows, line.IsTextual := by
  refine usageRows_forall h ⟨_, rfl⟩ (fun _ item _ _ => ⟨item, rfl⟩) ?_
  intro set labels isListed label mem category notes _
  rw [ColumnSet.listing_total (named set)] at isListed
  cases isListed
  obtain ⟨name, -, rfl⟩ := List.mem_map.mp mem
  exact ⟨name, rfl⟩

end ReportSection

theorem RunReport.IsTextual.rows {report : RunReport} (textual : report.IsTextual)
    {sections : Logged (List ReportSection)} (made : report.sections = .ok sections) :
    ∀ shown ∈ sections.value, ∀ row ∈ shown.rows, row.IsTextual := by
  intro shown mem
  obtain ⟨⟨key, usage⟩, entry, ofEntry⟩ := (forall₂_partners (RunReport.forall₂_sections made)).2 shown mem
  obtain ⟨rows, isRows, rfl⟩ := ReportSection.ofUsage_eq_ok ofEntry
  have ofUsage := ReportSection.usageRows_textual (textual.named _ entry) isRows
  refine List.forall_mem_append.mpr ⟨List.forall_mem_flatMap.mpr fun warning told => ?_, ofUsage⟩
  apply ReportSection.warningRows_textual
  cases key with
  | known table =>
      rw [ReportSection.warningsOf, Ledger.warningsFor_record] at told
      exact textual.warnings warning (firstsAfter_subset (List.mem_filter.mp told).1)
  | unresolved qualifier => exact absurd told List.not_mem_nil
  | ambiguous => exact absurd told List.not_mem_nil

end SqlAdvisor
