import SqlAdvisor.Proofs.Database.Asking
import SqlAdvisor.Proofs.Explain.Report
import SqlAdvisor.Proofs.Run.Explaining

/-! # Answers of a database

Whatever rows a database answers an EXPLAIN with, a run correlates them with the analysis of the script and keeps
that analysis. The exception is an estimate that is too great to be stored, which costs the whole run.
-/

namespace SqlAdvisor

namespace Run

theorem explainAliases_total {target : Statement} (regular : target.IsRegular) :
    ∃ aliases, explainAliases target = .ok aliases := by
  rw [explainAliases]
  split
  · exact ⟨_, regular.aliasMap_eq_ok⟩
  · exact ⟨∅, rfl⟩

/-- A run over a script whose database answers with a table, in a time that can be told. -/
structure IsAnswered (outcome : ParseOutcome) (access : DatabaseAccess) (script : Script) (target : Statement)
    (elapsed : Int) : Prop where
  parsed : Script.ofOutcome outcome = .ok script
  valid : script.isValid = true
  regular : ∀ statement ∈ script.statements, statement.IsRegular
  first : FirstExplainable script.statements target
  tabular : access.config.IsTabular
  answers : access.server.failure = none
  timed : access.clock.elapsedMs? = some elapsed

namespace IsAnswered

variable {outcome : ParseOutcome} {script : Script} {access : DatabaseAccess} {thresholds : Thresholds}
  {target : Statement} {elapsed : Int} {analysed : Logged Analysis} {aliases : AliasMap}

theorem analysis_total (answered : IsAnswered outcome access script target elapsed) :
    ∃ analysed, Analysis.ofScript script = .ok analysed ∧ analysed.value.usages.AreNamed :=
  Analysis.ofScript_total fun head mem => answered.regular head (List.mem_of_mem_head? mem)

theorem aliases_total (answered : IsAnswered outcome access script target elapsed) :
    ∃ aliases, explainAliases target = .ok aliases :=
  explainAliases_total (answered.regular target answered.first.mem)

theorem report_eq (answered : IsAnswered outcome access script target elapsed)
    (analyses : Analysis.ofScript script = .ok analysed) (finds : explainAliases target = .ok aliases) :
    let rows := access.server.result.tabularRows
    (ofOutcome outcome (some access) thresholds).map (·.report) =
      (Correlation.reportsFrom aliases analysed.value.usages thresholds rows 0).map fun reports => {
        analysis := analysed.value
        explainSql := some target.sql
        explainRows := rows
        correlation := some (.ofReports reports.value)
        explainDurationMs := some elapsed } := by
  intro rows
  rw [ofOutcome_explains answered.parsed answered.valid answered.first, analyses]
  simp only [bind, Except.bind]
  rw [explain_answered (runExplain_tabular target.sql answered.tabular answered.answers) answered.timed, finds]
  simp only [bind, Except.bind, Correlation.ofRows]
  cases Correlation.reportsFrom aliases analysed.value.usages thresholds access.server.result.tabularRows 0 with
  | error fault => rfl
  | ok reports => rfl

/-- One estimate that is too great is enough for the whole run to fail. -/
theorem tooGreat (answered : IsAnswered outcome access script target elapsed)
    (great : ∃ row ∈ access.server.result.tabularRows, IsTooGreat (row.text? "rows")) :
    ofOutcome outcome (some access) thresholds = .error .notFinite := by
  obtain ⟨analysed, analyses, named⟩ := answered.analysis_total
  obtain ⟨aliases, finds⟩ := answered.aliases_total
  have report : (ofOutcome outcome (some access) thresholds).map (·.report) = _ :=
    answered.report_eq analyses finds
  rw [Correlation.reportsFrom_tooGreat named great 0] at report
  exact Except.map_eq_error.mp report

end IsAnswered

end Run

/-- Whatever rows a database answers with, the script has an analysis, and the run has that analysis and a
    correlation in its report unless the estimate of some row is too great, which makes the run fail. An
    unreadable estimate counts as zero. -/
theorem run_correlates_unless_tooGreat {outcome : ParseOutcome} {access : DatabaseAccess} {script : Script}
    {target : Statement} {elapsed : Int} (answered : Run.IsAnswered outcome access script target elapsed)
    (thresholds : Thresholds) :
    let rows := access.server.result.tabularRows
    ∃ analysed aliases, Analysis.ofScript script = .ok analysed ∧ Run.explainAliases target = .ok aliases ∧
      ((∀ row ∈ rows, ¬IsTooGreat (row.text? "rows")) →
        ∃ run, Run.ofOutcome outcome (some access) thresholds = .ok run ∧ run.report = {
          analysis := analysed.value
          explainSql := some target.sql
          explainRows := rows
          correlation := some (.ofReports
            (Correlation.reportsOn aliases analysed.value.usages thresholds rows 0))
          explainDurationMs := some elapsed }) ∧
      ((∃ row ∈ rows, IsTooGreat (row.text? "rows")) →
        Run.ofOutcome outcome (some access) thresholds = .error .notFinite) ∧
      ∀ row ∈ rows, IsUnreadable (row.text? "rows") → row.estimate = 0 := by
  intro rows
  obtain ⟨analysed, analyses, named⟩ := answered.analysis_total
  obtain ⟨aliases, finds⟩ := answered.aliases_total
  refine ⟨analysed, aliases, analyses, finds, ?_, answered.tooGreat, fun row _ => ExplainRow.estimate_unreadable⟩
  intro fit
  have report : (Run.ofOutcome outcome (some access) thresholds).map (·.report) = _ :=
    answered.report_eq analyses finds
  obtain ⟨log, reported⟩ := Correlation.reportsFrom_total named fit 0
  rw [reported] at report
  exact Except.map_eq_ok.mp report

/-- A database that answers with one row, which has an estimate only. -/
def estimating (estimate : String) : DatabaseAccess where
  config := {
    host := .null, port := .null, dbname := .null, user := .null, password := .null, vendor := .text "mysql" }
  server := { result := { columns := ["rows"], rows := [[.text estimate]] } }

theorem estimating_rows (estimate : String) :
    ∃ row, (estimating estimate).server.result.tabularRows = [row] ∧ row.text? "rows" = some estimate := by
  have lowered : Text.lower "rows" = "rows" := by with_unfolding_all rfl
  refine ⟨.ofCells [("rows", .text estimate)], rfl, ?_⟩
  have entries : (ExplainRow.ofCells [("rows", .text estimate)]).cells.entries = [("rows", .text estimate)] := rfl
  have cell : (ExplainRow.ofCells [("rows", .text estimate)]).get? "rows" = some (.text estimate) := by
    simp [ExplainRow.get?, entries, lowered]
  rw [ExplainRow.text?, cell]
  rfl

theorem estimating_isAnswered (estimate : String) : ∃ script target,
    Run.IsAnswered (.trees [some filteredQuery]) (estimating estimate) script target 0 := by
  obtain ⟨script, target, parsed, valid, first, regular⟩ := filteredQuery_isExplained
  have lowered : Text.lower "mysql" = "mysql" := by with_unfolding_all rfl
  have tabular : (estimating estimate).config.IsTabular := ⟨"mysql", rfl, by simp [lowered]⟩
  have timed : Stopwatch.elapsedMs? {} = some 0 := by decide +kernel
  exact ⟨script, target, parsed, valid, regular, first, tabular, rfl, timed⟩

theorem run_correlates_unreadable :
    ∃ run, Run.ofOutcome (.trees [some filteredQuery]) (some (estimating "x.y")) {} = .ok run ∧
      run.report.correlation.isSome = true := by
  obtain ⟨script, target, answered⟩ := estimating_isAnswered "x.y"
  obtain ⟨analysed, aliases, -, -, correlates, -, -⟩ := run_correlates_unless_tooGreat answered {}
  obtain ⟨row, rows, told⟩ := estimating_rows "x.y"
  have noDecimal : Numeral.decimal? (writtenIn (some "x.y")) = none := by with_unfolding_all rfl
  have fits : ¬IsTooGreat (row.text? "rows") := by
    rw [told]
    rintro ⟨-, value, read, -⟩
    cases noDecimal.symm.trans read
  obtain ⟨run, returned, report⟩ := correlates (by simpa [rows] using fits)
  exact ⟨run, returned, by rw [report]; rfl⟩

/-- An estimate that is too great costs a run what it has found out about the script. -/
theorem run_loses_analysis :
    ∃ script analysed, Script.ofOutcome (.trees [some filteredQuery]) = .ok script ∧
      Analysis.ofScript script = .ok analysed ∧
      Run.ofOutcome (.trees [some filteredQuery]) (some (estimating "1.0e999")) {} = .error .notFinite := by
  obtain ⟨script, target, answered⟩ := estimating_isAnswered "1.0e999"
  obtain ⟨analysed, analyses, -⟩ := answered.analysis_total
  obtain ⟨row, rows, told⟩ := estimating_rows "1.0e999"
  have written : writtenIn (some "1.0e999") = ['1', '.', '0', 'e', '9', '9', '9'] := by with_unfolding_all rfl
  have point : '.' ∈ writtenIn (some "1.0e999") := by simp [written]
  obtain ⟨value, read, tooGreat⟩ : ∃ value, Numeral.decimal? (writtenIn (some "1.0e999")) = some value ∧
      value.truncated? = none := ⟨⟨false, 10, 998⟩, by with_unfolding_all rfl, by decide⟩
  have great : IsTooGreat (row.text? "rows") := by
    rw [told]
    exact ⟨point, value, read, Numeral.Decimal.truncated?_eq_none.mp tooGreat⟩
  exact ⟨script, analysed, answered.parsed, analyses, answered.tooGreat ⟨row, by simp [rows], great⟩⟩

end SqlAdvisor
