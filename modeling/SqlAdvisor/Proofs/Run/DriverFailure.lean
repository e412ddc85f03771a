import SqlAdvisor.Proofs.Database.Asking
import SqlAdvisor.Proofs.Run.Explaining

/-! # Failures of a database driver

A driver may fail when it connects or when it asks. The run then ends with what is known without a database, and
the failure is told. The connection is closed again in every run that opens it.
-/

namespace SqlAdvisor

namespace Run

theorem closed_databaseCalls (outcome : ParseOutcome) (access : DatabaseAccess) :
    Closed access.server (databaseCalls outcome access) := by
  have none := closed_nil access.server
  rw [databaseCalls]
  split
  · exact none
  · split
    · rw [scriptCalls]
      split
      · exact closed_runExplain _ _ _
      · exact none
    · exact none

theorem databaseCalls_eq_nil {outcome : ParseOutcome} {script : Script} (access : DatabaseAccess)
    (parsed : Script.ofOutcome outcome = .ok script)
    (none : ∀ statement ∈ script.statements, statement.isExplainable = false) :
    databaseCalls outcome access = [] := by
  have absent : Statement.firstExplainable? script.statements = .none :=
    List.find?_eq_none.mpr fun statement mem => by simp [none statement mem]
  rw [databaseCalls, parsed]
  simp [scriptCalls, absent]

end Run

/-- A driver's failure ends a run with the analysis of the script and with the failure, told by its message. -/
theorem Run.ofOutcome_driverFailure {outcome : ParseOutcome} {script : Script} {access : DatabaseAccess}
    {thresholds : Thresholds} {target : Statement} {stage : FailureStage} {contents : List Datum}
    (parsed : Script.ofOutcome outcome = .ok script) (valid : script.isValid = true)
    (first : FirstExplainable script.statements target) (supported : access.config.IsSupported)
    (failure : access.server.failure = some (stage, contents)) :
    (ofOutcome outcome (some access) thresholds).map (·.report) =
      (Analysis.ofScript script).map fun analysed => {
        analysis := analysed.value
        explainSql := some target.sql
        explainRows := []
        correlation := none
        explainError := some (.ofDriverError contents)
        explainDurationMs := none } := by
  rw [ofOutcome_explains parsed valid first]
  have refused := runExplain_failed target.sql supported failure
  cases Analysis.ofScript script with
  | error fault => rfl
  | ok analysed =>
      simp only [bind, Except.bind, explain_refused refused]
      rfl

/-- Whatever a driver's failure holds, a run over a valid script ends as the analysis of the script does, and its
    report has the analysis, the statement that was to be explained and the failure. A script that starts with a
    regular statement has an analysis. Without a statement that can be explained, no database is called. And in
    every run that connects to a database, the connection is closed exactly once. -/
theorem run_survives_driverFailure (outcome : ParseOutcome) (access : DatabaseAccess) (thresholds : Thresholds) :
    (∀ script, Script.ofOutcome outcome = .ok script → script.isValid = true →
      (∀ target stage contents, FirstExplainable script.statements target → access.config.IsSupported →
        access.server.failure = some (stage, contents) →
        ∃ failure : ExplainFailure,
          failure.message = Text.strip (ExplainFailure.errorText contents) ∧
          (failure.kind = .unresolvedVariable ↔ ExplainFailure.TellsUnresolved failure.message) ∧
          (Run.ofOutcome outcome (some access) thresholds).map (·.report) =
            (Analysis.ofScript script).map fun analysed => {
              analysis := analysed.value
              explainSql := some target.sql
              explainRows := []
              correlation := none
              explainError := some failure
              explainDurationMs := none }) ∧
      ((∀ first ∈ script.statements.head?, first.IsRegular) →
        ∃ analysed, Analysis.ofScript script = .ok analysed) ∧
      ((∀ statement ∈ script.statements, statement.isExplainable = false) →
        Run.databaseCalls outcome access = [])) ∧
    Closed access.server (Run.databaseCalls outcome access) ∧
    ∀ run, Run.ofOutcome outcome (some access) thresholds = .ok run →
      Event.calls run.events = Run.databaseCalls outcome access := by
  refine ⟨fun script parsed valid => ⟨?_, ?_, ?_⟩, Run.closed_databaseCalls outcome access,
    fun run returned => Run.calls_events returned⟩
  · intro target stage contents first supported failure
    exact ⟨.ofDriverError contents, rfl, ExplainFailure.kind_ofDriverError,
      Run.ofOutcome_driverFailure parsed valid first supported failure⟩
  · intro regular
    obtain ⟨analysed, analyses, -⟩ := Analysis.ofScript_total regular
    exact ⟨analysed, analyses⟩
  · exact Run.databaseCalls_eq_nil access parsed

theorem run_survives_refusedQuery :
    let access : DatabaseAccess := {
      config := { host := .null, port := .null, dbname := .null, user := .null, password := .null }
      server := { failure := some (.executing, [.text "unknown column 'name'"]) } }
    ∃ run failure, Run.ofOutcome (.trees [some filteredQuery]) (some access) {} = .ok run ∧
      run.report.explainError = some failure ∧ failure.kind = .unresolvedVariable ∧
      failure.message = "unknown column 'name'" ∧ run.report.correlation = none := by
  intro access
  obtain ⟨script, target, parsed, valid, first, regular⟩ := filteredQuery_isExplained
  have lowered : Text.lower "postgres" = "postgres" := by with_unfolding_all rfl
  have supported : access.config.IsSupported := ⟨"postgres", rfl, by simp [lowered]⟩
  obtain ⟨scripts, -, -⟩ := run_survives_driverFailure (.trees [some filteredQuery]) access {}
  obtain ⟨fails, analyses, -⟩ := scripts script parsed valid
  obtain ⟨failure, message, kind, run⟩ := fails target _ _ first supported rfl
  obtain ⟨analysed, analysis⟩ := analyses fun head mem => regular head (List.mem_of_mem_head? mem)
  rw [analysis] at run
  obtain ⟨run, returned, report⟩ := Except.map_eq_ok.mp run
  have told : failure.message = "unknown column 'name'" := message.trans (by with_unfolding_all rfl)
  have unresolved : ExplainFailure.TellsUnresolved failure.message := by
    have same : Text.lower "unknown column 'name'" = "unknown column 'name'" := by with_unfolding_all rfl
    rw [told, ExplainFailure.TellsUnresolved, same]
    exact .inl ⟨[], " 'name'".toList, rfl⟩
  exact ⟨run, failure, returned, by rw [report], kind.mpr unresolved, told, by rw [report]⟩

end SqlAdvisor
