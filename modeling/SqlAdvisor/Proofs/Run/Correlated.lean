import SqlAdvisor.Proofs.Explain.Report
import SqlAdvisor.Proofs.Run.Explaining

/-! # Runs with a correlation

A run has a correlation if its script has a statement to explain and a database answers for it. The tables of the
answer are looked for by the aliases of that statement, but among the records of the script's first one.
-/

namespace SqlAdvisor

theorem FirstExplainable.eq_of_opens {statements : List Statement} {first target : Statement}
    (explains : FirstExplainable statements target) (opens : statements.head? = some first)
    (explainable : first.isExplainable = true) : target = first := by
  obtain ⟨rest, rfl⟩ := List.head?_eq_some_iff.mp opens
  have found := FirstExplainable.iff_find.mp explains
  rw [Statement.firstExplainable?, List.find?_cons_of_pos explainable] at found
  exact (Option.some.inj found).symm

theorem Analysis.ofStatement_of_opens {script : Script} {first : Statement} {analysed : Logged Analysis}
    (valid : script.isValid = true) (opens : script.statements.head? = some first)
    (analyses : Analysis.ofScript script = .ok analysed) : Analysis.ofStatement first = .ok analysed := by
  have noError : script.errorText? = none := if_pos valid
  rw [Analysis.ofScript, noError] at analyses
  obtain ⟨rest, statements⟩ := List.head?_eq_some_iff.mp opens
  simpa only [statements, Analysis.ofStatements] using analyses

namespace Run

/-- The run has brought the answer about one statement of a script back to the records of the first. -/
structure IsCorrelated (run : Run) (script : Script) (first target : Statement) (aliases : AliasMap)
    (thresholds : Thresholds) : Prop where
  opens : script.statements.head? = some first
  explains : FirstExplainable script.statements target
  asks : run.report.explainSql = some target.sql
  analyses : ∃ log, Analysis.ofStatement first = .ok ⟨run.report.analysis, log⟩
  finds : explainAliases target = .ok aliases
  correlation : run.report.correlation = some (.ofReports
    (Correlation.reportsOn aliases run.report.analysis.usages thresholds run.report.explainRows 0))

theorem explain_correlates {analysis : Analysis} {target : Statement} {access : DatabaseAccess}
    {thresholds : Thresholds} {run : Run} (returned : explain analysis target access thresholds = .ok run)
    (correlated : run.report.correlation.isSome = true) :
    run.report.analysis = analysis ∧ run.report.explainSql = some target.sql ∧
      ∃ aliases, explainAliases target = .ok aliases ∧ run.report.correlation = some (.ofReports
        (Correlation.reportsOn aliases analysis.usages thresholds run.report.explainRows 0)) := by
  rcases explain_cases returned with ⟨failure, rfl⟩ | ⟨rows, elapsed, aliases, correlation, finds, correlates, rfl⟩
  · cases correlated
  · obtain ⟨reports, made, correlates⟩ := Except.bind_eq_ok.mp correlates
    cases correlates
    exact ⟨rfl, rfl, aliases, finds, by rw [← Correlation.reportsFrom_value made]; rfl⟩

theorem ofOutcome_correlates {outcome : ParseOutcome} {access? : Option DatabaseAccess} {thresholds : Thresholds}
    {run : Run} (returned : ofOutcome outcome access? thresholds = .ok run)
    (correlated : run.report.correlation.isSome = true) :
    ∃ script first target aliases, Script.ofOutcome outcome = .ok script ∧
      run.IsCorrelated script first target aliases thresholds := by
  obtain ⟨script, parsed, -⟩ := Except.bind_eq_ok.mp returned
  by_cases valid : script.isValid = true
  · rw [ofOutcome_valid parsed valid] at returned
    obtain ⟨analysed, analyses, returned⟩ := Except.bind_eq_ok.mp returned
    obtain ⟨rest, after, rfl⟩ := Except.map_eq_ok.mp returned
    cases found : Statement.firstExplainable? script.statements with
    | none =>
        simp only [afterAnalysis, found] at after
        cases after
        cases correlated
    | some target =>
        cases access? with
        | none =>
            simp only [afterAnalysis, found] at after
            cases after
            cases correlated
        | some access =>
            simp only [afterAnalysis, found] at after
            have explains := FirstExplainable.iff_find.mpr found
            obtain ⟨first, opens⟩ : ∃ first, script.statements.head? = some first :=
              ⟨_, List.head?_eq_some_head (List.ne_nil_of_mem explains.mem)⟩
            obtain ⟨same, asks, aliases, finds, correlation⟩ := explain_correlates after correlated
            have ofFirst := Analysis.ofStatement_of_opens valid opens analyses
            rw [← same] at correlation
            exact ⟨script, first, target, aliases, parsed, opens, explains, asks, ⟨analysed.log, same ▸ ofFirst⟩,
              finds, correlation⟩
  · have hasError : script.errorText? = some _ := if_neg valid
    rw [ofOutcome, parsed] at returned
    simp only [bind, Except.bind, hasError] at returned
    cases returned
    cases correlated

namespace IsCorrelated

variable {run : Run} {script : Script} {first target : Statement} {aliases : AliasMap} {thresholds : Thresholds}

theorem usages_eq (correlated : run.IsCorrelated script first target aliases thresholds) :
    run.report.analysis.usages = first.usages (.ofRefs first.tables) := by
  obtain ⟨log, analysed⟩ := correlated.analyses
  obtain ⟨-, hints, -, parts⟩ := Analysis.ofStatement_value analysed
  exact congrArg Analysis.usages parts

/-- A warning is about a table of the script's first statement, unless that cannot be explained. Then it may be about
    one of the query that is explained. -/
theorem warning_table (correlated : run.IsCorrelated script first target aliases thresholds)
    {correlation : Correlation} (has : run.report.correlation = some correlation) {warning : TableWarning}
    (mem : warning ∈ correlation.warnings) :
    warning.table ∈ first.tableNames ∨
      first.isExplainable = false ∧ target.isSelect = true ∧ warning.table ∈ target.tableNames := by
  obtain rfl := Option.some.inj (correlated.correlation.symm.trans has)
  obtain ⟨row, -, cell, -, -, means⟩ := Correlation.resolve_of_mem_warnings mem
  rw [correlated.usages_eq, Statement.knownTables_usages] at means
  rcases resolve_known means with aliased | known
  · have finds := correlated.finds
    rw [explainAliases] at finds
    split at finds
    · rename_i isSelect
      obtain ⟨rfl, -⟩ := Statement.aliasMap_eq_ok finds
      have ofTarget := Statement.mem_tableNames.mpr (AliasMap.mem_names_of_mem_values aliased)
      cases explainable : first.isExplainable with
      | false => exact .inr ⟨rfl, isSelect, ofTarget⟩
      | true => exact .inl (correlated.explains.eq_of_opens correlated.opens explainable ▸ ofTarget)
    · cases finds
      cases aliased
  · exact .inl known

end IsCorrelated

end Run

end SqlAdvisor
