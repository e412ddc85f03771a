import SqlAdvisor.Proofs.Run.Explaining

/-! # How runs end

A run that returns ends in one of five ways: the parser refuses the script, no statement can be explained, there is no
database to ask, the database fails, or it answers. Which results a run has, and whether it tells that it is complete,
follows from the way in which it ends.
-/

namespace SqlAdvisor

/-! ## Progress messages -/

namespace Event

@[simp] theorem messages_append (first second : List Event) :
    messages (first ++ second) = messages first ++ messages second :=
  List.filterMap_append

@[simp] theorem messages_nil : messages [] = [] := rfl

@[simp] theorem messages_progress (message : String) (rest : List Event) :
    messages (.progress message :: rest) = message :: messages rest := rfl

@[simp] theorem messages_record (entry : LogRecord) (rest : List Event) :
    messages (.record entry :: rest) = messages rest := rfl

@[simp] theorem messages_records (log : List LogRecord) : messages (log.map .record) = [] := by
  rw [messages, List.filterMap_map]
  exact List.filterMap_eq_nil_iff.mpr fun _ _ => rfl

@[simp] theorem messages_calls (made : List DatabaseCall) : messages (made.map .call) = [] := by
  rw [messages, List.filterMap_map]
  exact List.filterMap_eq_nil_iff.mpr fun _ _ => rfl

end Event

/-! ## Scripts that are refused -/

namespace SyntaxError

theorem ofRejection_ne_nil {message : String} {details : List SyntaxDetail} {errors : List SyntaxError}
    (h : ofRejection message details = .ok errors) : errors ≠ [] := by
  rw [ofRejection] at h
  split at h
  · cases h
    exact List.cons_ne_nil _ _
  · rename_i several
    have pairs := Except.mapM_eq_ok.mp h
    intro none
    rw [none, List.forall₂_nil_right_iff] at pairs
    simp [pairs] at several

end SyntaxError

namespace Script

variable {outcome : ParseOutcome} {script : Script}

theorem isValid_iff (parsed : ofOutcome outcome = .ok script) :
    (script.isValid = true ↔ ∃ trees, outcome = .trees trees) ∧ (script.isValid = false → script.statements = []) := by
  cases outcome with
  | trees trees =>
      obtain ⟨statements, -, parsed⟩ := Except.bind_eq_ok.mp parsed
      cases parsed
      simp [isValid]
  | rejected message details =>
      obtain ⟨errors, rejects, parsed⟩ := Except.bind_eq_ok.mp parsed
      cases parsed
      simp [isValid, SyntaxError.ofRejection_ne_nil rejects]
  | untokenizable message =>
      cases parsed
      simp [isValid]

theorem errorText?_ne_empty {text : String} (told : script.errorText? = some text) : text ≠ "" := by
  rw [errorText?] at told
  split at told
  · cases told
  · rename_i refused
    obtain ⟨error, others, errors⟩ := List.exists_cons_of_ne_nil (mt List.isEmpty_iff.mpr refused)
    cases told
    rw [errors, List.map_cons]
    simp [String.join_cons, SyntaxError.display]

end Script

/-! ## Hints -/

private theorem replaced_ne_nil {α : Type} {items others : List α} (given : others ≠ []) :
    (if items.isEmpty then others else items) ≠ [] := by
  cases items with
  | nil => exact given
  | cons item rest => exact List.cons_ne_nil item rest

theorem Hint.ofStatement_ne_nil {statement : Statement} {usages : TableUsages} {stats : Statistics}
    {hints : Logged (List Hint)} (h : ofStatement statement usages stats = .ok hints) : hints.value ≠ [] := by
  cases statement with
  | select s =>
      obtain ⟨found, ofSelect, h⟩ := Except.bind_eq_ok.mp h
      cases h
      simp only [Hint.ofSelect, Except.bind_eq_ok] at ofSelect
      obtain ⟨_, _, _, _, _, _, _, _, _, _, ofSelect⟩ := ofSelect
      cases ofSelect
      exact replaced_ne_nil (List.cons_ne_nil _ _)
  | insert s =>
      cases h
      exact List.cons_ne_nil _ _
  | update s =>
      obtain ⟨hint, -, h⟩ := Except.bind_eq_ok.mp h
      cases h
      exact List.cons_ne_nil _ _
  | delete s =>
      obtain ⟨hint, -, h⟩ := Except.bind_eq_ok.mp h
      cases h
      exact List.cons_ne_nil _ _
  | other s =>
      cases h
      exact List.cons_ne_nil _ _

theorem Analysis.ofStatements_valid {statements : List Statement} {analysed : Logged Analysis}
    (h : ofStatements statements = .ok analysed) : analysed.value.isValid = true ∧ analysed.value.hints ≠ [] := by
  cases statements with
  | nil =>
      cases h
      exact ⟨rfl, List.cons_ne_nil _ _⟩
  | cons first rest =>
      obtain ⟨-, hints, given, parts⟩ := ofStatement_value h
      rw [parts]
      exact ⟨rfl, Hint.ofStatement_ne_nil given⟩

/-! ## Ends of a run -/

namespace Run

/-- The ways in which a run over a script ends. -/
inductive Ends (script : Script) (access? : Option DatabaseAccess) (thresholds : Thresholds) : Run → Prop where
  | refused {text : String} : script.errorText? = some text →
      Ends script access? thresholds {
        report := { analysis := { error := some text } }
        events := [.progress "Parsing SQL script..."] }
  | unexplainable {analysed : Logged Analysis} : script.isValid = true →
      Analysis.ofStatements script.statements = .ok analysed → Statement.firstExplainable? script.statements = none →
      Ends script access? thresholds {
        report := { analysis := analysed.value }
        events := opening analysed ++ [
          .progress "No explainable (SELECT/INSERT/UPDATE/DELETE) statement found in script."] }
  | offline {analysed : Logged Analysis} {target : Statement} : script.isValid = true →
      Analysis.ofStatements script.statements = .ok analysed →
      Statement.firstExplainable? script.statements = some target → access? = none →
      Ends script access? thresholds {
        report := { analysis := analysed.value, explainSql := some target.sql }
        events := opening analysed ++ [.progress "Analysis complete."] }
  | failed {analysed : Logged Analysis} {target : Statement} {access : DatabaseAccess} {failure : ExplainFailure} :
      script.isValid = true → Analysis.ofStatements script.statements = .ok analysed →
      Statement.firstExplainable? script.statements = some target → access? = some access →
      Ends script access? thresholds {
        report := { analysis := analysed.value, explainSql := some target.sql, explainError := some failure }
        events := opening analysed ++
          (asking target access ++ [.record ⟨.error, .pipeline, failure.remediation⟩]) }
  | answered {analysed : Logged Analysis} {target : Statement} {access : DatabaseAccess} {rows : List ExplainRow}
      {elapsed : Int} {aliases : AliasMap} {correlated : Logged Correlation} :
      script.isValid = true → Analysis.ofStatements script.statements = .ok analysed →
      Statement.firstExplainable? script.statements = some target → access? = some access →
      Correlation.ofRows rows aliases analysed.value.usages thresholds = .ok correlated →
      Ends script access? thresholds {
        report := {
          analysis := analysed.value
          explainSql := some target.sql
          explainRows := rows
          correlation := some correlated.value
          explainDurationMs := some elapsed }
        events := opening analysed ++
          (asking target access ++ correlated.log.map .record ++ [.progress "Analysis complete."]) }

variable {outcome : ParseOutcome} {access? : Option DatabaseAccess} {thresholds : Thresholds} {run : Run}

theorem ofOutcome_ends (returned : ofOutcome outcome access? thresholds = .ok run) :
    ∃ script, Script.ofOutcome outcome = .ok script ∧ Ends script access? thresholds run := by
  obtain ⟨script, parsed, -⟩ := Except.bind_eq_ok.mp returned
  refine ⟨script, parsed, ?_⟩
  by_cases valid : script.isValid = true
  · have noError : script.errorText? = none := if_pos valid
    rw [ofOutcome_valid parsed valid, Analysis.ofScript, noError] at returned
    obtain ⟨analysed, analyses, returned⟩ := Except.bind_eq_ok.mp returned
    obtain ⟨rest, after, rfl⟩ := Except.map_eq_ok.mp returned
    cases found : Statement.firstExplainable? script.statements with
    | none =>
        simp only [afterAnalysis, found] at after
        cases after
        exact .unexplainable valid analyses found
    | some target =>
        cases access? with
        | none =>
            simp only [afterAnalysis, found] at after
            cases after
            exact .offline valid analyses found rfl
        | some access =>
            simp only [afterAnalysis, found] at after
            rcases explain_cases after with ⟨failure, rfl⟩ | ⟨rows, elapsed, aliases, correlated, -, correlates, rfl⟩
            · exact .failed valid analyses found rfl
            · exact .answered valid analyses found rfl correlates
  · have hasError : script.errorText? = some _ := if_neg valid
    rw [ofOutcome, parsed] at returned
    simp only [bind, Except.bind, hasError] at returned
    cases returned
    exact .refused hasError

theorem messages_opening (analysed : Logged Analysis) : Event.messages (opening analysed) =
    ["Parsing SQL script...", "Performing structural analysis..."] := by
  simp [opening]

theorem messages_asking (target : Statement) (access : DatabaseAccess) : Event.messages (asking target access) =
    ["Connecting to database...", "Executing EXPLAIN command..."] := by
  simp [asking]

/-- The results of a run over a script fit together. -/
structure IsConsistent (run : Run) (script : Script) (access? : Option DatabaseAccess) : Prop where
  /-- A script that is refused has its errors told, and nothing else. -/
  refused : script.isValid = false →
    (∃ text, text ≠ "" ∧ run.report.analysis = { error := some text }) ∧ Event.calls run.events = []
  accepted : script.isValid = true → run.report.analysis.isValid = true ∧ run.report.analysis.hints ≠ []
  asks : run.report.explainSql.isSome = true ↔
    script.isValid = true ∧ ∃ statement ∈ script.statements, statement.isExplainable = true
  exclusive : run.report.explainError = none ∨ run.report.correlation = none
  /-- Whatever a database brings takes a statement to explain and a database. -/
  asked : run.report.explainError.isSome = true ∨ run.report.correlation.isSome = true →
    run.report.explainSql.isSome = true ∧ access?.isSome = true
  timed : run.report.explainDurationMs.isSome = true ↔ run.report.correlation.isSome = true
  answered : run.report.explainRows ≠ [] → run.report.correlation.isSome = true
  completes : (Event.messages run.events).getLast? = some "Analysis complete." ↔
    run.report.explainSql.isSome = true ∧ run.report.explainError = none
  /-- A run never tells otherwise that it is complete. -/
  otherwise : "Analysis complete." ∈ Event.messages run.events →
    run.report.explainSql.isSome = true ∧ run.report.explainError = none

/-- Every way in which a run ends leaves results that fit together. -/
theorem Ends.isConsistent {script : Script} (ends : Ends script access? thresholds run) :
    run.IsConsistent script access? := by
  have explainable : (∃ statement ∈ script.statements, statement.isExplainable = true) ↔
      (Statement.firstExplainable? script.statements).isSome = true := List.find?_isSome.symm
  cases ends with
  | refused told =>
      have invalid : script.isValid = false := by
        rw [← Bool.not_eq_true]
        exact fun valid => nomatch told.symm.trans (if_pos valid)
      constructor <;> simp [invalid, Script.errorText?_ne_empty told]
  | unexplainable valid analyses none =>
      have valued := Analysis.ofStatements_valid analyses
      constructor <;> simp [valid, valued, explainable, none, messages_opening]
  | offline valid analyses found noDatabase =>
      have valued := Analysis.ofStatements_valid analyses
      constructor <;> simp [valid, valued, explainable, found, messages_opening]
  | failed valid analyses found database =>
      have valued := Analysis.ofStatements_valid analyses
      constructor <;> simp [valid, valued, explainable, found, database, messages_opening, messages_asking]
  | answered valid analyses found database correlates =>
      have valued := Analysis.ofStatements_valid analyses
      constructor <;> simp [valid, valued, explainable, found, database, messages_opening, messages_asking]

end Run

/-- Whatever the parser makes of a script, with or without a database, a run that returns has results that fit
    together. The script is valid exactly if the parser gave trees for it, and has no statements otherwise. -/
theorem run_outcome_consistent {outcome : ParseOutcome} {access? : Option DatabaseAccess} {thresholds : Thresholds}
    {run : Run} (returned : Run.ofOutcome outcome access? thresholds = .ok run) :
    ∃ script, Script.ofOutcome outcome = .ok script ∧
      (script.isValid = true ↔ ∃ trees, outcome = .trees trees) ∧
      (script.isValid = false → script.statements = []) ∧ run.IsConsistent script access? := by
  obtain ⟨script, parsed, ends⟩ := Run.ofOutcome_ends returned
  obtain ⟨valid, statements⟩ := Script.isValid_iff parsed
  exact ⟨script, parsed, valid, statements, ends.isConsistent⟩

/-- Without a database, the analysis of a query that could be explained is complete. -/
theorem run_outcome_consistent_filteredQuery :
    ∃ run, Run.ofOutcome (.trees [some filteredQuery]) none {} = .ok run ∧ run.report.analysis.hints ≠ [] ∧
      run.report.explainSql.isSome = true ∧ (Event.messages run.events).getLast? = some "Analysis complete." := by
  obtain ⟨script, target, parsed, valid, first, regular⟩ := filteredQuery_isExplained
  obtain ⟨analysed, analyses, -⟩ :=
    Analysis.ofScript_total fun head mem => regular head (List.mem_of_mem_head? mem)
  let run : Run := {
    report := { analysis := analysed.value, explainSql := some target.sql }
    events := Run.opening analysed ++ [.progress "Analysis complete."] }
  have returned : Run.ofOutcome (.trees [some filteredQuery]) none {} = .ok run := by
    rw [Run.ofOutcome_valid parsed valid, analyses]
    simp only [bind, Except.bind, Run.afterAnalysis, FirstExplainable.iff_find.mp first]
    rfl
  obtain ⟨script', parsed', -, -, consistent⟩ := run_outcome_consistent returned
  cases parsed.symm.trans parsed'
  exact ⟨run, returned, (consistent.accepted valid).2, rfl, consistent.completes.mpr ⟨rfl, rfl⟩⟩

end SqlAdvisor
