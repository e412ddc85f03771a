import SqlAdvisor.Proofs.Analysis.Totality
import SqlAdvisor.Run

/-! # From a script to its EXPLAIN

A run over a valid script is the analysis of the script and then, with a database at hand, the question about the
first statement that can be explained. The calls that a run makes are those of the question, if it is reached.
-/

namespace SqlAdvisor

/-- The statement is the first that a database can explain. -/
def FirstExplainable (statements : List Statement) (target : Statement) : Prop :=
  ∃ before after, statements = before ++ target :: after ∧ target.isExplainable = true ∧
    ∀ earlier ∈ before, earlier.isExplainable = false

theorem FirstExplainable.iff_find {statements : List Statement} {target : Statement} :
    FirstExplainable statements target ↔ Statement.firstExplainable? statements = some target := by
  rw [Statement.firstExplainable?, List.find?_eq_some_iff_append, FirstExplainable]
  constructor
  · rintro ⟨before, after, eq, explainable, none⟩
    exact ⟨explainable, before, after, eq, by simpa using none⟩
  · rintro ⟨explainable, before, after, eq, none⟩
    exact ⟨before, after, eq, explainable, by simpa using none⟩

theorem FirstExplainable.mem {statements : List Statement} {target : Statement}
    (first : FirstExplainable statements target) : target ∈ statements := by
  obtain ⟨before, after, rfl, -⟩ := first
  simp

theorem filteredQuery_isExplained : ∃ script target,
    Script.ofOutcome (.trees [some filteredQuery]) = .ok script ∧ script.isValid = true ∧
      FirstExplainable script.statements target ∧ ∀ statement ∈ script.statements, statement.IsRegular := by
  obtain ⟨statement, read, regular, explainable⟩ := filteredQuery_isRegular
  have parsed : Script.ofOutcome (.trees [some filteredQuery]) = .ok { statements := [statement] } := by
    simp [Script.ofOutcome, read, bind, Except.bind, pure, Except.pure]
  have first : FirstExplainable [statement] statement := ⟨[], [], rfl, explainable, by simp⟩
  exact ⟨_, statement, parsed, rfl, first, by simpa using regular⟩

namespace Run

variable {outcome : ParseOutcome} {script : Script} {access? : Option DatabaseAccess} {thresholds : Thresholds}

/-- What happens in a run before a database comes in. -/
def opening (analysed : Logged Analysis) : List Event :=
  [.progress "Parsing SQL script...", .progress "Performing structural analysis..."] ++
    analysed.log.map .record

theorem ofOutcome_valid (parsed : Script.ofOutcome outcome = .ok script) (valid : script.isValid = true) :
    ofOutcome outcome access? thresholds =
      Analysis.ofScript script >>= fun analysed =>
        (afterAnalysis analysed.value script.statements access? thresholds).map fun rest =>
          { report := rest.report, events := opening analysed ++ rest.events } := by
  have noError : script.errorText? = none := if_pos valid
  rw [ofOutcome, parsed, Analysis.ofScript, noError]
  simp only [bind, Except.bind, noError]
  cases Analysis.ofStatements script.statements with
  | error fault => rfl
  | ok analysed =>
      dsimp only
      cases afterAnalysis analysed.value script.statements access? thresholds <;> rfl

/-- A run with a database asks about the first statement that can be explained. -/
theorem ofOutcome_explains {access : DatabaseAccess} {target : Statement}
    (parsed : Script.ofOutcome outcome = .ok script) (valid : script.isValid = true)
    (first : FirstExplainable script.statements target) :
    ofOutcome outcome (some access) thresholds =
      Analysis.ofScript script >>= fun analysed =>
        (explain analysed.value target access thresholds).map fun rest =>
          { report := rest.report, events := opening analysed ++ rest.events } := by
  rw [ofOutcome_valid parsed valid]
  simp only [afterAnalysis, FirstExplainable.iff_find.mp first]

/-! ## The answer of the database -/

section Answer

variable {analysis : Analysis} {target : Statement} {access : DatabaseAccess}

/-- What happens in a run while the database is asked. -/
def asking (target : Statement) (access : DatabaseAccess) : List Event :=
  let explained := runExplain access.config access.server target.sql
  [.progress "Connecting to database...", .progress "Executing EXPLAIN command..."] ++
    explained.calls.map .call ++ explained.log.map .record

theorem explain_refused {failure : ExplainFailure}
    (refused : (runExplain access.config access.server target.sql).outcome = .error (.explainFailed failure)) :
    explain analysis target access thresholds = .ok {
      report := { analysis := analysis, explainSql := some target.sql, explainError := some failure }
      events := asking target access ++ [.record ⟨.error, .pipeline, failure.remediation⟩] } := by
  rw [explain]
  simp only [refused]
  rfl

theorem explain_failed {fault : Fault} (other : ∀ failure, fault ≠ .explainFailed failure)
    (failed : (runExplain access.config access.server target.sql).outcome = .error fault) :
    explain analysis target access thresholds = .error fault := by
  rw [explain]
  simp only [failed]
  cases fault with
  | explainFailed failure => exact absurd rfl (other failure)
  | _ => rfl

theorem explain_answered {rows : List ExplainRow} {elapsed : Int}
    (answered : (runExplain access.config access.server target.sql).outcome = .ok rows)
    (timed : access.clock.elapsedMs? = some elapsed) :
    explain analysis target access thresholds = do
      let aliases ← explainAliases target
      let correlated ← Correlation.ofRows rows aliases analysis.usages thresholds
      return {
        report := {
          analysis := analysis
          explainSql := some target.sql
          explainRows := rows
          correlation := some correlated.value
          explainDurationMs := some elapsed }
        events := asking target access ++ correlated.log.map .record ++ [.progress "Analysis complete."] } := by
  rw [explain]
  -- The measured time stays a name, so that nothing unfolds its bound of 2 ^ 1024 ticks.
  generalize access.clock.elapsedMs? = measured at timed ⊢
  subst timed
  simp only [answered]
  rfl

theorem explain_untimed {rows : List ExplainRow}
    (answered : (runExplain access.config access.server target.sql).outcome = .ok rows)
    (untimed : access.clock.elapsedMs? = none) : explain analysis target access thresholds = .error .notFinite := by
  rw [explain]
  generalize access.clock.elapsedMs? = measured at untimed ⊢
  subst untimed
  simp only [answered]
  rfl

/-- A question that returns was refused by the database, or answered in a time that can be told. -/
theorem explain_cases {run : Run} (returned : explain analysis target access thresholds = .ok run) :
    (∃ failure, run = {
      report := { analysis := analysis, explainSql := some target.sql, explainError := some failure }
      events := asking target access ++ [.record ⟨.error, .pipeline, failure.remediation⟩] }) ∨
    ∃ rows elapsed aliases correlated, explainAliases target = .ok aliases ∧
      Correlation.ofRows rows aliases analysis.usages thresholds = .ok correlated ∧
      run = {
        report := {
          analysis := analysis
          explainSql := some target.sql
          explainRows := rows
          correlation := some correlated.value
          explainDurationMs := some elapsed }
        events := asking target access ++ correlated.log.map .record ++ [.progress "Analysis complete."] } := by
  cases outcome : (runExplain access.config access.server target.sql).outcome with
  | error fault =>
      by_cases refused : ∃ failure, fault = .explainFailed failure
      · obtain ⟨failure, rfl⟩ := refused
        rw [explain_refused outcome] at returned
        exact .inl ⟨failure, (Except.ok.inj returned).symm⟩
      · rw [explain_failed (fun failure eq => refused ⟨failure, eq⟩) outcome] at returned
        cases returned
  | ok rows =>
      cases measured : access.clock.elapsedMs? with
      | none =>
          rw [explain_untimed outcome measured] at returned
          cases returned
      | some elapsed =>
          rw [explain_answered outcome measured] at returned
          obtain ⟨aliases, finds, returned⟩ := Except.bind_eq_ok.mp returned
          obtain ⟨correlated, correlates, returned⟩ := Except.bind_eq_ok.mp returned
          exact .inr ⟨rows, elapsed, aliases, correlated, finds, correlates, (Except.ok.inj returned).symm⟩

end Answer

/-! ## Database calls -/

/-- The database calls of a run over a script, which are made whether or not the run returns. -/
def scriptCalls (script : Script) (access : DatabaseAccess) : List DatabaseCall :=
  match Analysis.ofStatements script.statements, Statement.firstExplainable? script.statements with
  | .ok _, some target => (runExplain access.config access.server target.sql).calls
  | _, _ => []

/-- The database calls of a run from the parser's answer. -/
def databaseCalls (outcome : ParseOutcome) (access : DatabaseAccess) : List DatabaseCall :=
  match Script.ofOutcome outcome with
  | .error _ => []
  | .ok script => if script.isValid then scriptCalls script access else []

@[simp] theorem calls_append (first second : List Event) :
    Event.calls (first ++ second) = Event.calls first ++ Event.calls second :=
  List.filterMap_append

@[simp] theorem calls_nil : Event.calls [] = [] := rfl

@[simp] theorem calls_progress (message : String) (rest : List Event) :
    Event.calls (.progress message :: rest) = Event.calls rest := rfl

@[simp] theorem calls_record (entry : LogRecord) (rest : List Event) :
    Event.calls (.record entry :: rest) = Event.calls rest := rfl

@[simp] theorem calls_records (log : List LogRecord) : Event.calls (log.map .record) = [] := by
  rw [Event.calls, List.filterMap_map]
  exact List.filterMap_eq_nil_iff.mpr fun _ _ => rfl

@[simp] theorem calls_calls (made : List DatabaseCall) : Event.calls (made.map .call) = made := by
  rw [Event.calls, List.filterMap_map]
  exact List.filterMap_some

theorem explain_calls {analysis : Analysis} {target : Statement} {access : DatabaseAccess} {run : Run}
    (returned : explain analysis target access thresholds = .ok run) :
    Event.calls run.events = (runExplain access.config access.server target.sql).calls := by
  have asked : Event.calls (asking target access) =
      (runExplain access.config access.server target.sql).calls := by simp [asking]
  rcases explain_cases returned with ⟨failure, rfl⟩ | ⟨rows, elapsed, aliases, correlated, -, -, rfl⟩
  · simp [asked]
  · simp [asked]

theorem calls_events {access : DatabaseAccess} {run : Run}
    (returned : ofOutcome outcome (some access) thresholds = .ok run) :
    Event.calls run.events = databaseCalls outcome access := by
  rw [databaseCalls]
  cases parsed : Script.ofOutcome outcome with
  | error fault => simp [ofOutcome, parsed, bind, Except.bind] at returned
  | ok script =>
      dsimp only
      by_cases valid : script.isValid = true
      · have noError : script.errorText? = none := if_pos valid
        rw [ofOutcome_valid parsed valid, Analysis.ofScript, noError] at returned
        obtain ⟨analysed, analyses, returned⟩ := Except.bind_eq_ok.mp returned
        obtain ⟨rest, after, rfl⟩ := Except.map_eq_ok.mp returned
        rw [if_pos valid, scriptCalls, show Analysis.ofStatements script.statements = .ok analysed from analyses]
        rw [calls_append, opening, calls_append, calls_records]
        simp only [calls_progress, calls_nil, List.nil_append]
        cases first : Statement.firstExplainable? script.statements with
        | none =>
            simp only [afterAnalysis, first] at after
            obtain rfl := Except.ok.inj after
            simp
        | some target =>
            simp only [afterAnalysis, first] at after
            exact explain_calls after
      · have error : ∃ text, script.errorText? = some text := ⟨_, if_neg valid⟩
        obtain ⟨text, hasError⟩ := error
        rw [if_neg valid]
        simp only [ofOutcome, parsed, bind, Except.bind, hasError] at returned
        obtain rfl := Except.ok.inj returned
        simp

end Run

end SqlAdvisor
