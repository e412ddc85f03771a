import SqlAdvisor.Analysis
import SqlAdvisor.Database.Connection
import SqlAdvisor.Explain.Correlation
import SqlAdvisor.Stopwatch

/-! # Running the whole analysis

A run analyses a script and, where a database is given, explains the first statement that can be explained
and correlates the result. A driver's error ends the run with the structural results in hand.
-/

namespace SqlAdvisor

/-- What happens during a run, in order. -/
inductive Event where
  | progress (message : String)
  | record (entry : LogRecord)
  | call (made : DatabaseCall)

namespace Event

def messages (events : List Event) : List String :=
  events.filterMap fun | .progress message => some message | _ => none

/-- The database calls among some events. -/
def calls (events : List Event) : List DatabaseCall :=
  events.filterMap fun | .call made => some made | _ => none

/-- The log of some events, to which progress messages belong at the given level and source. -/
def log (level : LogLevel) (source : LogSource) (events : List Event) : List LogRecord :=
  events.filterMap fun
    | .record entry => some entry
    | .progress message => some ⟨level, source, message⟩
    | .call _ => none

/-- The log of some events without the progress messages. -/
def records (events : List Event) : List LogRecord :=
  events.filterMap fun | .record entry => some entry | _ => none

end Event

/-- The results of a run. -/
structure RunReport where
  analysis : Analysis
  /-- The SQL text of the statement that was or would be explained. -/
  explainSql : Option String := none
  explainRows : List ExplainRow := []
  correlation : Option Correlation := none
  explainError : Option ExplainFailure := none
  explainDurationMs : Option Int := none

/-- A run: its results, and what happened. -/
structure Run where
  report : RunReport
  events : List Event

/-- A database to ask, and the clock that tells how long it takes. -/
structure DatabaseAccess where
  config : DatabaseConfig
  server : Server
  clock : Stopwatch := {}

namespace Run

/-- The alias map by which the rows of a statement's EXPLAIN find their tables: only those of a query name
    aliases. -/
def explainAliases (statement : Statement) : Except Fault AliasMap :=
  if statement.isSelect then statement.aliasMap else .ok ∅

/-- The part of a run that asks the database to explain a statement. -/
def explain (analysis : Analysis) (target : Statement) (access : DatabaseAccess)
    (thresholds : Thresholds) : Except Fault Run := do
  let report : RunReport := { analysis := analysis, explainSql := some target.sql }
  let explained := runExplain access.config access.server target.sql
  let asked : List Event :=
    [.progress "Connecting to database...", .progress "Executing EXPLAIN command..."] ++
    explained.calls.map .call ++ explained.log.map .record
  match explained.outcome with
  | .error (.explainFailed failure) =>
    return {
      report := { report with explainError := some failure }
      events := asked ++ [.record ⟨.error, .pipeline, failure.remediation⟩] }
  | .error fault => throw fault
  | .ok rows =>
    let some elapsed := access.clock.elapsedMs? | throw .notFinite
    let aliases ← explainAliases target
    let correlated ← Correlation.ofRows rows aliases analysis.usages thresholds
    return {
      report := { report with
        explainRows := rows
        correlation := some correlated.value
        explainDurationMs := some elapsed }
      events := asked ++ correlated.log.map .record ++ [.progress "Analysis complete."] }

/-- The part of a run that follows the structural analysis. -/
def afterAnalysis (analysis : Analysis) (statements : List Statement)
    (access? : Option DatabaseAccess) (thresholds : Thresholds) : Except Fault Run :=
  match Statement.firstExplainable? statements, access? with
  | none, _ =>
    .ok {
      report := { analysis := analysis }
      events := [
        .progress "No explainable (SELECT/INSERT/UPDATE/DELETE) statement found in script."] }
  | some target, none =>
    .ok {
      report := { analysis := analysis, explainSql := some target.sql }
      events := [.progress "Analysis complete."] }
  | some target, some access => explain analysis target access thresholds

/-- Runs the analysis of a script from the parser's answer to it. -/
def ofOutcome (outcome : ParseOutcome) (access? : Option DatabaseAccess) (thresholds : Thresholds) :
    Except Fault Run := do
  let script ← Script.ofOutcome outcome
  let parsing := Event.progress "Parsing SQL script..."
  match script.errorText? with
  | some error => return { report := { analysis := { error := some error } }, events := [parsing] }
  | none =>
    let analysed ← Analysis.ofStatements script.statements
    let rest ← afterAnalysis analysed.value script.statements access? thresholds
    return {
      report := rest.report
      events := [parsing, .progress "Performing structural analysis..."] ++
        analysed.log.map .record ++ rest.events }

end Run

end SqlAdvisor
