import SqlAdvisor.Dictionary
import SqlAdvisor.Explain.Warning
import SqlAdvisor.Log
import SqlAdvisor.NameSet

/-! # The ledger of warnings

A ledger keeps the first warning of every table and type, in the order in which they came. A later one of
the same table and type is told in the log and dropped.
-/

namespace SqlAdvisor

/-- The warnings kept so far, each under its key. -/
structure Ledger where
  kept : Dictionary (String × WarningType) TableWarning := ∅

namespace Ledger

def warnings (ledger : Ledger) : List TableWarning := ledger.kept.values

def size (ledger : Ledger) : Nat := ledger.kept.size

def tables (ledger : Ledger) : NameSet := .ofList (ledger.warnings.map (·.table))

/-- The warnings of a table, whatever the letter case of its name. -/
def warningsFor (ledger : Ledger) (table : String) : List TableWarning :=
  let lowered := Text.lower table
  ledger.kept.entries.filterMap fun (key, warning) => if key.1 = lowered then some warning else none

/-- What the log tells about a warning that is not the first of its key. -/
def duplicate (warning : TableWarning) : LogRecord :=
  ⟨.debug, .correlation, "Warning type '" ++ warning.type.label ++ "' already present for table '" ++
    warning.table ++ "'. Skipping duplicate."⟩

/-- What recording some warnings does: the ledger then, and the warnings that are new to it. -/
structure Recorded where
  ledger : Ledger
  added : List TableWarning := []
  log : List LogRecord := []

def Recorded.add (state : Recorded) (warning : TableWarning) : Recorded :=
  if state.ledger.kept.contains warning.key then
    { state with log := state.log ++ [duplicate warning] }
  else
    { state with
      ledger := ⟨state.ledger.kept.insert warning.key warning⟩
      added := state.added ++ [warning] }

def record (ledger : Ledger) (warnings : List TableWarning) : Recorded :=
  warnings.foldl Recorded.add { ledger := ledger }

end Ledger

end SqlAdvisor
