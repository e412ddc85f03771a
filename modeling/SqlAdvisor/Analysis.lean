import SqlAdvisor.Hint.Rules
import SqlAdvisor.Script
import SqlAdvisor.Usage.Extraction

/-! # Structural analysis

The analysis of a script is that of its first statement: its column usage, statistics and hints.
-/

namespace SqlAdvisor

/-- What is known of a script without asking a database. -/
structure Analysis where
  /-- The syntax errors of a script that is not valid. -/
  error : Option String := none
  statementType : Option String := none
  usages : TableUsages := ∅
  statistics : Statistics := ∅
  hints : List Hint := []
  aliases : AliasMap := ∅
  statement : Option Statement := none

namespace Analysis

/-- Whether the parser accepted the script. -/
def isValid (analysis : Analysis) : Bool := analysis.error.isNone

def ofStatement (statement : Statement) : Except Fault (Logged Analysis) := do
  let aliases ← statement.aliasMap
  let extracted ← statement.extractUsages aliases
  let statistics := statement.statistics (some extracted.value)
  let hints ← Hint.ofStatement statement extracted.value statistics
  return {
    value := {
      statementType := some statement.typeName
      usages := extracted.value
      statistics := statistics
      hints := hints.value
      aliases := aliases
      statement := some statement }
    log := extracted.log ++ hints.log }

/-- The analysis of a script's statements: of the first one, if there is any. -/
def ofStatements : List Statement → Except Fault (Logged Analysis)
  | [] => .ok { value := { statementType := some "EMPTY", hints := [Hint.emptyQuery] } }
  | first :: _ => ofStatement first

def ofScript (script : Script) : Except Fault (Logged Analysis) :=
  match script.errorText? with
  | some error => .ok { value := { error := some error } }
  | none => ofStatements script.statements

end Analysis

end SqlAdvisor
