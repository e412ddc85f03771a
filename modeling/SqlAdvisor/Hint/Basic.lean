/-! # Performance hints -/

namespace SqlAdvisor

/-- How much a hint matters. -/
inductive Severity where
  | info
  | warn
  | severe
  deriving DecidableEq

def Severity.name : Severity → String
  | info => "INFO"
  | warn => "WARN"
  | severe => "SEVERE"

/-- A structural problem found in a statement: what it is, why it matters, and what to do. -/
structure Hint where
  severity : Severity
  title : String
  explanation : String
  suggestion : String
  deriving DecidableEq

def Hint.display (hint : Hint) : String :=
  "[" ++ hint.severity.name ++ "] " ++ hint.title ++ "\n  Why: " ++ hint.explanation ++
    "\n  Suggestion: " ++ hint.suggestion

end SqlAdvisor
