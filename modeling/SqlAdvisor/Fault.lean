/-! # Faults

What can go wrong with input of the wrong shape, or with the world outside. A fault names its cause; the
few that a user is told about carry their message.
-/

namespace SqlAdvisor

/-- Why the database refused an EXPLAIN. -/
inductive ExplainFailureKind where
  /-- The server does not know a column or variable of the statement. -/
  | unresolvedVariable
  /-- Any other refusal. -/
  | other
  deriving DecidableEq

namespace ExplainFailureKind

def name : ExplainFailureKind → String
  | unresolvedVariable => "unresolved_variable"
  | other => "other"

end ExplainFailureKind

/-- An EXPLAIN that failed at the database. -/
structure ExplainFailure where
  kind : ExplainFailureKind
  message : String
  deriving DecidableEq

/-- What the user is told about the failure. -/
def ExplainFailure.remediation (failure : ExplainFailure) : String :=
  match failure.kind with
  | .unresolvedVariable =>
    "Error executing EXPLAIN: Database doesn't recognize variables like '@workspace_id'. " ++
    "Remove SET commands and replace variables with literal values in your query before analyzing."
  | .other => "Error executing EXPLAIN: " ++ failure.message

/-- The cause of a failed operation. -/
inductive Fault where
  /-- The value has no such property or operation. -/
  | lacksMember
  /-- The value is of a type that the operation refuses. -/
  | wrongType
  /-- No entry has the key. -/
  | missingKey
  /-- No item stands at the position. -/
  | outOfRange
  /-- A number without a finite value was to become an integer. -/
  | notFinite
  /-- A directory stands where a file was to be read. -/
  | isDirectory
  /-- A file stands where a directory was to be made. -/
  | fileExists
  /-- A file stands where a path needs a directory. -/
  | notDirectory
  /-- The name of a file, or a path, is too long. -/
  | nameTooLong
  /-- A value is not acceptable, for the reason given. -/
  | invalid (message : String)
  /-- A file does not exist. -/
  | fileNotFound (message : String)
  /-- No dialect belongs to a connection URL. -/
  | unsupportedVendor (message : String)
  /-- A statement is of none of the known kinds. -/
  | unsupportedStatement (kind : String)
  /-- The database refused an EXPLAIN. -/
  | explainFailed (failure : ExplainFailure)
  deriving DecidableEq

def Fault.message? : Fault → Option String
  | invalid message | fileNotFound message | unsupportedVendor message => some message
  | unsupportedStatement kind => some ("Unsupported statement kind: " ++ kind)
  | explainFailed failure => some failure.message
  | _ => none

def Fault.display (fault : Fault) : String :=
  match fault with
  | .lacksMember => "A value lacks what is asked of it."
  | .wrongType => "A value is of the wrong type."
  | .missingKey => "A key has no entry."
  | .outOfRange => "A position has no item."
  | .notFinite => "A number is too great."
  | .isDirectory => "A directory stands where a file is read."
  | .fileExists => "A file stands where a directory is made."
  | .notDirectory => "A file stands on the way to a directory."
  | .nameTooLong => "A path is too long."
  | other => other.message?.getD ""

end SqlAdvisor
