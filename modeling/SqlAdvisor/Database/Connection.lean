import SqlAdvisor.Database.Dialect
import SqlAdvisor.Explain.Plan
import SqlAdvisor.Log

/-! # Asking a database for an EXPLAIN

A server is what it answers: it may fail when connected to or when asked, and otherwise returns a result.
An EXPLAIN opens a connection, asks once, and closes the connection again, whatever came of the question.
-/

namespace SqlAdvisor

/-- How to reach a database. The vendor decides which server software is expected there. -/
structure DatabaseConfig where
  host : Datum
  port : Datum
  dbname : Datum
  user : Datum
  password : Datum
  vendor : Datum := .text "postgres"

/-- The dialect that the database speaks: that of its vendor, whatever the letter case. -/
def DatabaseConfig.dialect (config : DatabaseConfig) : Except Fault Dialect :=
  match config.vendor with
  | .text vendor =>
    match Dialect.ofVendor? (Text.lower vendor) with
    | some dialect => .ok dialect
    | none => .error .missingKey
  | _ => .error .lacksMember

/-- What is done with a database driver. -/
inductive DatabaseCall where
  | connect (driver : String) (arguments : List (String × Datum))
  | execute (sql : String)
  | close

/-- The step at which a server fails. -/
inductive FailureStage where
  | connecting
  | executing
  deriving DecidableEq

/-- The result of a question: the names of its columns, and its rows. -/
structure ResultSet where
  columns : List String := []
  rows : List (List Datum) := []

/-- A server by its answers. -/
structure Server where
  /-- The step that fails, with what the driver's error holds. -/
  failure : Option (FailureStage × List Datum) := none
  result : ResultSet := {}

namespace ExplainFailure

/-- A driver's error as text: its only content, or all of them as a tuple. -/
def errorText : List Datum → String
  | [] => ""
  | [only] => only.display
  | contents => "(" ++ ", ".intercalate (contents.map Datum.quoted) ++ ")"

/-- Whether a message tells of a column or variable that the server does not know. -/
def tellsUnresolved (message : String) : Bool :=
  let lowered := Text.lower message
  Text.contains lowered "unknown column" || Text.contains lowered "unknown variable" ||
    Text.contains lowered "column" && Text.contains lowered "does not exist"

/-- The failure that a driver's error stands for. -/
def ofDriverError (contents : List Datum) : ExplainFailure :=
  let message := Text.strip (errorText contents)
  ⟨if tellsUnresolved message then .unresolvedVariable else .other, message⟩

end ExplainFailure

namespace DatabaseConfig

/-- The call that connects to the database. The two drivers name the database differently. -/
def connectCall (config : DatabaseConfig) (dialect : Dialect) : DatabaseCall :=
  let nameOf := if dialect = .mysql then "database" else "dbname"
  .connect (if dialect = .mysql then "pymysql" else "psycopg2")
    [("host", config.host), ("port", config.port), (nameOf, config.dbname), ("user", config.user),
     ("password", config.password)]

/-- The SQL text that asks to explain a statement. -/
def explainSql (dialect : Dialect) (query : String) : String :=
  (if dialect = .mysql then "EXPLAIN " else "EXPLAIN (FORMAT JSON) ") ++ query

end DatabaseConfig

namespace ResultSet

/-- The rows of a tabular EXPLAIN, where null cells are empty. -/
def tabularRows (result : ResultSet) : List ExplainRow :=
  result.rows.map fun cells =>
    .ofCells ((result.columns.zip cells).map fun (column, cell) =>
      (column, match cell with | .null => .text "" | other => other))

/-- The document in the first cell. -/
def document (result : ResultSet) : Except Fault Datum :=
  match result.rows with
  | (first :: _) :: _ => .ok first
  | _ => .error .outOfRange

/-- The rows of an EXPLAIN in the given dialect: its table, or those of its plan document. -/
def explainRows (result : ResultSet) (dialect : Dialect) : Except Fault (List ExplainRow) := do
  if dialect = .mysql then return result.tabularRows
  else Plan.rows (← result.document)

end ResultSet

/-- What came of asking for an EXPLAIN. -/
structure Explained where
  calls : List DatabaseCall
  log : List LogRecord := []
  outcome : Except Fault (List ExplainRow)

namespace Explained

/-- An EXPLAIN that the driver refused after some calls. -/
def failed (calls : List DatabaseCall) (contents : List Datum) : Explained where
  calls := calls
  log := [⟨.debug, .database, "EXPLAIN failed: " ++ ExplainFailure.errorText contents⟩]
  outcome := .error (.explainFailed (.ofDriverError contents))

end Explained

def runExplain (config : DatabaseConfig) (server : Server) (query : String) : Explained :=
  match config.dialect with
  | .error fault => { calls := [], outcome := .error fault }
  | .ok dialect =>
    let connect := config.connectCall dialect
    let execute := DatabaseCall.execute (DatabaseConfig.explainSql dialect query)
    match server.failure with
    | some (.connecting, contents) => .failed [connect] contents
    | some (.executing, contents) => .failed [connect, execute, .close] contents
    | none =>
      { calls := [connect, execute, .close]
        outcome := server.result.explainRows dialect }

end SqlAdvisor
