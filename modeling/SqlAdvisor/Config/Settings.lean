import SqlAdvisor.Config.FileTree
import SqlAdvisor.Database.Connection
import SqlAdvisor.Datum.Checked

/-! # Settings

The settings of a run are read from a configuration: data of any shape, of which every part is checked in a
fixed order. What is wrong with a value that a user may well write is told in a message.
-/

namespace SqlAdvisor

/-- The settings of a run. -/
structure Settings where
  /-- The file with the script. -/
  query : FilePath
  database : Option DatabaseConfig
  /-- The dialect that the parser is told. -/
  dialect : Datum
  /-- The number of rows above which an estimate is high. -/
  rowThreshold : Int
  /-- The directory for the reports and the log. -/
  outputDir : FilePath

namespace Datum

def toPath : Datum → Except Fault FilePath
  | .text value => .ok (.ofText value)
  | _ => .error .wrongType

end Datum

namespace Settings

/-- The number of rows above which an estimate is high, where the configuration gives none. -/
def defaultRowThreshold : Int := 10000

/-- The directory for the reports, where the configuration names none. -/
def defaultOutputDir : String := "reports"

/-- The vendor of a database whose settings name none: that of its connection URL. -/
def vendorOfUrl : Datum → Except Fault String
  | .text url =>
    match Dialect.ofUrl? url with
    | some dialect => .ok dialect.name
    | none => .error (.invalid (Dialect.unknownUrl url))
  | _ => .error .lacksMember

/-- The vendor of a database, in lower case: as named, or as its URL tells, or else the default. -/
def vendorOf (database : Datum) : Except Fault String := do
  if ← database.hasMember "vendor" then
    match database with
    | .table entries => return Text.lower ((entries.lookup "vendor").getD .null).display
    | _ => throw .wrongType
  else
    match database with
    | .table entries =>
      let url := (entries.lookup "url").getD .null
      if url.truthy then vendorOfUrl url else return "postgres"
    | _ => throw .lacksMember

def entry (entries : List (String × Datum)) (name : String) (default : Datum) : Datum :=
  (entries.lookup name).getD default

def databaseOf (database : Datum) : Except Fault DatabaseConfig := do
  for field in ["dbname", "user"] do
    if !(← database.hasMember field) then
      throw (.invalid ("Missing required field in database config: " ++ field))
  let vendor ← vendorOf database
  match Dialect.ofVendor? vendor, database with
  | none, _ => throw (.invalid ("Unsupported database vendor: " ++ vendor))
  | some dialect, .table entries =>
    return {
      host := entry entries "host" (.text "localhost")
      port := entry entries "port" ((dialect.defaultPort?.map Datum.int).getD .null)
      dbname := entry entries "dbname" .null
      user := entry entries "user" .null
      password := entry entries "password" (.text "")
      vendor := .text vendor }
  | some _, _ => throw .lacksMember

def thresholdOf (value : Datum) : Except Fault Int :=
  let refused := Fault.invalid ("row_threshold must be a non-negative integer, got: " ++ value.quoted)
  match value with
  | .int n => if 0 ≤ n then .ok n else .error refused
  | _ => .error refused

/-- The dialect that a configuration tells, or else that of its database. -/
def dialectOf (given : Datum) (database : Option DatabaseConfig) : Datum :=
  if given.truthy then given
  else match database.map DatabaseConfig.dialect with
    | some (.ok dialect) => .text dialect.name
    | _ => .null

def ofEntries (files : FileTree) (entries : List (String × Datum)) : Except Fault Settings := do
  let query ←
    match entries.lookup "query" with
    | some written => written.toPath
    | none => throw (.invalid "Missing required field in config: query")
  if !(← files.holds query) then
    throw (.fileNotFound ("Query file not found: " ++ query.display))
  let described := entry entries "database" .null
  let database ← if described.truthy then pure (some (← databaseOf described)) else pure none
  let rowThreshold ← thresholdOf (entry entries "row_threshold" (.int defaultRowThreshold))
  let outputDir ← (entry entries "output_dir" (.text defaultOutputDir)).toPath
  return {
    query := query
    database := database
    dialect := dialectOf (entry entries "dialect" .null) database
    rowThreshold := rowThreshold
    outputDir := outputDir }

/-- The settings in a configuration that was read from a path. An empty configuration has no entries. -/
def ofConfiguration (files : FileTree) (path : FilePath) (configuration : Datum) :
    Except Fault Settings :=
  if !configuration.truthy then ofEntries files []
  else match configuration with
    | .table entries => ofEntries files entries
    | _ => .error (.invalid ("Config file must contain a mapping: " ++ path.display))

/-- The settings in the configuration file at a path. A text that is no document counts as one text. -/
def load (files : FileTree) (path : FilePath) : Except Fault Settings := do
  if !(← files.holds path) then
    throw (.fileNotFound ("Config file not found: " ++ path.display))
  match ← files.read path with
  | .directory => throw .isDirectory
  | .text content => ofConfiguration files path (.text content)
  | .document configuration => ofConfiguration files path configuration

end Settings

end SqlAdvisor
