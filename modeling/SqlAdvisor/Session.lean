import SqlAdvisor.Config.Settings
import SqlAdvisor.Report.Html
import SqlAdvisor.Report.Text

/-! # A session on the command line

A session loads the settings, runs the analysis of the script they name, and writes two reports and a log.
It is a function of the world it finds; the executable carries out what it says.
-/

namespace SqlAdvisor

/-- What a session finds. -/
structure World where
  files : FileTree
  /-- The working directory, from a root. -/
  directory : FilePath := { root := "/", parts := [] }
  /-- The SQL parser, which is told a script and a dialect. -/
  parse : String → Datum → ParseOutcome
  server : Server := {}
  clock : Stopwatch := {}
  /-- The time as the reports show it. -/
  shownTime : String
  /-- The time as the reports' names hold it. -/
  fileTime : String
  /-- What stands in front of every record in the log file: the time, or nothing. -/
  logStamp : String := ""

/-- What a session leaves behind. -/
structure Session where
  exitCode : Nat
  /-- What is printed. -/
  output : String
  /-- What the log shows on the console. -/
  console : String := ""
  /-- The files written, in the order of their names. -/
  written : List (FilePath × String) := []
  /-- The script and dialect that the parser was told. -/
  parsed : Option (String × Datum) := none
  calls : List DatabaseCall := []

namespace FileTree

def readText (files : FileTree) (path : FilePath) : Except Fault String := do
  match ← files.read path with
  | .text content => return Text.withLineFeeds content
  | .document _ => return ""
  | .directory => throw .isDirectory

/-- What a log file holds so far: nothing if it is missing. It is opened by its path from a root. -/
def logSoFar (files : FileTree) (path directory : FilePath) : Except Fault String :=
  if (path.absolute directory).isTooLong then .error .nameTooLong
  else match files.content path.direct with
  | .ok (.text content) => .ok content
  | .ok (.document _) | .error .missing => .ok ""
  | .ok .directory => .error .isDirectory
  | .error fault => .error (fault.toFault path)

end FileTree

namespace Session

def logPath (outputDir : FilePath) : FilePath := outputDir.child "analysis.log"

/-- What is printed when no configuration is named. -/
def usage : String := "Usage: python -m qanalyzer.cli <config_file>\n"

def consoleText (log : List LogRecord) : String :=
  String.join ((log.filter (·.level.onConsole)).map fun entry => entry.message ++ "\n")

/-- The lines that a log adds to the log file. -/
def logText (stamp : String) (log : List LogRecord) : String :=
  String.join (log.map fun entry => stamp ++ entry.line ++ "\n")

/-- The session after its settings are loaded. -/
def withSettings (settings : Settings) (world : World) : Except Fault Session := do
  let files ← world.files.makeDirectory settings.outputDir
  let earlier ← files.logSoFar (logPath settings.outputDir) world.directory
  let sql ← files.readText settings.query
  let access? := settings.database.map fun config =>
    { config, server := world.server, clock := world.clock : DatabaseAccess }
  let thresholds : Thresholds := { high := settings.rowThreshold }
  let run ← Run.ofOutcome (world.parse sql settings.dialect) access? thresholds
  let text ← run.report.text world.shownTime
  let html ← run.report.html world.shownTime
  let textPath := settings.outputDir.child ("report_" ++ world.fileTime ++ ".txt")
  let htmlPath := settings.outputDir.child ("report_" ++ world.fileTime ++ ".html")
  if textPath.isTooLong || htmlPath.isTooLong then throw .nameTooLong
  let ending : List LogRecord :=
    match run.report.analysis.error with
    | some error => [⟨.error, .tool, "SQL parse error:\n" ++ error⟩]
    | none => []
  let log := Event.log .info .tool run.events ++ text.log ++ html.log ++ ending
  return {
    exitCode := if run.report.analysis.isValid then 0 else 1
    output := "Reports generated: " ++ textPath.display ++ ", " ++ htmlPath.display ++ "\n"
    console := consoleText log
    written := [
      (logPath settings.outputDir, earlier ++ logText world.logStamp log),
      (htmlPath, html.value),
      (textPath, text.value)]
    parsed := some (sql, settings.dialect)
    calls := Event.calls run.events }

/-- The session that some arguments start, of which the first names the configuration. A configuration
    that is missing or not acceptable ends it with a message; any other fault is the session's own. -/
def start (arguments : List String) (world : World) : Except Fault Session :=
  match arguments with
  | [] => .ok { exitCode := 1, output := usage }
  | path :: _ =>
    match Settings.load world.files (.ofText path) with
    | .ok settings => withSettings settings world
    | .error (.invalid message) | .error (.fileNotFound message) =>
      .ok { exitCode := 1, output := "Error: " ++ message ++ "\n" }
    | .error fault => .error fault

end Session

end SqlAdvisor
