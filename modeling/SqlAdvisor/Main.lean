import SqlAdvisor.Answers
import SqlAdvisor.Session
import Std.Time.Format

/-! # The command line tool

The tool takes the path of a configuration. It looks at the files that the configuration names, starts a
session with what it found, and carries out what the session says.
-/

namespace SqlAdvisor

/-- What stands at a path, if anything does. -/
def contentAt? (path : FilePath) : IO (Option FileContent) := do
  try
    let place ← IO.FS.realPath path.display
    if ← place.isDir then return some .directory
    else return some (.text (← IO.FS.readFile place))
  catch _ => return none

/-- What stands at some paths and on the way to them. -/
def filesAt (paths : List FilePath) : IO FileTree := do
  let entries ← (paths.flatMap FilePath.stages).filterMapM fun stage => do
    let content? ← contentAt? stage
    return content?.map (stage.direct, ·)
  return ⟨entries⟩

def worldAround (configuration : FilePath) : IO World := do
  let found := (← filesAt [configuration]).withDocument configuration
  let settings := (found.documentAt? configuration).getD .null
  let script := (Settings.scriptPath? settings).getD (.ofText "")
  let answersPath := Answers.pathFor script
  let log := Session.logPath (Settings.outputPath settings)
  let files : FileTree := ⟨found.entries ++ (← filesAt [script, answersPath, log]).entries⟩
  let answers := Answers.ofFile files answersPath
  let now ← Std.Time.PlainDateTime.now
  let shownTime := now.format "uuuu-MM-dd HH:mm:ss"
  return {
    files := files
    directory := .ofText (← IO.currentDir).toString
    parse := fun _ _ => answers.outcome
    server := answers.server
    clock := answers.clock
    shownTime := shownTime
    fileTime := now.format "uuuuMMdd_HHmmss"
    logStamp := shownTime ++ " - " }

/-- Carries out what a session says, and returns its exit code. -/
def Session.carryOut (session : Session) : IO UInt32 := do
  for (path, content) in session.written do
    IO.FS.createDirAll path.parent.display
    IO.FS.writeFile path.display content
  IO.eprint session.console
  IO.print session.output
  return session.exitCode.toUInt32

end SqlAdvisor

/-- Runs a session with the given arguments. -/
def main (arguments : List String) : IO UInt32 := do
  let world ← SqlAdvisor.worldAround (.ofText (arguments.headD ""))
  match SqlAdvisor.Session.start arguments world with
  | .ok session => session.carryOut
  | .error fault =>
    IO.eprintln fault.display
    return 1
