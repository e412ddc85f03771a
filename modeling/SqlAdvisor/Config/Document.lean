import SqlAdvisor.Config.Settings
import SqlAdvisor.Datum.Json

/-! # Configuration documents

A configuration file is a JSON document, and names the files that a session reads and the directory that it
writes to.
-/

namespace SqlAdvisor

namespace FileTree

def documentAt? (files : FileTree) (path : FilePath) : Option Datum :=
  match files.read path with
  | .ok (.document value) => some value
  | .ok (.text content) => Datum.ofJson? content
  | _ => none

/-- The files, with a document known by what it holds. -/
def withDocument (files : FileTree) (path : FilePath) : FileTree :=
  match files.documentAt? path with
  | some value => ⟨(path.direct, .document value) :: files.entries⟩
  | none => files

end FileTree

namespace Settings

def scriptPath? (configuration : Datum) : Option FilePath :=
  (configuration.textAt? "query").map .ofText

/-- The directory that a session with the configuration writes to. -/
def outputPath (configuration : Datum) : FilePath :=
  .ofText ((configuration.textAt? "output_dir").getD defaultOutputDir)

end Settings

end SqlAdvisor
