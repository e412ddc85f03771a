import SqlAdvisor.Datum
import SqlAdvisor.Statement.OfNode
import SqlAdvisor.Text.Blank

/-! # Scripts

An SQL parser turns a script into syntax trees or refuses it. `Script.ofOutcome` reads its answer as
statements or as syntax errors, never both.
-/

namespace SqlAdvisor

/-- What a parser tells about one syntax error; null stands for what it does not tell. -/
structure SyntaxDetail where
  line : Datum := .null
  column : Datum := .null
  highlight : Datum := .null
  description : Datum := .null

/-- The answer of a parser to a script. -/
inductive ParseOutcome where
  /-- The trees of the statements; an empty statement has none. -/
  | trees (trees : List (Option Node))
  /-- The script breaks the grammar. -/
  | rejected (message : String) (details : List SyntaxDetail)
  /-- The script cannot be cut into tokens. -/
  | untokenizable (message : String)

structure SyntaxError where
  line : Datum := .int 0
  column : Datum := .int 0
  nearText : String := ""
  description : Datum := .text ""

namespace SyntaxError

def display (error : SyntaxError) : String :=
  "Line: " ++ error.line.display ++ ", Col: " ++ error.column.display ++
    " (Near '" ++ error.nearText ++ "')"

/-- The error that a detail tells of; what is missing is zero or empty. Only a text can be shown as the place
    of the error. -/
def ofDetail (detail : SyntaxDetail) : Except Fault SyntaxError := do
  let nearText ←
    match detail.highlight.orElse (.text "") with
    | .text highlight => pure (Text.strip highlight)
    | _ => throw .lacksMember
  return {
    line := detail.line.orElse (.int 0)
    column := detail.column.orElse (.int 0)
    nearText := nearText
    description := detail.description.orElse (.text "") }

/-- The error of a script that is refused as a whole. -/
def ofMessage (message : String) : SyntaxError where
  description := .text message

/-- The errors of a rejected script: one for every detail, or one for the whole. -/
def ofRejection (message : String) (details : List SyntaxDetail) : Except Fault (List SyntaxError) :=
  if details.isEmpty then .ok [ofMessage message] else details.mapM ofDetail

end SyntaxError

/-- A script as the parser understood it. -/
structure Script where
  statements : List Statement := []
  errors : List SyntaxError := []

namespace Script

def isValid (script : Script) : Bool := script.errors.isEmpty

/-- The errors, one to a line. -/
def errorText? (script : Script) : Option String :=
  if script.errors.isEmpty then none
  else some (String.join (script.errors.map fun error => error.display ++ "\n"))

/-- The script that a parser's answer stands for. -/
def ofOutcome : ParseOutcome → Except Fault Script
  | .trees trees => do
    let statements ← (trees.filterMap id).mapM Statement.ofNode
    return { statements := statements }
  | .rejected message details => do
    let errors ← SyntaxError.ofRejection message details
    return { errors := errors }
  | .untokenizable message => .ok { errors := [.ofMessage message] }

end Script

end SqlAdvisor
