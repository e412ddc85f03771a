import SqlAdvisor.Report.Section

/-! # The HTML page of a report

A page is built from pieces of two kinds: markup of the page itself, and data of the report. Only
`Html.render` turns pieces into text, and it escapes all data, so no data can become markup.
-/

namespace SqlAdvisor

/-- A piece of a page. -/
inductive Html where
  | markup (s : String)
  | data (s : String)
  deriving DecidableEq

namespace Html

/-- A character as it stands for itself in a page. -/
def escapeChar : Char → List Char
  | '&' => "&amp;".toList
  | '<' => "&lt;".toList
  | '>' => "&gt;".toList
  | '"' => "&quot;".toList
  | '\'' => "&#x27;".toList
  | c => [c]

/-- A text as it stands for itself in a page, also inside an attribute. -/
def escape (s : String) : String := String.ofList (s.toList.flatMap escapeChar)

def render : Html → String
  | markup s => s
  | data s => escape s

def renderLine (line : List Html) : String := String.join (line.map render)

/-- A page as text, line by line. -/
def renderPage (lines : List (List Html)) : String := "\n".intercalate (lines.map renderLine)

/-- Lines of markup alone. -/
def fixed (lines : List String) : List (List Html) := lines.map fun line => [.markup line]

/-- Pieces between a start tag and an end tag. -/
def within (start : String) (content : List Html) (finish : String) : List Html :=
  [.markup start] ++ content ++ [.markup finish]

/-- A row of a table, with the given tag around every cell. -/
def tableRow (start finish : String) (cells : List String) : List Html :=
  within "<tr>" (cells.flatMap fun cell => within start [.data cell] finish) "</tr>"

end Html

namespace RunReport

open Html

def style : List String := [
  "body \x7b font-family: monospace; line-height: 1.4; margin: 20px; \x7d",
  "h1, h2, h3, h4 \x7b color: #333; margin: 1em 0 0.5em 0; \x7d",
  "h1 \x7b border-bottom: 2px solid #333; padding-bottom: 0.2em; \x7d",
  "h2 \x7b border-bottom: 1px solid #666; \x7d",
  "table \x7b border-collapse: collapse; width: 100%; margin: 1em 0; \x7d",
  "th, td \x7b text-align: left; padding: 0.3em 1em; font-family: monospace; \x7d",
  "th \x7b border-bottom: 1px solid #666; \x7d",
  ".severe \x7b color: #dc3545; \x7d",
  ".warning \x7b color: #fd7e14; \x7d",
  ".info \x7b color: #333; \x7d",
  "div.hint \x7b padding: 0.5em; margin: 0.5em 0; \x7d",
  "pre \x7b background-color: #f8f9fa; padding: 1em; border-radius: 4px; overflow-x: auto; \x7d"]

/-- The page's head and title, with the time at which it was written. -/
def headLines (time : String) : List (List Html) :=
  fixed (["<!DOCTYPE html>", "<html>", "<head>",
    "<title>SQL Statement Performance Analysis Report</title>", "<style>"] ++ style ++
    ["</style>", "</head>", "<body>", "<h1>SQL Statement Performance Analysis Report</h1>",
     "<p>Generated on: " ++ time ++ "</p>"])

def statisticsHtml (statistics : Statistics) : List (List Html) :=
  if statistics.isEmpty then fixed ["<p>" ++ noStatistics ++ "</p>"]
  else
    fixed ["<table class=\"metric-table\">"] ++
    (statistics.entries.map fun (name, value) => tableRow "<td>" "</td>" [name, value.display]) ++
    fixed ["</table>"]

def hintClass : Severity → String
  | .info => "info"
  | .warn => "warning"
  | .severe => "severe"

def hintHtml (hint : Hint) : List (List Html) := [
  [.markup ("<div class=\"hint " ++ hintClass hint.severity ++ "\">")],
  within ("<h3>[" ++ hint.severity.name ++ "] ") [.data hint.title] "</h3>",
  within "<p>Why: " [.data hint.explanation] "</p>",
  within "<p>Suggestion: " [.data hint.suggestion] "</p>",
  [.markup "</div>"]]

/-- The hints; where there is none, an empty line. -/
def hintsHtml (hints : List Hint) : List (List Html) :=
  if hints.isEmpty then [[]] else hints.flatMap hintHtml

def explainTableHtml (report : RunReport) : List (List Html) :=
  match report.explainCells with
  | none => []
  | some (columns, rows) =>
    fixed ["<table class=\"plan-table\">"] ++
    [tableRow "<th>" "</th>" columns] ++ rows.map (tableRow "<td>" "</td>") ++
    fixed ["</table>"]

def explainHtml (report : RunReport) : List (List Html) :=
  match report.explainSql, report.explainError, report.correlation with
  | none, _, _ => fixed ["<p>" ++ nothingToExplain ++ "</p>"]
  | some _, some failure, _ => [within "<p class=\"severe\">" [.data failure.remediation] "</p>"]
  | some _, none, none => fixed ["<p>" ++ noDatabase ++ "</p>"]
  | some _, none, some correlation =>
    [within "<p>Explain Time: " [.data report.explainTime] " ms</p>"] ++ report.explainTableHtml ++
    [within "<pre>" [.data correlation.narrative] "</pre>"]

/-- The style of a flagged heading. -/
def flagAttribute : Option TableFlag → String
  | some .severe => " class=\"severe\""
  | some .warn => " class=\"warning\""
  | none => ""

/-- A line of a section. Only a text can be escaped. -/
def sectionRowHtml (row : SectionRow) : Except Fault (List Html) :=
  match row.item with
  | .text item => .ok (tableRow "<td>" "</td>" [row.category, item, row.notes])
  | _ => .error .lacksMember

def sectionHtml (part : ReportSection) : Except Fault (List (List Html)) := do
  return [within ("<h2" ++ flagAttribute part.flag ++ ">Table: ") [.data part.title] "</h2>"] ++
    fixed ["<table>", "<tr><th>Category</th><th>Item</th><th>Notes</th></tr>"] ++
    (← part.rows.mapM sectionRowHtml) ++
    fixed ["</table>"]

/-- The page, line by line, with the lines of the given sections. -/
def pageLines (report : RunReport) (sections : List (List (List Html))) (time : String) :
    List (List Html) :=
  headLines time ++
  (match report.analysis.error with
    | some error =>
      fixed ["<h2>SQL Parse Error</h2>"] ++ [within "<pre>" [.data error] "</pre>"]
    | none =>
      fixed ["<h2>Query Structure Analysis</h2>"] ++
      [within "<p>Statement Type: " [.data (report.analysis.statementType.getD "None")] "</p>"] ++
      fixed ["<h3>Query Statistics</h3>"] ++ statisticsHtml report.analysis.statistics ++
      fixed ["<h2>Performance Hints (Structural)</h2>"] ++ hintsHtml report.analysis.hints ++
      fixed ["<h2>EXPLAIN Plan</h2>"] ++ report.explainHtml ++
      sections.flatten) ++
  fixed ["</body>", "</html>"]

def html (report : RunReport) (time : String) : Except Fault (Logged String) := do
  match report.analysis.error with
  | some _ => return ⟨renderPage (report.pageLines [] time), []⟩
  | none =>
    let sections ← report.sections
    let written ← sections.value.mapM sectionHtml
    return ⟨renderPage (report.pageLines written time), sections.log⟩

end RunReport

end SqlAdvisor
