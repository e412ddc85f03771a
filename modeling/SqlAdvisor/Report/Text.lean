import SqlAdvisor.Report.Section

/-! # The text report -/

namespace SqlAdvisor

namespace RunReport

/-- What a line of a section says, as it fills a column: a truth value as a number, and nothing not at all. -/
def itemText : Label → Except Fault String
  | .flag value => .ok (if value then "1" else "0")
  | .nothing => .error .wrongType
  | other => .ok other.display

/-- A line of a section: its category and item fill columns, and the notes follow. -/
def sectionLine (row : SectionRow) : Except Fault String := do
  let item ← itemText row.item
  return Text.stripEnd (Text.padEnd 26 row.category ++ Text.padEnd 40 item ++ row.notes)

def sectionLines (part : ReportSection) : Except Fault (List String) := do
  let marker :=
    match part.flag with
    | some flag => " [" ++ flag.name ++ "]"
    | none => ""
  return ["", "Table: " ++ part.title ++ marker, "--------------------"] ++
    (← part.rows.mapM sectionLine)

def explainTableLines (report : RunReport) : List String :=
  match report.explainCells with
  | none => []
  | some (columns, rows) => (columns :: rows).map (" | ".intercalate ·)

def explainLines (report : RunReport) : List String :=
  ["", "--- EXPLAIN ---"] ++
  match report.explainSql, report.explainError, report.correlation with
  | none, _, _ => [nothingToExplain]
  | some _, some failure, _ => [failure.remediation]
  | some _, none, none => [noDatabase]
  | some _, none, some correlation =>
    ["Explain Time: " ++ report.explainTime ++ " ms"] ++ report.explainTableLines ++
      ["", Text.stripEnd correlation.narrative]

def structureLines (analysis : Analysis) : List String :=
  ["--- Query Structure Analysis ---",
   "Statement Type: " ++ analysis.statementType.getD "None",
   "",
   "--- Query Statistics ---"] ++
  (if analysis.statistics.isEmpty then [noStatistics]
  else analysis.statistics.entries.map fun (name, value) => name ++ ": " ++ value.display) ++
  (if analysis.hints.isEmpty then []
  else ["", "--- Performance Hints (Structural) ---"] ++
    analysis.hints.flatMap fun hint => [hint.display, ""])

/-- The text report, which begins with the time at which it was written. -/
def text (report : RunReport) (time : String) : Except Fault (Logged String) := do
  let heading := [
    "SQL Statement Performance Analysis Report",
    "========================================",
    "Generated on: " ++ time,
    ""]
  match report.analysis.error with
  | some error =>
    return ⟨"\n".intercalate (heading ++ ["--- SQL Parse Error ---", Text.stripEnd error]), []⟩
  | none =>
    let sections ← report.sections
    let lines ← sections.value.mapM sectionLines
    return ⟨"\n".intercalate
      (heading ++ structureLines report.analysis ++ report.explainLines ++ lines.flatten), sections.log⟩

end RunReport

end SqlAdvisor
