import SqlAdvisor.Explain.Ledger
import SqlAdvisor.Run

/-! # The sections of a report

A report has one section for every usage record: the EXPLAIN warnings about its table, each once, and then
the columns that the statement uses of it.
-/

namespace SqlAdvisor

structure ReportSection where
  title : String
  flag : Option TableFlag
  rows : List SectionRow

namespace ReportSection

def spacer : SectionRow := ⟨"", "", ""⟩

/-- The category of the lines that begin a warning. -/
def warningCategory : String := "--- WARNING ---"

def warningRows (warning : TableWarning) : List SectionRow :=
  [⟨warningCategory, warning.type.label, warning.shortMessage⟩, spacer] ++ warning.rows ++
  (match warning.indexSql? with
    | some sql => [⟨"-> SQL", sql, ""⟩]
    | none => []) ++
  [spacer]

/-- The number of members, as it stands in a heading. -/
def found (columns : ColumnSet) : String := "(" ++ toString columns.size ++ " found)"

/-- A line for every column of a set, or one that tells there is none. -/
def columnRows (columns : ColumnSet) (none : String) (row : Label → SectionRow) :
    Except Fault (List SectionRow) := do
  if columns.isEmpty then return [⟨"", none, ""⟩] else return (← columns.listing).map row

/-- The lines about the columns that a function wraps. -/
def wrappedRows (columns : ColumnSet) : Except Fault (List SectionRow) := do
  if columns.isEmpty then return []
  else
    return [⟨warningCategory, "Function on WHERE column(s)", "May prevent index usage"⟩] ++
      ((← columns.listing).map fun column =>
        ⟨"", "- " ++ column.display, "(Function applied)"⟩) ++
      [spacer]

/-- The lines about a usage record. -/
def usageRows (usage : TableUsage) : Except Fault (List SectionRow) := do
  let called := (usage.aliasUsed.map Label.display).getD ""
  let filteringRow (column : Label) : SectionRow :=
    ⟨"Filtering", column, if usage.wrapped.contains column then "(Function applied)" else ""⟩
  let wrapped ← wrappedRows usage.wrapped
  let all ← columnRows usage.all "(None Detected)" fun column => ⟨"Column", column, ""⟩
  let filtering ← columnRows usage.filtering "(None)" filteringRow
  let grouping ← columnRows usage.grouping "(None)" fun column => ⟨"Grouping", column, ""⟩
  let sorting ← columnRows usage.sorting "(None)" fun column => ⟨"Sorting", column, ""⟩
  return [⟨"General", "Alias Used", if called.isEmpty then "N/A" else called⟩, spacer] ++
    wrapped ++
    [⟨"--- ALL COLUMNS USED ---", found usage.all, ""⟩] ++ all ++
    [spacer, ⟨"--- WHERE/JOIN COLUMNS ---", found usage.filtering, ""⟩] ++ filtering ++
    [spacer, ⟨"--- GROUP BY COLUMNS ---", found usage.grouping, ""⟩] ++ grouping ++
    [spacer, ⟨"--- ORDER BY COLUMNS ---", found usage.sorting, ""⟩] ++ sorting

/-- The section of a usage record, with the warnings about its table if that is known. -/
def ofUsage (ledger : Ledger) (flagged : Dictionary String TableFlag) (key : TableKey)
    (usage : TableUsage) : Except Fault ReportSection := do
  let rows ← usageRows usage
  match key with
  | .known table =>
    return {
      title := key.display
      flag := flagged.find? table
      rows := (ledger.warningsFor table).flatMap warningRows ++ rows }
  | _ => return { title := key.display, flag := none, rows := rows }

end ReportSection

namespace RunReport

/-- The report's sections. What the ledger drops is told in the log. -/
def sections (report : RunReport) : Except Fault (Logged (List ReportSection)) := do
  let recorded :=
    match report.correlation with
    | some correlation => Ledger.record {} correlation.warnings
    | none => { ledger := {} }
  let flagged := (report.correlation.map (·.flagged)).getD ∅
  let sections ← report.analysis.usages.entries.mapM fun (key, usage) =>
    ReportSection.ofUsage recorded.ledger flagged key usage
  return ⟨sections, recorded.log⟩

/-- The rows of the EXPLAIN, each with the text of every column of the first one. -/
def explainCells (report : RunReport) : Option (List String × List (List String)) :=
  match report.explainRows with
  | [] => none
  | first :: rest =>
    some (first.columns, (first :: rest).map fun row => first.columns.map row.text)

/-- What a report says where there is no statement to explain. -/
def nothingToExplain : String :=
  "No explainable (SELECT/INSERT/UPDATE/DELETE) statement found in script."

/-- What a report says where there is no database to ask. -/
def noDatabase : String := "(No database configured; EXPLAIN skipped)"

/-- What a report says where a statement has no statistics. -/
def noStatistics : String := "(No specific stats gathered)"

def explainTime (report : RunReport) : String :=
  match report.explainDurationMs with
  | some duration => toString duration
  | none => "None"

end RunReport

end SqlAdvisor
