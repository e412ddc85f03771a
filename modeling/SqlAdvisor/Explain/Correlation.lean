import SqlAdvisor.Explain.Row
import SqlAdvisor.Explain.RowCount
import SqlAdvisor.Explain.Warning
import SqlAdvisor.Usage.Basic

/-! # Correlating an EXPLAIN with column usage

Each EXPLAIN row is brought back to the table it is about. What is wrong in it becomes a finding, with the
columns that the statement uses of that table as candidates for an index. A narrative tells every finding;
a warning is made of those whose table is known.
-/

namespace SqlAdvisor

/-- What a row is about: the table, and how the statement uses it. -/
structure RowSubject where
  /-- The row's first cell, or its number. -/
  rowId : String
  /-- The row's table cell. -/
  tableCell? : Option String
  /-- The table that the cell names. -/
  table : Option String
  usage : TableUsage := {}

/-- Something wrong in a row. -/
structure Finding where
  type : WarningType
  /-- The line of the narrative that names the finding. -/
  headline : String
  /-- The lines below it. -/
  details : List String
  /-- The warning's message. -/
  message : String
  /-- The columns that an index should have. -/
  columns : List String
  /-- The suggestion as lines of the table's section. -/
  rows : List SectionRow

/-- What the narrative says about a row. -/
inductive Remark where
  | finding (finding : Finding)
  /-- A row estimate that is worth telling, but not high. -/
  | estimate (rows : Int)

/-- The numbers of rows above which an estimate is high, and above which it is told. -/
structure Thresholds where
  high : Int := 10000
  told : Int := 10000

namespace RowSubject

/-- The table that a row's table cell names, among the aliases and tables of a statement. -/
def tableOf (cell? : Option String) (aliases : AliasMap) (usages : TableUsages) : Option String :=
  match cell? with
  | none => none
  | some cell => if cell.isEmpty then none else (resolve cell aliases usages.knownTables).knownName?

def ofRow (index : Nat) (row : ExplainRow) (aliases : AliasMap) (usages : TableUsages) : RowSubject :=
  let first := row.firstText?.getD ""
  let cell? := row.text? "table"
  let table := tableOf cell? aliases usages
  let usage? := table.bind fun name => if name.isEmpty then none else usages.find? (.known name)
  { rowId := if first.isEmpty then "Row " ++ toString (index + 1) else first
    tableCell? := cell?
    table := table
    usage := usage?.getD {} }

/-- The names of the columns in `WHERE` clauses, in order. -/
def filtering (s : RowSubject) : List String := s.usage.filtering.names.toList

/-- The names of the columns in `WHERE` clauses and in calls, in order. -/
def wrapped (s : RowSubject) : List String := s.usage.wrapped.names.toList

/-- The names of the columns in `GROUP BY` clauses, in order. -/
def grouping (s : RowSubject) : List String := s.usage.grouping.names.toList

/-- The names of the columns in `ORDER BY` clauses, in order. -/
def sorting (s : RowSubject) : List String := s.usage.sorting.names.toList

/-- The start of the narrative's lines about the row. -/
def lineStart (s : RowSubject) : String :=
  let table :=
    match s.table with
    | some name => if name.isEmpty then "" else " (" ++ name ++ ")"
    | none => ""
  "[" ++ s.rowId ++ " " ++ s.tableCell?.getD "?" ++ table ++ "]"

/-! ## Findings -/

def fullTableScan (s : RowSubject) : Finding :=
  let start := "Suggestion: Index JOIN/WHERE columns."
  let (suggestion, row) :=
    if s.filtering.isEmpty then
      (match s.table with
        | some _ => start ++ " Check JOIN columns for '" ++ s.tableCell?.getD "" ++ "'."
        | none => start,
       (⟨"-> Index Suggestion", "Index JOIN columns:", "(Check query for columns used to join)"⟩ :
        SectionRow))
    else
      (start ++ " Candidates: " ++ Text.bracketed s.filtering,
       ⟨"-> Index Suggestion", "Index JOIN/WHERE columns:", Text.bracketed s.filtering⟩)
  { type := .fullTableScan
    headline := "SEVERE: Full Table Scan ('type' is 'ALL'). Why: DB read every row."
    details := ["  > " ++ suggestion]
    message := suggestion
    columns := s.filtering
    rows := [row] }

/-- The filtering columns whose name, in lower case, is that of a column inside a call. -/
def blockedColumns (s : RowSubject) : List String :=
  let lowered := s.wrapped.map Text.lower
  s.filtering.filter fun column => lowered.contains (Text.lower column)

/-- Why an index may have been passed over. -/
def indexNotUsedReasons (s : RowSubject) : List String :=
  let blocked := s.blockedColumns
  let mismatch := "Data type mismatch in JOIN/WHERE" ++
    (if s.filtering.isEmpty then "" else ": " ++ Text.bracketed s.filtering)
  (if blocked.isEmpty then [] else ["Func on indexed col(s): " ++ Text.bracketed blocked]) ++
  [mismatch, "Optimizer chose scan (small table / low selectivity / outdated stats)"] ++
  (if blocked.isEmpty && !s.wrapped.isEmpty then
    ["Note: Funcs in WHERE on: " ++ Text.bracketed s.wrapped ++ ". Overlap with keys?"]
  else [])

/-- There are indexes, and none is used. -/
def indexNotUsed (s : RowSubject) (possibleKeys : String) : Finding :=
  let reasons := s.indexNotUsedReasons
  { type := .indexNotUsed
    headline := "WARN: Index Not Used"
    details :=
      ["  > Possible keys [" ++ possibleKeys ++ "] found, but none used.",
       "  > Potential reasons:"] ++ reasons.map fun reason => "    - " ++ reason
    message :=
      "Potential reasons:\n" ++ "\n".intercalate (reasons.map fun reason => "- " ++ reason)
    columns := s.filtering
    rows :=
      ⟨"-> Explanation", "Potential reasons:", ""⟩ :: reasons.map fun reason => ⟨"", .text reason, ""⟩ }

def highRowEstimate (s : RowSubject) (rows : Int) : Finding :=
  let message := "Est. rows: " ++ toString rows
  { type := .highRowEstimate
    headline := "INFO: High est. rows (" ++ toString rows ++ ")."
    details := ["  > SUGGEST: Check WHERE/JOIN selectivity."]
    message := message
    columns := s.filtering
    rows := [⟨"-> Info", message, "(Check WHERE/JOIN selectivity)"⟩] }

/-- Rows are sorted without an index. -/
def filesortUsed (s : RowSubject) : Finding :=
  let candidates := Text.bracketed s.sorting
  let suggestion := "Suggest: Index ORDER BY cols." ++
    (if s.sorting.isEmpty then "" else " Candidates: " ++ candidates)
  { type := .filesortUsed
    headline := "WARN: 'Using filesort'."
    details := ["  > " ++ suggestion]
    message := suggestion
    columns := s.sorting
    rows := [⟨"-> Index Suggestion", "Index ORDER BY columns:",
      if s.sorting.isEmpty then "(Columns not identified)" else candidates⟩] }

def temporaryTableUsed (s : RowSubject) : Finding :=
  let candidates := Text.bracketed s.grouping
  let suggestion := "Suggest: Temp table needed (slow). Common for complex GROUP BY/DISTINCT/UNION." ++
    (if s.grouping.isEmpty then " Simplify query?"
    else " Consider indexing GROUP BY cols: " ++ candidates)
  { type := .temporaryTableUsed
    headline := "WARN: 'Using temporary'."
    details := ["  > " ++ suggestion]
    message := suggestion
    columns := s.grouping
    rows := [
      if s.grouping.isEmpty then
        ⟨"-> Index Suggestion", "Consider indexing GROUP BY columns", "(If applicable)"⟩
      else ⟨"-> Index Suggestion", "Index GROUP BY columns:", candidates⟩] }

end RowSubject

namespace ExplainRow

/-- Whether the row reads its table whole. -/
def isFullScan (row : ExplainRow) : Bool := Text.upper (row.text "type") = "ALL"

/-- The indexes that the row could use, if there are any and it uses none. -/
def unusedKeys? (row : ExplainRow) : Option String :=
  let possible := row.text "possible_keys"
  let key := row.text "key"
  if !possible.isEmpty && (key.isEmpty || Text.upper key = "NULL") then some possible else none

/-- Whether the row's notes mention something. -/
def notes (row : ExplainRow) (note : String) : Bool := Text.contains (row.text "Extra") note

end ExplainRow

/-- A row's subject and the remarks on it. -/
structure RowReport where
  subject : RowSubject
  remarks : List Remark

namespace RowReport

/-- The remark on a row estimate, if it is worth one. -/
def onEstimate (s : RowSubject) (thresholds : Thresholds) (rows : Int) : List Remark :=
  if thresholds.high < rows then [.finding (s.highRowEstimate rows)]
  else if thresholds.told < rows then [.estimate rows]
  else []

/-- The remarks on a row whose estimate is `rows`, in order. -/
def remarksOn (s : RowSubject) (row : ExplainRow) (thresholds : Thresholds) (rows : Int) :
    List Remark :=
  (if row.isFullScan then [.finding s.fullTableScan] else []) ++
  (match row.unusedKeys? with
    | some keys => [.finding (s.indexNotUsed keys)]
    | none => []) ++
  onEstimate s thresholds rows ++
  (if row.notes "Using filesort" then [.finding s.filesortUsed] else []) ++
  (if row.notes "Using temporary" then [.finding s.temporaryTableUsed] else [])

/-- Refuses a subject whose columns cannot be put in order, or have no names where the access of the row calls
    for them. -/
def checkAccess (s : RowSubject) (row : ExplainRow) : Except Fault Unit := do
  let usage := s.usage
  for columns in [usage.filtering, usage.wrapped, usage.grouping, usage.sorting] do
    let _ ← columns.listing
  if row.isFullScan && !usage.filtering.isNamed then throw .wrongType
  if row.unusedKeys?.isSome && !(usage.wrapped.isNamed && usage.filtering.isNamed) then
    throw .lacksMember

/-- Refuses a subject whose columns have no names where the estimate or the notes of the row call for them. -/
def checkNotes (s : RowSubject) (row : ExplainRow) (thresholds : Thresholds) (rows : Int) :
    Except Fault Unit := do
  let usage := s.usage
  if decide (thresholds.high < rows) && !usage.filtering.isNamed ||
      row.notes "Using filesort" && !usage.sorting.isNamed ||
      row.notes "Using temporary" && !usage.grouping.isNamed then throw .wrongType

def ofRow (aliases : AliasMap) (usages : TableUsages) (thresholds : Thresholds)
    (row : ExplainRow) (index : Nat) : Except Fault (Logged RowReport) := do
  let subject := RowSubject.ofRow index row aliases usages
  checkAccess subject row
  let rows ← rowCount (row.text? "rows")
  checkNotes subject row thresholds rows.value
  return rows.map fun rows => ⟨subject, remarksOn subject row thresholds rows⟩

def findings (report : RowReport) : List Finding :=
  report.remarks.filterMap fun
    | .finding finding => some finding
    | .estimate _ => none

def toWarning (subject : RowSubject) (table : String) (finding : Finding) : TableWarning where
  table := table
  type := finding.type
  message := finding.message
  columns := finding.columns
  rows := finding.rows
  rowId := some subject.rowId

/-- The warnings of the row: its findings, if its table is known. -/
def warnings (report : RowReport) : List TableWarning :=
  match report.subject.table with
  | some table => report.findings.map (toWarning report.subject table)
  | none => []

def remarkLines (lineStart : String) : Remark → List String
  | .finding finding => (lineStart ++ " " ++ finding.headline) :: finding.details
  | .estimate rows => [lineStart ++ " INFO: Est. rows: " ++ toString rows]

/-- The narrative's lines about the row. -/
def lines (report : RowReport) : List String :=
  report.remarks.flatMap (remarkLines report.subject.lineStart)

end RowReport

/-- What an EXPLAIN tells about the tables of a statement. -/
structure Correlation where
  warnings : List TableWarning
  narrative : String
  /-- The strongest flag of every table with a warning, in the order of the first one. -/
  flagged : Dictionary String TableFlag

namespace Correlation

def narrativeHeader : String := "--- EXPLAIN Plan Micro-Analysis (DB Specific) ---"

/-- What a narrative says where there are no rows. -/
def noPlan : String := "No EXPLAIN plan data available to analyze."

/-- What a narrative says where no row is worth a remark. -/
def noIssues : String := "EXPLAIN plan analysis found no common high-priority issues."

def raiseFlag (flagged : Dictionary String TableFlag) (warning : TableWarning) :
    Dictionary String TableFlag :=
  let flag := warning.type.flag
  match flagged.find? warning.table with
  | none => flagged.insert warning.table flag
  | some current => if flag.exceeds current then flagged.insert warning.table flag else flagged

def flagsOf (warnings : List TableWarning) : Dictionary String TableFlag :=
  warnings.foldl raiseFlag ∅

def narrativeOf (lines : List String) : String :=
  "\n".intercalate (narrativeHeader :: lines) ++ "\n"

def ofReports (reports : List RowReport) : Correlation :=
  let warnings := reports.flatMap RowReport.warnings
  let lines := reports.flatMap RowReport.lines
  { warnings := warnings
    narrative := narrativeOf (
      if reports.isEmpty then [noPlan] else if lines.isEmpty then [noIssues] else lines)
    flagged := flagsOf warnings }

def reportsFrom (aliases : AliasMap) (usages : TableUsages) (thresholds : Thresholds) :
    List ExplainRow → Nat → Except Fault (Logged (List RowReport))
  | [], _ => .ok { value := [] }
  | row :: rest, index => do
    let report ← RowReport.ofRow aliases usages thresholds row index
    let others ← reportsFrom aliases usages thresholds rest (index + 1)
    return report.andThen fun report => others.map (report :: ·)

/-- Correlates EXPLAIN rows with the column usage of a statement. -/
def ofRows (rows : List ExplainRow) (aliases : AliasMap) (usages : TableUsages)
    (thresholds : Thresholds) : Except Fault (Logged Correlation) := do
  return (← reportsFrom aliases usages thresholds rows 0).map ofReports

end Correlation

end SqlAdvisor
