import SqlAdvisor.Text.Case
import SqlAdvisor.Text.Line
import SqlAdvisor.Text.Part
import SqlAdvisor.Tree.Label

/-! # Warnings about tables

What an EXPLAIN finds wrong with the use of a table.
-/

namespace SqlAdvisor

/-- What a warning is about. -/
inductive WarningType where
  | fullTableScan
  | indexNotUsed
  | highRowEstimate
  | filesortUsed
  | temporaryTableUsed
  deriving DecidableEq

/-- How strongly a table's section is marked. -/
inductive TableFlag where
  | warn
  | severe
  deriving DecidableEq

namespace TableFlag

def name : TableFlag → String
  | warn => "WARN"
  | severe => "SEVERE"

/-- Whether the flag is stronger than another. -/
def exceeds : TableFlag → TableFlag → Bool
  | severe, warn => true
  | _, _ => false

end TableFlag

namespace WarningType

def name : WarningType → String
  | fullTableScan => "FullTableScan"
  | indexNotUsed => "IndexNotUsed"
  | highRowEstimate => "HighRowEstimate"
  | filesortUsed => "FilesortUsed"
  | temporaryTableUsed => "TemporaryTableUsed"

def label : WarningType → String
  | fullTableScan => "Full Table Scan"
  | indexNotUsed => "Index Not Used"
  | highRowEstimate => "High Row Estimate"
  | filesortUsed => "Filesort Used"
  | temporaryTableUsed => "Temporary Table Used"

def every : List WarningType :=
  [fullTableScan, indexNotUsed, highRowEstimate, filesortUsed, temporaryTableUsed]

def ofName? (name : String) : Option WarningType :=
  every.find? fun type => type.name = name

/-- How a warning of the type marks its table. -/
def flag : WarningType → TableFlag
  | fullTableScan => .severe
  | _ => .warn

end WarningType

/-- A line of a table's section: what it is about, what it says, and a remark. A line about a column says what
    the column is called. -/
structure SectionRow where
  category : String
  item : Label
  notes : String
  deriving DecidableEq

/-- A finding about a table, with what could be done. -/
structure TableWarning where
  table : String
  type : WarningType
  message : String := ""
  /-- The columns that an index should have. -/
  columns : List String := []
  /-- The suggestion as lines of the table's section. -/
  rows : List SectionRow := []
  /-- The EXPLAIN row that the finding is from. -/
  rowId : Option Label := none
  deriving DecidableEq

namespace TableWarning

/-- What a ledger keeps one warning of: the table's name without regard to case, and the type. -/
def key (warning : TableWarning) : String × WarningType := (Text.lower warning.table, warning.type)

def shortMessage (warning : TableWarning) : String := Text.firstLine warning.message

/-- The command that creates an index on the suggested columns, if there are any. -/
def indexSql? (warning : TableWarning) : Option String :=
  if warning.columns.isEmpty then none
  else
    let name := "idx_" ++ Text.lastSegment warning.table ++ "_" ++ "_".intercalate warning.columns
    some ("CREATE INDEX " ++ name ++ " ON " ++ warning.table ++
      " (" ++ ", ".intercalate warning.columns ++ ");")

end TableWarning

end SqlAdvisor
