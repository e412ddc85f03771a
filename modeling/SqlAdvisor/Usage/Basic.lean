import SqlAdvisor.Traversal.Context
import SqlAdvisor.Usage.ColumnSet
import SqlAdvisor.Usage.Resolution

/-! # Column usage

A usage record tells which columns a statement uses of one table, and in which clauses.
-/

namespace SqlAdvisor

/-- The columns that a statement uses of one table. -/
structure TableUsage where
  /-- What the statement calls the table. -/
  aliasUsed : Option Label := none
  /-- All columns, and a marker for each star. -/
  all : ColumnSet := ∅
  /-- Columns in a `WHERE` clause. -/
  filtering : ColumnSet := ∅
  /-- Columns in a `WHERE` clause and in a function call. -/
  wrapped : ColumnSet := ∅
  /-- Columns in a `GROUP BY` clause. -/
  grouping : ColumnSet := ∅
  /-- Columns in an `ORDER BY` clause. -/
  sorting : ColumnSet := ∅
  deriving DecidableEq

/-- The usage records of a statement, in the order in which their tables were met. -/
abbrev TableUsages := Dictionary TableKey TableUsage

namespace TableUsages

def knownTables (usages : TableUsages) : List String :=
  usages.keys.filterMap TableKey.knownName?

end TableUsages

namespace TableUsage

/-- The record after a column was met in a context. -/
def addColumn (usage : TableUsage) (column : Label) (context : Context) : TableUsage :=
  { usage with
    all := usage.all.insert column
    filtering := if context.inWhere then usage.filtering.insert column else usage.filtering
    wrapped :=
      if context.inWhere && context.inFunction then usage.wrapped.insert column else usage.wrapped
    grouping := if context.inGroupBy then usage.grouping.insert column else usage.grouping
    sorting := if context.inOrderBy then usage.sorting.insert column else usage.sorting }

/-- The record with a marker among its columns. -/
def addMarker (usage : TableUsage) (marker : String) : TableUsage :=
  { usage with all := usage.all.insert marker }

end TableUsage

end SqlAdvisor
