import SqlAdvisor.Datum
import SqlAdvisor.Hint.Basic
import SqlAdvisor.Text.Part
import SqlAdvisor.Usage.Resolution

/-! # The hints in words

One hint for every rule, with what varies filled in.
-/

namespace SqlAdvisor

namespace Hint

/-- The title of the hints on functions around filtering columns. -/
def functionTitle : String := "Function on WHERE Column(s)"

/-! ## Queries -/

/-- The list of a `SELECT` holds a star. -/
def selectStar : Hint where
  severity := .warn
  title := "Avoid SELECT *"
  explanation :=
    "Retrieving all columns (*) forces the database to fetch potentially unnecessary data, " ++
    "increasing network traffic and memory usage. It also prevents certain index optimizations " ++
    "(covering indexes)."
  suggestion :=
    "Explicitly list only the columns your application requires in the SELECT clause."

/-- A function wraps columns of a table in a `WHERE` clause. -/
def wrappedColumns (key : TableKey) (columns : List String) : Hint where
  severity := .severe
  title := functionTitle
  explanation :=
    "Applying a function (like YEAR(), UPPER(), CONCAT()) to a column in the WHERE clause often " ++
    "prevents the database from using an index on that column, forcing a slower table scan. " ++
    "This is because the database must calculate the function's result for every row before " ++
    "comparing."
  suggestion :=
    "Rewrite the condition to apply functions to the constant value instead of the column, if " ++
    "possible (e.g., `date_col >= '2024-01-01'` instead of `YEAR(date_col) = 2024`). Consider " ++
    "function-based indexes if rewriting isn't feasible (database-specific). Columns involved: " ++
    Text.bracketed columns ++ " in table '" ++ key.display ++ "'."

/-- Several tables are read without a `WHERE` clause. -/
def cartesianProduct (tableCount : Datum) : Hint where
  severity := .severe
  title := "Potential Cartesian Product"
  explanation :=
    "The query joins multiple tables (" ++ tableCount.display ++ ") but lacks a WHERE clause to " ++
    "filter the results *after* joining. If JOIN conditions are missing or insufficient, this can " ++
    "result in a 'Cartesian Product' - every row from one table combined with every row from " ++
    "another, which is usually extremely large and slow."
  suggestion :=
    "Ensure correct and sufficient JOIN conditions (`ON tableA.col = tableB.col`) are specified " ++
    "for all joined tables. Add a WHERE clause if further filtering is needed."

/-- One table is read without a `WHERE` clause. -/
def fullScan : Hint where
  severity := .warn
  title := "Potential Full Table Scan (No WHERE)"
  explanation :=
    "The query selects from a single table without a WHERE clause. This forces the database " ++
    "to read every row (Full Table Scan), which can be slow for large tables."
  suggestion :=
    "Add a WHERE clause to filter rows if you don't need the entire table's data. If the table " ++
    "is intentionally small, this might be acceptable."

/-- Rows are sorted by something other than a column. -/
def orderByExpression (sql : String) : Hint where
  severity := .warn
  title := "Expression in ORDER BY"
  explanation :=
    "The ORDER BY clause uses an expression ('" ++ sql ++ "') instead of " ++
    "directly referencing a column. The database must calculate this expression for rows " ++
    "*before* sorting, preventing the use of standard indexes for sorting."
  suggestion :=
    "If possible, sort directly by indexed columns. Consider adding a function-based index if " ++
    "sorting by the expression is essential (database-specific)."

/-- Rows are grouped by something other than a column. -/
def groupByExpression (sql : String) : Hint where
  severity := .info
  title := "Expression in GROUP BY"
  explanation :=
    "The GROUP BY clause uses an expression ('" ++ sql ++ "'). While " ++
    "valid, grouping directly by columns might allow for better optimization or index usage " ++
    "in some databases."
  suggestion :=
    "Ensure grouping by the expression is necessary. Grouping by simple columns is sometimes " ++
    "more efficient."

/-- Columns are compared with patterns that begin with a wildcard. -/
def leadingWildcard (columns : List String) : Hint where
  severity := .warn
  title := "LIKE with Leading Wildcard"
  explanation :=
    "The WHERE clause uses `LIKE '%...'` (a leading wildcard) on column(s): " ++
    Text.bracketed columns ++ ". Standard B-tree indexes cannot be used efficiently for " ++
    "this type of search, often resulting in a full table/index scan."
  suggestion :=
    "Avoid leading wildcards if possible. Consider full-text indexing if searching within text " ++
    "is a primary requirement. If trailing wildcards (`LIKE 'abc%'`) are sufficient, they can " ++
    "use standard indexes."

/-- An `OR` has operands on different columns. -/
def splitAlternative : Hint where
  severity := .info
  title := "OR Condition on Different Columns"
  explanation :=
    "The WHERE clause uses OR to combine conditions on different columns. Databases sometimes " ++
    "struggle to use multiple indexes efficiently for OR conditions, potentially leading to " ++
    "scans or less optimal index merges."
  suggestion :=
    "Consider rewriting the query using UNION ALL if appropriate, especially if each part of " ++
    "the OR condition could use a separate index effectively. Evaluate the EXPLAIN plan " ++
    "carefully."

/-- Duplicate rows are removed. -/
def selectDistinct : Hint where
  severity := .info
  title := "SELECT DISTINCT Usage"
  explanation :=
    "The query uses SELECT DISTINCT to remove duplicate rows. This requires the database to perform " ++
    "extra work (often sorting or hashing) on the result set, which can be resource-intensive for " ++
    "large results."
  suggestion :=
    "Ensure DISTINCT is truly necessary. Sometimes duplicates can be avoided by refining JOIN " ++
    "conditions or using GROUP BY instead."

/-- No rule for queries applies. -/
def noIssues : Hint where
  severity := .info
  title := "No Obvious Structural Issues"
  explanation := "The query structure doesn't show common beginner anti-patterns."
  suggestion :=
    "Review the database-specific EXPLAIN plan for detailed execution analysis and index usage."

/-! ## Other statements -/

/-- The rows of a query are inserted. -/
def insertSelect : Hint where
  severity := .info
  title := "INSERT...SELECT"
  explanation := "Data is inserted based on a SELECT subquery."
  suggestion :=
    "Analyze the SELECT subquery separately for potential performance issues. Ensure target table " ++
    "indexes are maintained during insert."

/-- Many rows are listed after `VALUES`. -/
def largeValues (rows : Nat) : Hint where
  severity := .info
  title := "Large VALUES List"
  explanation := "INSERT uses many VALUES clauses (" ++ toString rows ++ ")."
  suggestion :=
    "For very large numbers of rows, consider database-specific bulk insert utilities or batching " ++
    "for better performance."

/-- An `UPDATE` has no `WHERE` clause. -/
def updateAll (target : String) : Hint where
  severity := .severe
  title := "UPDATE Without WHERE"
  explanation := "This statement will update *all* rows in the table '" ++ target ++ "'."
  suggestion :=
    "ALWAYS include a WHERE clause unless you explicitly intend to modify the entire table. " ++
    "Double-check your logic."

/-- A `DELETE` has no `WHERE` clause. -/
def deleteAll (target : String) : Hint where
  severity := .severe
  title := "DELETE Without WHERE"
  explanation := "This statement will delete *all* rows from the table '" ++ target ++ "'."
  suggestion :=
    "ALWAYS include a WHERE clause unless you explicitly intend to clear the entire table " ++
    "(consider TRUNCATE if applicable and appropriate). Double-check your logic."

/-- A function wraps columns in the `WHERE` clause of an `UPDATE` or a `DELETE`. -/
def wrappedInModification (columns : List String) (verb : String) : Hint where
  severity := .warn
  title := functionTitle
  explanation :=
    "Applying a function to column(s) " ++ Text.bracketed columns ++
    " in the WHERE clause of this " ++ verb ++ " often prevents index usage."
  suggestion :=
    "Rewrite the condition to apply functions to constant values if possible, or consider " ++
    "function-based indexes."

/-- No rule for a statement that is no query applies. -/
def basicAnalysis (typeName : String) : Hint where
  severity := .info
  title := "Basic Analysis Complete"
  explanation := "No major structural issues detected for this statement type."
  suggestion := "Review database-specific guidelines for " ++ typeName ++ "."

/-- The statement is neither a query nor a change of rows. -/
def otherStatement (typeName : String) : Hint where
  severity := .info
  title := "DDL/Custom Statement"
  explanation := "Statement type: " ++ typeName
  suggestion := "Structural analysis is basic for this type."

/-- The script holds no statement. -/
def emptyQuery : Hint where
  severity := .info
  title := "Empty Query"
  explanation := "The input string contained no SQL statements."
  suggestion := "Enter a valid SQL query."

end Hint

end SqlAdvisor
