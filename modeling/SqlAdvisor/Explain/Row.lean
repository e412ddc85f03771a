import SqlAdvisor.Datum
import SqlAdvisor.Dictionary
import SqlAdvisor.Text.Case

/-! # Rows of an EXPLAIN

Databases differ in how they write the names of the columns, so a row finds its cells without regard to
letter case. Of columns that differ by case alone, the last one counts.
-/

namespace SqlAdvisor

/-- One row of EXPLAIN output: a cell for every column, in order. -/
structure ExplainRow where
  cells : Dictionary String Datum

namespace ExplainRow

/-- The row with the given cells. A column given twice stays in its first place with its last cell. -/
def ofCells (cells : List (String × Datum)) : ExplainRow := ⟨.ofList cells⟩

/-- The names of the columns, as they are written. -/
def columns (row : ExplainRow) : List String := row.cells.keys

/-- The cell of a column, whatever the letter case of its name. -/
def get? (row : ExplainRow) (column : String) : Option Datum :=
  let lowered := Text.lower column
  (row.cells.entries.reverse.find? fun cell => Text.lower cell.1 = lowered).map Prod.snd

/-- Whether the row has a column, whatever the letter case of its name. -/
def contains (row : ExplainRow) (column : String) : Bool := (row.get? column).isSome

/-- The cell of a column as text; a missing column and a null cell have none. -/
def text? (row : ExplainRow) (column : String) : Option String :=
  match row.get? column with
  | none | some .null => none
  | some cell => some cell.display

def text (row : ExplainRow) (column : String) : String := (row.text? column).getD ""

/-- The text of the first column. -/
def firstText? (row : ExplainRow) : Option String :=
  match row.columns with
  | [] => none
  | first :: _ => row.text? first

/-- Every column with the cell that its name finds. -/
def items (row : ExplainRow) : List (String × Datum) :=
  row.columns.map fun column => (column, (row.get? column).getD .null)

def display (row : ExplainRow) : String :=
  "ExplainRow(" ++ (Datum.table row.items).quoted ++ ")"

end ExplainRow

end SqlAdvisor
