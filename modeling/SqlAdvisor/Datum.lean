import SqlAdvisor.Numeral.Decimal
import SqlAdvisor.Text.Part
import SqlAdvisor.Text.Quoted

/-! # Data without a schema

Cells of an EXPLAIN result, plan documents, configuration values and statistics hold data of any shape.
`display` is the text that a reader sees, `quoted` the text of a datum inside another.
-/

namespace SqlAdvisor

/-- One datum. A floating number is known by its shortest text; a table's keys are distinct. -/
inductive Datum where
  | null
  | bool (value : Bool)
  | int (value : Int)
  | float (shown : String)
  | text (value : String)
  | list (items : List Datum)
  | table (entries : List (String × Datum))
  deriving Inhabited

namespace Datum

mutual

/-- The text of a datum inside a list or a table, where texts are quoted. An integer is written with all its digits:
    what data are read from has none of more than `Numeral.digitLimit` digits. -/
def quoted : Datum → String
  | .null => "None"
  | .bool true => "True"
  | .bool false => "False"
  | .int value => toString value
  | .float shown => shown
  | .text value => Text.quoted value
  | .list items => "[" ++ ", ".intercalate (quotedItems items) ++ "]"
  | .table entries => "\x7b" ++ ", ".intercalate (quotedEntries entries) ++ "\x7d"

def quotedItems : List Datum → List String
  | [] => []
  | item :: rest => item.quoted :: quotedItems rest

/-- The texts of a table's entries. -/
def quotedEntries : List (String × Datum) → List String
  | [] => []
  | (key, value) :: rest => (Text.quoted key ++ ": " ++ value.quoted) :: quotedEntries rest

end

/-- The text of a datum that stands alone. -/
def display : Datum → String
  | .text value => value
  | other => other.quoted

/-- The exact value of a floating number that is finite. -/
def floatValue? (shown : String) : Option Numeral.Decimal :=
  Numeral.decimal? shown.toList

/-- Whether a datum counts as true: neither absent, false, zero nor empty. -/
def truthy : Datum → Bool
  | .null => false
  | .bool value => value
  | .int value => value ≠ 0
  | .float shown => match floatValue? shown with
    | some value => !value.isZero
    | none => true
  | .text value => !value.isEmpty
  | .list items => !items.isEmpty
  | .table entries => !entries.isEmpty

/-- The first of two data that counts as true, or else the second. -/
def orElse (first second : Datum) : Datum :=
  if first.truthy then first else second

/-! ## Parts -/

def entry? (key : String) : Datum → Option Datum
  | .table entries => entries.lookup key
  | _ => none

def items : Datum → List Datum
  | .list items => items
  | _ => []

def text? : Datum → Option String
  | .text value => some value
  | _ => none

def int? : Datum → Option Int
  | .int value => some value
  | _ => none

def itemsAt (datum : Datum) (key : String) : List Datum := ((datum.entry? key).map items).getD []

def textAt? (datum : Datum) (key : String) : Option String := (datum.entry? key).bind text?

end Datum

end SqlAdvisor
