import SqlAdvisor.Text.Part
import SqlAdvisor.Tree.Naming

/-! # Statements

A statement is one of five kinds, each with the clauses that the analyses ask for. It keeps its tree. The
lists of a clause hold what stands in the tree, which need not be a node.
-/

namespace SqlAdvisor

/-- A table as a statement refers to it, under its full name. A derived table is named by its alias. -/
structure TableRef where
  name : String
  alias? : Option Label := none
  deriving DecidableEq

namespace TableRef

/-- The table's name without catalog and schema. -/
def simpleName (ref : TableRef) : String := Text.lastSegment ref.name

/-- What the table is addressed by: its alias, or its name. -/
def handle (ref : TableRef) : String :=
  match ref.alias? with
  | some (.text given) => if given.isEmpty then ref.name else given
  | _ => ref.name

/-- Whether the alias is given and no text. -/
def hasOddAlias (ref : TableRef) : Bool :=
  match ref.alias? with
  | some given => given.truthy && given.text?.isNone
  | none => false

/-- Whether this is a derived table whose alias cannot name it. -/
def isNameless (ref : TableRef) : Bool := ref.name.isEmpty && ref.hasOddAlias

end TableRef

/-- A join of a `SELECT`: how it joins, and what, if that has a name. -/
structure JoinRef where
  kind : String
  table : Option TableRef

/-- The set operation at the root of a query. -/
inductive SetOperator where
  | none
  | union
  | unionAll
  | intersect
  | except
  deriving DecidableEq

def SetOperator.name : SetOperator → String
  | .none => "none"
  | union => "UNION"
  | unionAll => "UNION_ALL"
  | intersect => "INTERSECT"
  | except => "EXCEPT"

/-- A query: a `SELECT`, or a set operation, which shows the clauses of its leftmost `SELECT`. -/
structure SelectStatement where
  node : Node
  sql : String
  tables : List TableRef
  joins : List JoinRef
  condition : Argument
  groupBy : List Argument
  orderBy : List Argument
  resultColumns : List Argument
  isDistinct : Bool
  hasLimit : Bool
  setOperator : SetOperator

structure InsertStatement where
  node : Node
  sql : String
  tables : List TableRef
  target : Option String
  columnCount : Nat
  /-- The query whose rows are inserted. -/
  source : Option Node
  /-- The number of rows listed after `VALUES`. -/
  valuesRowCount : Option Nat

structure UpdateStatement where
  node : Node
  sql : String
  tables : List TableRef
  target : Option String
  setColumnCount : Nat
  condition : Argument

structure DeleteStatement where
  node : Node
  sql : String
  tables : List TableRef
  target : Option String
  condition : Argument

/-- Any other statement, known by the name of its kind. -/
structure OtherStatement where
  node : Node
  sql : String
  tables : List TableRef
  kindName : String

/-- A statement of one of the five kinds. -/
inductive Statement where
  | select (statement : SelectStatement)
  | insert (statement : InsertStatement)
  | update (statement : UpdateStatement)
  | delete (statement : DeleteStatement)
  | other (statement : OtherStatement)

namespace Statement

def node : Statement → Node
  | select s => s.node
  | insert s => s.node
  | update s => s.node
  | delete s => s.node
  | other s => s.node

def sql : Statement → String
  | select s => s.sql
  | insert s => s.sql
  | update s => s.sql
  | delete s => s.sql
  | other s => s.sql

/-- The tables that the statement refers to. -/
def tables : Statement → List TableRef
  | select s => s.tables
  | insert s => s.tables
  | update s => s.tables
  | delete s => s.tables
  | other s => s.tables

def typeName : Statement → String
  | select _ => "SELECT"
  | insert _ => "INSERT"
  | update _ => "UPDATE"
  | delete _ => "DELETE"
  | other s => s.kindName

def isSelect : Statement → Bool
  | select _ => true
  | _ => false

/-- Whether the database can explain the statement. -/
def isExplainable : Statement → Bool
  | other _ => false
  | _ => true

/-- The first statement that the database can explain. -/
def firstExplainable? (statements : List Statement) : Option Statement :=
  statements.find? isExplainable

end Statement

end SqlAdvisor
