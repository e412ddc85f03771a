import SqlAdvisor.Datum
import SqlAdvisor.Dictionary
import SqlAdvisor.Tree.Node

/-! # The exchange form of syntax trees

A parser hands over a tree as data. A node is a table: `t` names its class, `family` the family of a class that is
not listed, `a` lists its arguments as pairs of a name and a value, and `sql` holds its SQL text. A chain of one
operator, which nests to the left, may be written flat: `chain` then lists its operands.
-/

namespace SqlAdvisor

namespace Node

/-- The SQL text in a node's table. -/
def exchangedSql? (entries : List (String × Datum)) : Option String :=
  match entries.lookup "sql" with
  | some (.text written) => some written
  | _ => none

/-- The class that a node's table names. One that is not listed comes with its family. -/
def exchangedClass? (entries : List (String × Datum)) : Option NodeClass :=
  match entries.lookup "t" with
  | some (.text name) => (NodeClass.ofName? name).or do
    let family ← (entries.lookup "family").bind Datum.text?
    return .other name (← NodeClass.Family.ofName? family)
  | _ => none

def operation (cls : NodeClass) (left right : Node) (sql? : Option String) : Node :=
  .mk cls [("this", .node left), ("expression", .node right)] sql?

/-- A chain of one operator over its operands, nested to the left; the outermost operation has the text. -/
def chain (cls : NodeClass) (sql? : Option String) (operands : List Argument) : Option Node :=
  match operands.filterMap Argument.node? with
  | [] => none
  | first :: rest =>
    let inner := rest.dropLast.foldl (fun left right => operation cls left right none) first
    match rest.getLast? with
    | some last => some (operation cls inner last sql?)
    | none => some first

end Node

mutual

def Argument.ofDatum? : Datum → Option Argument
  | .null => some .null
  | .bool value => some (.flag value)
  | .int value => some (.number value)
  | .float shown => some (.float shown)
  | .text value => some (.text value)
  | .list items => (Argument.itemsOf? items).map .list
  | .table entries => do
    let cls ← Node.exchangedClass? entries
    let sql? := Node.exchangedSql? entries
    let (arguments, operands) ← Argument.partsOf? entries
    let node ←
      if operands.isEmpty then some (.mk cls (Dictionary.ofList arguments).entries sql?)
      else Node.chain cls sql? operands
    return .node node

def Argument.itemsOf? : List Datum → Option (List Argument)
  | [] => some []
  | item :: rest => do
    let first ← Argument.ofDatum? item
    return first :: (← Argument.itemsOf? rest)

/-- The arguments and the operands in a node's table. -/
def Argument.partsOf? : List (String × Datum) →
    Option (List (String × Argument) × List Argument)
  | [] => some ([], [])
  | (name, value) :: rest => do
    let (arguments, operands) ← Argument.partsOf? rest
    match value with
    | .list items =>
      if name = "a" then return (← Argument.pairsOf? items, operands)
      else if name = "chain" then return (arguments, ← Argument.itemsOf? items)
      else return (arguments, operands)
    | _ => return (arguments, operands)

def Argument.pairsOf? : List Datum → Option (List (String × Argument))
  | [] => some []
  | .list [.text name, value] :: rest => do
    let argument ← Argument.ofDatum? value
    return (name, argument) :: (← Argument.pairsOf? rest)
  | _ => none

end

def Node.ofDatum? (datum : Datum) : Option Node :=
  (Argument.ofDatum? datum).bind Argument.node?

end SqlAdvisor
