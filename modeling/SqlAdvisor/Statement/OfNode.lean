import SqlAdvisor.Statement.Tables
import SqlAdvisor.Text.Quoted

/-! # Reading a statement off its tree

`Statement.ofNode` finds a statement's kind by the class of its root and collects its clauses. A set
operation shows the clauses of its leftmost `SELECT`, but its own ordering and limit.
-/

namespace SqlAdvisor

namespace Argument

mutual

/-- The text of an argument inside a list, where texts are quoted. -/
def quoted : Argument → String
  | .null => "None"
  | .flag true => "True"
  | .flag false => "False"
  | .number value => toString value
  | .float shown => shown
  | .text value => Text.quoted value
  | .node n => n.sql?.getD ""
  | .list items => "[" ++ ", ".intercalate (quotedItems items) ++ "]"

def quotedItems : List Argument → List String
  | [] => []
  | item :: rest => item.quoted :: quotedItems rest

end

/-- The text that stands for an argument where a keyword is expected. -/
def display : Argument → Except Fault String
  | .text value => .ok value
  | .node n => n.sql
  | other => .ok other.quoted

end Argument

namespace Node

/-- The first node down the left operands that is neither a set operation nor parentheses around a
    query. -/
def leftmostQuery (n : Node) : Except Fault Node :=
  if n.cls.isSetOperation || n.cls = .subquery then
    match _h : n.child? "this" with
    | some inner => inner.leftmostQuery
    | none => .error .lacksMember
  else .ok n
termination_by n.size
decreasing_by exact size_lt_of_child? _h

/-- The set operation of a query's root. -/
def setOperator (n : Node) : SetOperator :=
  match n.cls with
  | .except => .except
  | .intersect => .intersect
  | .union =>
    match n.arguments.lookup "distinct" with
    | some given => if given.truthy then .union else .unionAll
    | none => .union
  | _ => .none

/-- How a join joins: its words, or whether it is written with a condition or a comma. -/
def joinKind (join : Node) : Except Fault String := do
  if join.cls ≠ .join then throw .lacksMember
  let words ← ["method", "side", "kind"].mapM fun word => (join.named word).requireText
  let given := (words.map Text.upper).filter fun word => !word.isEmpty
  if !given.isEmpty then return "_".intercalate given
  else if (join.arg "on").isNull && !(join.arg "using").truthy then return "COMMA"
  else return "JOIN"

def joins (n : Node) : Except Fault (List JoinRef) := do
  (← n.items "joins").mapM fun item => do
    let join ← requireNode item
    return ⟨← join.joinKind, ← sourceRef? (join.arg "this")⟩

/-- The condition of the `WHERE` clause; null where there is none. -/
def whereCondition (n : Node) : Except Fault Argument := do
  match n.arg "where" with
  | .null => return .null
  | given => return (← requireNode given).arg "this"

/-- The items of a clause, which are none where the clause is missing. -/
def clauseItems : Argument → Except Fault (List Argument)
  | .null => .ok []
  | given => do (← requireNode given).items "expressions"

def sortKey : Argument → Argument
  | .node item => if item.cls = .ordered then item.arg "this" else .node item
  | other => other

def limitsRows (n : Node) : Bool :=
  !(n.arg "limit").isNull || !(n.arg "fetch").isNull

def toSelect (n : Node) : Except Fault SelectStatement := do
  let sql ← n.sql
  let select ← n.leftmostQuery
  let order := if (n.arg "order").truthy then n.arg "order" else select.arg "order"
  let tables ← select.fromTables
  let joins ← select.joins
  let condition ← select.whereCondition
  let groupBy ← clauseItems (select.arg "group")
  let orderBy ← clauseItems order
  let resultColumns ← select.items "expressions"
  return {
    node := n
    sql := sql
    tables := tables
    joins := joins
    condition := condition
    groupBy := groupBy
    orderBy := orderBy.map sortKey
    resultColumns := resultColumns
    isDistinct := !(select.arg "distinct").isNull
    hasLimit := n.limitsRows || select.limitsRows
    setOperator := n.setOperator }

/-- The dotted name of the table that an argument holds, if it holds a table. -/
def targetName? : Argument → Except Fault (Option String)
  | .node target => if target.cls = .table then return some (← target.tableName) else return none
  | _ => .ok none

def toInsert (n : Node) : Except Fault InsertStatement := do
  let sql ← n.sql
  let (target, columnCount) ←
    match n.child? "this" with
    | some schema =>
      if schema.cls = .schema then
        pure (schema.arg "this", (← schema.items "expressions").length)
      else pure (n.arg "this", 0)
    | none => pure (n.arg "this", 0)
  let source? := n.child? "expression"
  let query? := source?.filter fun source =>
    source.cls = .select || source.cls = .subquery || source.cls.isSetOperation
  let valuesRowCount ←
    match source? with
    | some source =>
      if source.cls = .values then pure (some (← source.items "expressions").length) else pure none
    | none => pure none
  return {
    node := n
    sql := sql
    tables := ← n.allTables
    target := ← targetName? target
    columnCount := columnCount
    source := query?
    valuesRowCount := valuesRowCount }

def toUpdate (n : Node) : Except Fault UpdateStatement := do
  let sql ← n.sql
  let tables ← n.modificationTables
  let target ← targetName? (n.arg "this")
  let assignments ← n.items "expressions"
  return {
    node := n
    sql := sql
    tables := tables
    target := target
    setColumnCount := assignments.length
    condition := ← n.whereCondition }

def toDelete (n : Node) : Except Fault DeleteStatement := do
  let sql ← n.sql
  let tables ← n.modificationTables
  let target ← targetName? (n.arg "this")
  return {
    node := n
    sql := sql
    tables := tables
    target := target
    condition := ← n.whereCondition }

/-- The name of the kind of any other statement: a command's keyword, or the class of the root. -/
def kindName (n : Node) : Except Fault String := do
  if n.cls = .command then return Text.upper (← (n.arg "this").display)
  else return Text.upper n.cls.name

def toOther (n : Node) : Except Fault OtherStatement := do
  let sql ← n.sql
  let kindName ← n.kindName
  return { node := n, sql := sql, tables := ← n.allTables, kindName := kindName }

end Node

def Statement.ofNode (n : Node) : Except Fault Statement :=
  if n.cls = .select || n.cls.isSetOperation then return .select (← n.toSelect)
  else match n.cls with
    | .insert => return .insert (← n.toInsert)
    | .update => return .update (← n.toUpdate)
    | .delete => return .delete (← n.toDelete)
    | _ => return .other (← n.toOther)

end SqlAdvisor
