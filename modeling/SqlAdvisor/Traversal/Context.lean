import SqlAdvisor.Tree.Naming

/-! # How a tree is read

Every node is visited as a kind: a column, a table, a call, a clause, and so on. What stands directly in
the list of a `SELECT` is also visited as a result column. The context of a node tells in which clauses
it lies; it only grows on the way down.
-/

namespace SqlAdvisor

/-- What a node is visited as. -/
inductive NodeKind where
  | tableRef
  | columnRef
  | functionCall
  | whereClause
  | groupBy
  | orderBy
  | resultColumn
  | binaryOp
  | constant
  | subquery
  | other
  deriving DecidableEq

namespace NodeKind

def name : NodeKind → String
  | tableRef => "table_ref"
  | columnRef => "column_ref"
  | functionCall => "function_call"
  | whereClause => "where_clause"
  | groupBy => "group_by"
  | orderBy => "order_by"
  | resultColumn => "result_column"
  | binaryOp => "binary_op"
  | constant => "constant"
  | subquery => "subquery"
  | other => "other"

def every : List NodeKind :=
  [tableRef, columnRef, functionCall, whereClause, groupBy, orderBy, resultColumn, binaryOp, constant,
   subquery, other]

def ofName? (name : String) : Option NodeKind :=
  every.find? fun kind => kind.name = name

end NodeKind

/-- The kind of a class's nodes, wherever they stand. -/
def NodeClass.kind (c : NodeClass) : NodeKind :=
  if c = .column then .columnRef
  else if c = .table then .tableRef
  else if c.isCall then .functionCall
  else if c = .whereClause then .whereClause
  else if c = .group then .groupBy
  else if c.isOrdering then .orderBy
  else if c = .select || c.isSetOperation then .subquery
  else if c.isBinary then .binaryOp
  else if c = .literal || c = .nullLiteral || c = .boolLiteral then .constant
  else .other

/-- Where a node stands: in which argument of a node of which class. -/
structure Slot where
  parent : NodeClass
  argument : String
  deriving DecidableEq

/-- A node at its place in a tree; the root of a walk has no slot. -/
structure Occurrence where
  node : Node
  slot? : Option Slot := none

namespace Occurrence

def children (o : Occurrence) : List Occurrence :=
  o.node.namedChildren.map fun (argument, child) => ⟨child, some ⟨o.node.cls, argument⟩⟩

/-- Whether the node stands in the list of a `SELECT`. -/
def isResultColumn (o : Occurrence) : Bool :=
  o.slot? = some ⟨.select, "expressions"⟩

/-- Whether the node is the operand of a window. -/
def isWindowed (o : Occurrence) : Bool :=
  o.slot? = some ⟨.window, "this"⟩

def kinds (o : Occurrence) : List NodeKind :=
  if o.isResultColumn then [.resultColumn, o.node.cls.kind] else [o.node.cls.kind]

end Occurrence

/-- The clauses around a node. -/
structure Context where
  inWhere : Bool := false
  inFunction : Bool := false
  inGroupBy : Bool := false
  inOrderBy : Bool := false
  deriving DecidableEq

namespace Context

def root : Context := {}

def entering (context : Context) : NodeKind → Context
  | .whereClause => { context with inWhere := true }
  | .functionCall => { context with inFunction := true }
  | .groupBy => { context with inGroupBy := true }
  | .orderBy => { context with inOrderBy := true }
  | _ => context

/-- The context inside nodes of the given kinds, one in the other. -/
def enteringAll (context : Context) (kinds : List NodeKind) : Context :=
  kinds.foldl entering context

end Context

end SqlAdvisor
