import SqlAdvisor.Explain.Row
import SqlAdvisor.Fault
import SqlAdvisor.Text.Part

/-! # Plan trees

A plan document is a tree of nodes, read here from data. `Plan.rows` lists the nodes that read a table, in
pre-order, as rows of the same columns as a tabular EXPLAIN. A sort or a temporary table above them is
noted at the first such node below it.
-/

namespace SqlAdvisor

/-- What a plan tells about one node. -/
structure PlanMetrics where
  nodeType : Datum
  relationName : Datum
  aliasName : Datum
  indexName : Datum
  planRows : Datum
  /-- The condition that the node filters or searches by. -/
  filter : Datum

/-- A node of a plan with the nodes it reads from. -/
inductive PlanNode where
  | mk (metrics : PlanMetrics) (children : List PlanNode)

namespace PlanNode

def metrics : PlanNode → PlanMetrics
  | .mk metrics _ => metrics

/-- The nodes that the node reads from. -/
def children : PlanNode → List PlanNode
  | .mk _ children => children

end PlanNode

namespace Plan

/-- The metrics in the entries of a node's table. -/
def metricsOf (entries : List (String × Datum)) : PlanMetrics :=
  let field (name : String) (absent : Datum) : Datum := (entries.lookup name).getD absent
  let text (name : String) : Datum := field name (.text "")
  { nodeType := text "Node Type"
    relationName := text "Relation Name"
    aliasName := text "Alias"
    indexName := text "Index Name"
    planRows := field "Plan Rows" (.int 0)
    filter := (text "Filter").orElse ((text "Index Cond").orElse (text "Recheck Cond")) }

/-- Why a text is no node: one that mentions its children cannot be indexed, any other has no fields. -/
def textFault (s : String) : Fault :=
  if Text.contains s "Plans" then .wrongType else .lacksMember

/-- Why the members of a list of texts are no nodes, unless there are none. -/
def noTexts : List String → Except Fault (List PlanNode)
  | [] => .ok []
  | first :: _ => .error (textFault first)

def isText (s : String) : Datum → Bool
  | .text value => value = s
  | _ => false

mutual

def node : Datum → Except Fault PlanNode
  | .table entries => do
    let children ← nodesIn entries
    return .mk (metricsOf entries) children
  | .list items => .error (if items.any (isText "Plans") then .wrongType else .lacksMember)
  | .text value => .error (textFault value)
  | _ => .error .wrongType

/-- The nodes listed under `Plans` in a node's table. -/
def nodesIn : List (String × Datum) → Except Fault (List PlanNode)
  | [] => .ok []
  | (name, value) :: rest =>
    if name = "Plans" then
      match value with
      | .list items => nodes items
      | .text value => noTexts (value.toList.map String.singleton)
      | .table entries => noTexts (entries.map Prod.fst)
      | _ => .error .wrongType
    else nodesIn rest

def nodes : List Datum → Except Fault (List PlanNode)
  | [] => .ok []
  | item :: rest => do
    let first ← node item
    return first :: (← nodes rest)

end

/-- The datum that describes the root of a plan document. A document is a node, or a table that holds one
    under `Plan`, or a list that begins with either. -/
def rootDatum (document : Datum) : Except Fault Datum := do
  let plan ←
    match document with
    | .list [] => throw .outOfRange
    | .list (first :: _) => pure first
    | other => pure other
  match plan with
  | .table entries => return (entries.lookup "Plan").getD plan
  | .list items => if items.any (isText "Plan") then throw .wrongType else return plan
  | .text value => if Text.contains value "Plan" then throw .wrongType else return plan
  | _ => throw .wrongType

def root (document : Datum) : Except Fault PlanNode := do
  node (← rootDatum document)

end Plan

mutual

/-- The nodes of a plan, each before those it reads from. -/
def PlanNode.preorder : PlanNode → List PlanNode
  | .mk metrics children => .mk metrics children :: PlanNode.preorderAll children

/-- The nodes of some plans, one plan after the other. -/
def PlanNode.preorderAll : List PlanNode → List PlanNode
  | [] => []
  | first :: rest => first.preorder ++ PlanNode.preorderAll rest

end

/-- What is to be noted at the next table that is read. -/
structure PlanNotes where
  filesort : Bool := false
  temporary : Bool := false
  deriving DecidableEq

namespace PlanNotes

/-- The notes in the words of a tabular EXPLAIN, in order. -/
def texts (notes : PlanNotes) : List String :=
  (if notes.filesort then ["Using filesort"] else []) ++
    (if notes.temporary then ["Using temporary"] else [])

/-- The notes after a node of the given type was met. A list or a table is no type. -/
def meeting (notes : PlanNotes) : Datum → Except Fault PlanNotes
  | .text "Sort" | .text "Incremental Sort" => .ok { notes with filesort := true }
  | .text "HashAggregate" | .text "Materialize" | .text "SetOp" =>
    .ok { notes with temporary := true }
  | .list _ | .table _ => .error .wrongType
  | _ => .ok notes

end PlanNotes

namespace PlanNode

/-- Whether the node scans an index for the bitmap of its parent. -/
def isBitmapIndexScan (n : PlanNode) : Bool := Plan.isText "Bitmap Index Scan" n.metrics.nodeType

/-- Whether the node reads a table of its own. -/
def readsTable (n : PlanNode) : Bool := n.metrics.relationName.truthy && !n.isBitmapIndexScan

/-- The access type of a scan; any other node's is its type in lower case. -/
def accessType (nodeType : String) : String :=
  match nodeType with
  | "Seq Scan" | "Parallel Seq Scan" => "ALL"
  | "Index Scan" | "Index Only Scan" => "ref"
  | "Bitmap Heap Scan" | "Bitmap Index Scan" => "range"
  | other => Text.lower other

/-- The index of the first child that scans one for the node's bitmap. -/
def bitmapIndex (n : PlanNode) : Datum :=
  match n.children.find? fun child => child.isBitmapIndexScan && child.metrics.indexName.truthy with
  | some child => child.metrics.indexName
  | none => .text ""

/-- The node's row, with its number and the notes that fall to it. -/
def toRow (n : PlanNode) (id : Nat) (notes : PlanNotes) : Except Fault ExplainRow := do
  let index := n.metrics.indexName.orElse n.bitmapIndex
  let extra := (if n.metrics.filter.truthy then ["Using where"] else []) ++ notes.texts
  match n.metrics.nodeType with
  | .text nodeType =>
    return .ofCells [
      ("id", .int id),
      ("table", n.metrics.aliasName.orElse n.metrics.relationName),
      ("type", .text (accessType nodeType)),
      ("possible_keys", index),
      ("key", index),
      ("rows", n.metrics.planRows),
      ("Extra", .text ("; ".intercalate extra))]
  | _ => throw .lacksMember

end PlanNode

namespace Plan

/-- Rows so far, and the notes for the next one. -/
structure Flattening where
  notes : PlanNotes := {}
  rows : List ExplainRow := []

/-- What one node adds. -/
def Flattening.add (state : Flattening) (n : PlanNode) : Except Fault Flattening := do
  let notes ← state.notes.meeting n.metrics.nodeType
  if n.readsTable then
    let row ← n.toRow (state.rows.length + 1) notes
    return { rows := state.rows ++ [row] }
  else return { state with notes := notes }

def rowsOf (root : PlanNode) : Except Fault (List ExplainRow) := do
  let final ← root.preorder.foldlM Flattening.add {}
  return final.rows

def rows (document : Datum) : Except Fault (List ExplainRow) := do
  rowsOf (← root document)

end Plan

end SqlAdvisor
