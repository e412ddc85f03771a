import SqlAdvisor.Dictionary
import SqlAdvisor.NameSet
import SqlAdvisor.Traversal.Walk

/-! # Alternatives on different columns

The base columns of an expression are the columns it names outside calls and subqueries. An `OR` whose two
operands have different base columns is hard to serve from one index. The search for one builds the sets
from below, so that it looks at every node once however long a chain of `OR` is. A node takes over the set of its
first child and lets it grow, so that a chain grows one set.
-/

namespace SqlAdvisor

namespace Node

/-- The name under which a column counts among base columns, if the node is one. -/
def baseColumn? (n : Node) : Option String :=
  if n.isPlainColumn then n.columnName?.map Text.lower else none

/-- The names among the base columns of an expression, in lower case. -/
def namedBaseColumns (n : Node) : NameSet :=
  walk n {
    enter := fun o kind _ columns =>
      match kind with
      | .functionCall | .subquery => (columns, false)
      | .columnRef => ((o.node.baseColumn?.map columns.insert).getD columns, true)
      | _ => (columns, true) } ∅

/-- Whether a column without a name is among the base columns of an expression. -/
def hasNamelessBaseColumn (n : Node) : Bool :=
  walk n {
    enter := fun o kind _ found =>
      match kind with
      | .functionCall | .subquery => (found, false)
      | .columnRef => (found || o.node.isPlainColumn && o.node.columnName?.isNone, true)
      | _ => (found, true) } false

/-- The base columns of an expression, in lower case. What has no name has no lower case either. -/
def baseColumns (n : Node) : Except Fault NameSet :=
  if n.hasNamelessBaseColumn then .error .lacksMember else .ok n.namedBaseColumns

end Node

/-- An `OR`, and the columns that its operands are found to have when it is left. -/
structure Alternative where
  node : Node
  left : NameSet
  right : NameSet

/-- Whether the operands have columns, and not the same ones. -/
def Alternative.isSplit (alternative : Alternative) : Bool :=
  !alternative.left.isEmpty && !alternative.right.isEmpty && alternative.left ≠ alternative.right

/-- A node that is entered and not yet left. Nodes are told apart by the number under which they were entered. -/
structure OpenNode where
  number : Nat
  /-- The children entered so far, each with the argument that holds it. -/
  children : List (String × Nat) := []

/-- The state of the search for alternatives. -/
structure AlternativeSearch where
  /-- How many nodes were entered. -/
  entered : Nat := 0
  /-- The nodes that are entered and not yet left, the innermost first. -/
  opened : List OpenNode := []
  /-- The sets that were made. A set grows where the node that it belongs to is left for its parent. -/
  sets : Array NameSet := #[]
  /-- Which set belongs to a node that was left. -/
  columns : Dictionary Nat Nat := ∅
  /-- Every `OR` that was left, the latest first. -/
  alternatives : List Alternative := []

namespace AlternativeSearch

/-- Notes a node with its parent. -/
def note (slot? : Option Slot) (number : Nat) : List OpenNode → List OpenNode
  | [] => []
  | parent :: outer =>
    match slot? with
    | some slot => { parent with children := parent.children ++ [(slot.argument, number)] } :: outer
    | none => parent :: outer

/-- Enters a node under the next number. -/
def openNode (slot? : Option Slot) (search : AlternativeSearch) : AlternativeSearch :=
  { search with
    entered := search.entered + 1
    opened := { number := search.entered } :: note slot? search.entered search.opened }

/-- What entering a node does: calls and subqueries are not looked into. -/
def enter (o : Occurrence) (kind : NodeKind) (_ : Context) (search : AlternativeSearch) :
    AlternativeSearch × Bool :=
  match kind with
  | .resultColumn => (search, true)
  | .functionCall | .subquery => (search.openNode o.slot?, false)
  | _ => (search.openNode o.slot?, true)

/-- The columns found for the child that an argument holds directly. -/
def operand (search : AlternativeSearch) (n : Node) (children : List (String × Nat)) (argument : String) :
    NameSet :=
  if (n.child? argument).isSome then
    (do search.sets[← search.columns.find? (← children.lookup argument)]?).getD ∅
  else ∅

/-- Puts the members of another set into one. -/
def absorb (grown : Nat) (sets : Array NameSet) (other : Nat) : Array NameSet :=
  let members := sets[other]?.getD ∅
  sets.modify grown fun columns => columns.union members

/-- The set of a node whose children have the given ones: a new set, or the first child's, which grows. -/
def makeSet (n : Node) (kind : NodeKind) (parts : List Nat) (sets : Array NameSet) : Array NameSet × Nat :=
  match kind, parts with
  | .columnRef, _ => (sets.push ((n.baseColumn?.map NameSet.empty.insert).getD ∅), sets.size)
  | .functionCall, _ | .subquery, _ | _, [] => (sets.push ∅, sets.size)
  | _, first :: others => (others.foldl (absorb first) sets, first)

/-- What leaving a node does: its children's sets become its own, and none of the children has one any more. -/
def leave (o : Occurrence) (kind : NodeKind) (_ : Context) (search : AlternativeSearch) :
    AlternativeSearch :=
  match kind, search.opened with
  | .resultColumn, _ | _, [] => search
  | _, current :: outer =>
    let children := current.children
    let parts := children.filterMap fun child => search.columns.find? child.2
    let alternatives :=
      if o.node.cls = .orExpr then
        { node := o.node
          left := search.operand o.node children "this"
          right := search.operand o.node children "expression" } :: search.alternatives
      else search.alternatives
    let columns := children.foldl (fun columns child => columns.erase child.2) search.columns
    let (sets, own) := makeSet o.node kind parts search.sets
    { entered := search.entered
      opened := outer
      sets := sets
      columns := columns.insert current.number own
      alternatives := alternatives }

end AlternativeSearch

namespace Node

/-- Every `OR` in a condition outside calls and subqueries, with the columns found for its operands. -/
def alternatives (condition : Node) : List Alternative :=
  (walk condition ⟨AlternativeSearch.enter, AlternativeSearch.leave⟩ {}).alternatives

/-- Whether an `OR` in the condition has operands on different columns. All its base columns are compared by
    their names. -/
def hasSplitAlternative (condition : Node) : Except Fault Bool :=
  if condition.hasNamelessBaseColumn then .error .lacksMember
  else .ok (condition.alternatives.any Alternative.isSplit)

end Node

end SqlAdvisor
