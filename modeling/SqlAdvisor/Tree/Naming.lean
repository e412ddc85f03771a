import SqlAdvisor.Fault
import SqlAdvisor.Text.Case
import SqlAdvisor.Tree.Label
import SqlAdvisor.Tree.Node

/-! # Names, aliases and SQL text of nodes

`named` reads what one argument names, `name` and `aliasName` say how a node is called, and `sql` how it is
written. What is named is a text, unless an identifier, literal or variable holds something else or nothing. A
name that should come from a child, where there is none, is a fault.
-/

namespace SqlAdvisor

namespace Argument

def text? : Argument → Option String
  | .text value => some value
  | _ => none

/-- The label that the argument is: anything but a node or a list. -/
def label? : Argument → Option Label
  | .null => some .nothing
  | .flag value => some (.flag value)
  | .number value => some (.number value)
  | .float shown => some (.float shown)
  | .text value => some (.text value)
  | .node _ | .list _ => none

/-- The text that the argument is; anything else is a fault. -/
def requireText : Argument → Except Fault String
  | .text value => .ok value
  | _ => .error .lacksMember

end Argument

namespace Node

/-- What an argument names: its own text, or what the identifier, literal or variable in it holds. -/
def named (n : Node) (name : String) : Argument :=
  match n.arg name with
  | .text value => .text value
  | .node child =>
    match child.cls with
    | .identifier | .literal | .var => child.arg "this"
    | .star => .text "*"
    | .nullLiteral => .text "NULL"
    | _ => .text ""
  | _ => .text ""

/-- What the node is called. A dotted reference is called by its last part; a table is called by what it
    refers to, unless that is missing or a function; a placeholder without a name is `?`. -/
def name (n : Node) : Except Fault Argument :=
  match n.cls with
  | .star => .ok (.text "*")
  | .nullLiteral => .ok (.text "NULL")
  | .dot =>
    match _h : n.child? "expression" with
    | some last => last.name
    | none => .error .lacksMember
  | .anonymous =>
    match _h : n.child? "this" with
    | some inner => inner.name
    | none =>
      match n.arg "this" with
      | .text value => .ok (.text value)
      | _ => .error .lacksMember
  | .table =>
    match _h : n.child? "this" with
    | some inner => if inner.cls.isFunction then .ok (.text "") else inner.name
    | none => if (n.arg "this").truthy then .error .lacksMember else .ok (.text "")
  | .placeholder =>
    let given := n.named "this"
    .ok (if given.truthy then given else .text "?")
  | _ => .ok (n.named "this")
termination_by n.size
decreasing_by all_goals exact size_lt_of_child? _h

/-- The alias under which the node can be addressed. Without one it is the empty text. -/
def aliasName (n : Node) : Except Fault Argument :=
  match n.child? "alias" with
  | some inner => inner.name
  | none => .ok (n.named "alias")

def isStringLiteral (n : Node) : Bool :=
  n.cls = .literal && (n.arg "is_string").truthy

/-- A text in single quotes, each quote inside it twice. -/
def quotedLiteral (content : String) : String :=
  "'" ++ String.ofList (content.toList.flatMap fun c => if c = '\'' then [c, c] else [c]) ++ "'"

/-- The node's SQL text. Where none is known, a string literal is written in quotes, and any other node as the
    empty text. -/
def sql (n : Node) : Except Fault String :=
  match n.sql? with
  | some written => .ok written
  | none =>
    if n.isStringLiteral then return quotedLiteral (← (n.arg "this").requireText)
    else .ok ""

/-- The items of a node's expression list. Anything but a list, a text or nothing has no items. -/
def items (n : Node) (argument : String) : Except Fault (List Argument) :=
  match n.arg argument with
  | .list items => .ok items
  | .text value => .ok (value.toList.map fun c => .text (String.singleton c))
  | other => if other.truthy then .error .wrongType else .ok []

/-- Whether the node is a star: alone, or as the column of a qualified one. -/
def isStar (n : Node) : Bool :=
  n.cls = .star || n.cls = .column &&
    match n.child? "this" with
    | some inner => inner.cls = .star
    | none => false

/-- Whether the node is a column of a name, and no star. -/
def isPlainColumn (n : Node) : Bool :=
  n.cls = .column && !n.isStar

def columnLabel (n : Node) : Label := ((n.named "this").label?).getD .nothing

def columnName? (n : Node) : Option String := (n.named "this").text?

/-- The qualifier in front of a column's name, or the empty text. -/
def qualifier (n : Node) : String := (n.named "table").text?.getD ""

/-- Why a column cannot be counted: its qualifier is no text, or it is called by something that is no label. -/
def columnFault? (n : Node) : Option Fault :=
  let qualifier := n.named "table"
  if qualifier.truthy && qualifier.text?.isNone then some .lacksMember
  else if n.isPlainColumn && (n.named "this").label?.isNone then some .wrongType
  else none

end Node

end SqlAdvisor
