import SqlAdvisor.Text.Blank
import SqlAdvisor.Text.Part
import SqlAdvisor.Traversal.Walk

/-! # Patterns that begin with a wildcard

A `LIKE` whose pattern begins with `%` cannot use an index. The pattern is read off the literal's SQL text,
without its quotes.
-/

namespace SqlAdvisor

/-- A text without white space around it and then without one pair of equal quotes. -/
def withoutQuotes (s : String) : String :=
  let stripped := Text.strip s
  match stripped.toList with
  | first :: second :: rest =>
    if (first = '\'' || first = '"') && (second :: rest).getLast? = some first then
      String.ofList (second :: rest).dropLast
    else stripped
  | _ => stripped

namespace Node

/-- The column and the string literal that the node compares by `LIKE`. -/
def likeOperands? (n : Node) : Option (Node × Node) :=
  if n.cls = .like || n.cls = .iLike then
    match n.child? "this", n.child? "expression" with
    | some column, some pattern =>
      if column.isPlainColumn && pattern.isStringLiteral then some (column, pattern) else none
    | _, _ => none
  else none

/-- The column that the node compares with a pattern that begins with a wildcard. -/
def leadingWildcardColumn? (n : Node) : Except Fault (Option Node) := do
  match n.likeOperands? with
  | some (column, pattern) =>
    return if Text.startsWith (withoutQuotes (← pattern.sql)) "%" then some column else none
  | none => return none

/-- The names of the columns of a condition that are compared with such a pattern, each once, in the order
    met. A column without a name cannot be listed. -/
def leadingWildcardColumns (condition : Node) : Except Fault (List String) := do
  let found ← walk condition (.observing fun o _ _ (found : Except Fault (List (Option String))) => do
    let columns ← found
    match ← o.node.leadingWildcardColumn? with
    | some column =>
      return if columns.contains column.columnName? then columns else columns ++ [column.columnName?]
    | none => return columns) (.ok [])
  found.mapM fun column => column.elim (.error .wrongType) .ok

end Node

end SqlAdvisor
