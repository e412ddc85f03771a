import SqlAdvisor.Datum.Checked
import SqlAdvisor.Hint.Alternative
import SqlAdvisor.Hint.Pattern
import SqlAdvisor.Hint.Wording
import SqlAdvisor.Log
import SqlAdvisor.Statistics

/-! # Hint rules

The rules of a statement's kind apply in a fixed order and independently of each other. A statement that
none of them finds fault with gets one hint that says so.
-/

namespace SqlAdvisor

namespace Hint

/-- A statistic, or nothing. -/
def statistic (stats : Statistics) (name : String) : Datum := (stats.find? name).getD .null

/-! ## Queries -/

/-- Hints on a missing `WHERE` clause: several tables without one may multiply, one is read whole. -/
def unfiltered (stats : Statistics) : Except Fault (List Hint) := do
  if (statistic stats "has_where_clause").truthy then return []
  let tableCount := (stats.find? "table_count").getD (.int 0)
  if ← tableCount.exceeds 1 then return [cartesianProduct tableCount]
  if tableCount.isOne then return [fullScan]
  return []

/-- The SQL text of an item that is not a plain column. -/
def expressionText? : Argument → Except Fault (Option String)
  | .node n => if n.isPlainColumn then .ok none else return some (← n.sql)
  | .null => .ok (some "NULL")
  | _ => .error .lacksMember

/-- One hint for every item that is not a plain column. -/
def onExpressions (hint : String → Hint) (items : List Argument) : Except Fault (List Hint) := do
  return ((← items.mapM expressionText?).filterMap id).map hint

def onCondition : Argument → Except Fault (List Hint)
  | .null => .ok []
  | .node condition => do
    let columns ← condition.leadingWildcardColumns
    let isSplit ← condition.hasSplitAlternative
    return (if columns.isEmpty then [] else [leadingWildcard columns]) ++
      (if isSplit then [splitAlternative] else [])
  | _ => .error .lacksMember

/-- One hint for every record with columns in a call. -/
def onWrapped (usages : TableUsages) : Except Fault (List Hint) :=
  (usages.entries.filter fun entry => !entry.2.wrapped.isEmpty).mapM fun (key, usage) =>
    return wrappedColumns key (← usage.wrapped.namesInOrder)

def ofSelect (s : SelectStatement) (usages : TableUsages) (stats : Statistics) :
    Except Fault (List Hint) := do
  let star := if (statistic stats "uses_select_star").truthy then [selectStar] else []
  let wrapped ← onWrapped usages
  let unfiltered ← unfiltered stats
  let ordering ← onExpressions orderByExpression s.orderBy
  let grouping ← onExpressions groupByExpression s.groupBy
  let condition ← onCondition s.condition
  let distinct := if (statistic stats "is_distinct").truthy then [selectDistinct] else []
  let hints := star ++ wrapped ++ unfiltered ++ ordering ++ grouping ++ condition ++ distinct
  return if hints.isEmpty then [noIssues] else hints

/-! ## Other statements -/

/-- The most rows after `VALUES` that are not many. -/
def largeValuesRowCount : Nat := 50

def ofInsert (s : InsertStatement) : Hint :=
  if s.source.isSome then insertSelect
  else match s.valuesRowCount with
    | some rows => if largeValuesRowCount < rows then largeValues rows else basicAnalysis "INSERT"
    | none => basicAnalysis "INSERT"

/-- The record of a modification's target, or else the only record. A target that cannot be a table's
    name, because it has no identity, is a fault. -/
def targetUsage? (target : Datum) (usages : TableUsages) : Except Fault (Option TableUsage) :=
  let only? : Option TableUsage :=
    match usages.values with
    | [only] => some only
    | _ => none
  match target with
  | .text name => .ok ((usages.find? (.known name)).or only?)
  | .list _ | .table _ => .error .wrongType
  | _ => .ok only?

/-- The hint on an `UPDATE` or a `DELETE`, whose target the statistics tell. A target without a record is
    told in the log. -/
def ofModification (verb : String) (condition : Argument) (withoutCondition : String → Hint)
    (usages : TableUsages) (stats : Statistics) : Except Fault (Logged Hint) := do
  let target := (stats.find? "target_table").getD (.text "UNKNOWN")
  if condition.isNull then return ⟨withoutCondition target.display, []⟩
  match ← targetUsage? target usages with
  | none =>
    let message :=
      "Could not find table details for '" ++ target.display ++ "' to check WHERE functions."
    return ⟨basicAnalysis verb, [⟨.warning, .hints, message⟩]⟩
  | some usage =>
    if usage.wrapped.isEmpty then return ⟨basicAnalysis verb, []⟩
    else return ⟨wrappedInModification (← usage.wrapped.namesInOrder) verb, []⟩

/-- The hints on a statement, from its usage records and statistics. -/
def ofStatement (statement : Statement) (usages : TableUsages) (stats : Statistics) :
    Except Fault (Logged (List Hint)) := do
  match statement with
  | .select s => return ⟨← ofSelect s usages stats, []⟩
  | .insert s => return ⟨[ofInsert s], []⟩
  | .update s => return (← ofModification "UPDATE" s.condition updateAll usages stats).map ([·])
  | .delete s => return (← ofModification "DELETE" s.condition deleteAll usages stats).map ([·])
  | .other s => return ⟨[otherStatement s.kindName], []⟩

end Hint

end SqlAdvisor
