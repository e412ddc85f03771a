import SqlAdvisor.Datum
import SqlAdvisor.Dictionary
import SqlAdvisor.Statement.Basic
import SqlAdvisor.Traversal.Walk
import SqlAdvisor.Usage.Basic

/-! # Statistics of a statement

Counters and flags under fixed names. For a query, one walk counts calls, stars and conditions; the rest
comes from the statement's clauses.
-/

namespace SqlAdvisor

/-- The statistics of a statement, by name. -/
abbrev Statistics := Dictionary String Datum

/-- What a walk over a query counts. -/
structure Counts where
  calls : Nat := 0
  aggregates : Nat := 0
  windows : Nat := 0
  stars : Nat := 0
  conditions : Nat := 0
  deriving DecidableEq

/-- Whether nodes of the class count as conditions of a `WHERE` clause. -/
def NodeClass.isCondition (c : NodeClass) : Bool :=
  match c with
  | .andExpr | .orExpr | .eq | .neq | .gt | .gte | .lt | .lte | .nullSafeEq | .nullSafeNeq | .paren
  | .like | .iLike | .isTest | .between | .inList => true
  | _ => false

namespace Counts

def countIf (condition : Bool) (n : Nat) : Nat := if condition then n + 1 else n

def observe (o : Occurrence) (kind : NodeKind) (context : Context) (counts : Counts) : Counts :=
  let isCall := kind = .functionCall
  let isResult := kind = .resultColumn
  { calls := countIf isCall counts.calls
    aggregates := countIf (isCall && o.node.cls.isAggregate) counts.aggregates
    windows := countIf (isCall && o.isWindowed) counts.windows
    stars := countIf (isResult && o.node.isStar) counts.stars
    conditions :=
      countIf (context.inWhere && o.node.cls.isCondition && !isResult) counts.conditions }

def ofNode (n : Node) : Counts := walk n (.observing observe) {}

end Counts

def Datum.ofNat (n : Nat) : Datum := .int n

namespace SelectStatement

def statistics (s : SelectStatement) : List (String × Datum) :=
  let counts := Counts.ofNode s.node
  [("select_item_count", .ofNat s.resultColumns.length),
   ("uses_select_star", .bool (0 < counts.stars)),
   ("table_count", .ofNat s.tables.length),
   ("join_count", .ofNat s.joins.length),
   ("join_types", .list (s.joins.map fun join => .text join.kind)),
   ("has_where_clause", .bool (!s.condition.isNull)),
   ("where_condition_complexity", .ofNat counts.conditions),
   ("has_group_by_clause", .bool (!s.groupBy.isEmpty)),
   ("group_by_item_count", .ofNat s.groupBy.length),
   ("has_order_by_clause", .bool (!s.orderBy.isEmpty)),
   ("order_by_item_count", .ofNat s.orderBy.length),
   ("has_limit_clause", .bool s.hasLimit),
   ("is_distinct", .bool s.isDistinct),
   ("set_operation", .text (if s.setOperator = .none then "None" else s.setOperator.name)),
   ("function_call_count", .ofNat counts.calls),
   ("window_function_count", .ofNat counts.windows),
   ("aggregate_function_count", .ofNat counts.aggregates)]

end SelectStatement

namespace InsertStatement

/-- Where the inserted rows come from. -/
def sourceText (s : InsertStatement) : String :=
  if s.source.isSome then "SELECT Subquery"
  else match s.valuesRowCount with
    | some rows => "VALUES Clause (" ++ toString rows ++ " rows)"
    | none => "Default"

end InsertStatement

namespace Statement

/-- The name of a modification's target, as the statistics tell it. -/
def targetText (target : Option String) : String :=
  match target with
  | some name => if name.isEmpty then "UNKNOWN" else name
  | none => "UNKNOWN"

/-- The statistics that the statement's structure gives. -/
def structural : Statement → List (String × Datum)
  | select s => s.statistics
  | insert s =>
    [("target_table", .text (targetText s.target)),
     ("column_count", .ofNat s.columnCount),
     ("insert_source", .text s.sourceText)]
  | update s =>
    [("target_table", .text (targetText s.target)),
     ("set_column_count", .ofNat s.setColumnCount),
     ("has_where_clause", .bool (!s.condition.isNull))]
  | delete s =>
    [("target_table", .text (targetText s.target)),
     ("has_where_clause", .bool (!s.condition.isNull))]
  | other _ => [("statement_kind", .text "DDL/Custom")]

/-- The statement's statistics. Where its usage records are known, their totals follow. -/
def statistics (statement : Statement) (usages : Option TableUsages) : Statistics :=
  let totals : List (String × Datum) :=
    match usages with
    | some usages =>
      [("total_where_columns_used", .ofNat (total (·.filtering.size) usages.values)),
       ("total_functions_on_where_columns", .ofNat (total (·.wrapped.size) usages.values))]
    | none => []
  .ofList (statement.structural ++ totals)

end Statement

end SqlAdvisor
