import SqlAdvisor.Log
import SqlAdvisor.Statement.Basic
import SqlAdvisor.Traversal.Walk
import SqlAdvisor.Usage.Basic

/-! # Extracting column usage

One walk over a statement counts every column for the table that its qualifier means. The tables that the
statement names have their records beforehand; what belongs to none of them is met on the way.
-/

namespace SqlAdvisor

namespace TableUsages

/-- The table that a qualifier means, given the records so far. -/
def keyOf (usages : TableUsages) (aliases : AliasMap) (qualifier : String) : TableKey :=
  resolve qualifier aliases usages.knownTables

/-- Counts a column in its context. -/
def recordColumn (usages : TableUsages) (aliases : AliasMap) (column : Node) (context : Context) :
    TableUsages :=
  usages.update (usages.keyOf aliases column.qualifier) {} fun usage =>
    usage.addColumn column.columnLabel context

/-- Counts a star of a result list: a qualified one for its table, any other for every record so far,
    as there is no telling which columns it needs. -/
def recordStar (usages : TableUsages) (aliases : AliasMap) (star : Node) : TableUsages :=
  let qualifier := if star.cls = .column then star.qualifier else ""
  if qualifier.isEmpty then usages.mapValues fun usage => usage.addMarker "*"
  else
    usages.update (usages.keyOf aliases qualifier) {} fun usage =>
      usage.addMarker ("*(" ++ qualifier ++ ".*)")

/-- What one visited node adds to the records. -/
def observe (aliases : AliasMap) (o : Occurrence) (kind : NodeKind) (context : Context)
    (usages : TableUsages) : TableUsages :=
  match kind with
  | .resultColumn => if o.node.isStar then usages.recordStar aliases o.node else usages
  | .columnRef => if o.node.isStar then usages else usages.recordColumn aliases o.node context
  | _ => usages

end TableUsages

namespace Statement

def callName (statement : Statement) (ref : TableRef) : Label :=
  match ref.alias? with
  | some given => if given.truthy then given else unaliased
  | none => unaliased
where
  unaliased : Label := if statement.isSelect then ref.name else ref.simpleName

/-- The records of the tables that the statement names, before any column is counted. -/
def namedTables (statement : Statement) : TableUsages :=
  statement.tables.foldl (fun usages ref =>
    let key := TableKey.known ref.name
    if usages.contains key then usages
    else usages.insert key { aliasUsed := some (statement.callName ref) }) ∅

/-- Whether columns are looked for in the statement: in queries, updates and deletions. -/
def readsColumns : Statement → Bool
  | select _ | update _ | delete _ => true
  | _ => false

def usages (statement : Statement) (aliases : AliasMap) : TableUsages :=
  if statement.readsColumns then
    walk statement.node (.observing (TableUsages.observe aliases)) statement.namedTables
  else statement.namedTables

/-- Whether the search for a qualifier's table gets to a derived table without a name. -/
def meetsNameless (statement : Statement) (aliases : AliasMap) (qualifier : String) : Bool :=
  let lowered := Text.lower qualifier
  let named := statement.tables.takeWhile fun ref => !ref.isNameless
  named.length < statement.tables.length && !qualifier.isEmpty && (aliases.find? lowered).isNone &&
    !(named.map (·.name)).any (answersTo lowered)

/-- Why an observed node cannot be counted, if it cannot. -/
def observationFault? (statement : Statement) (aliases : AliasMap) (o : Occurrence) (kind : NodeKind) :
    Option Fault :=
  let isCounted := kind = .columnRef && !o.node.isStar || kind = .resultColumn && o.node.isStar
  if isCounted && o.node.cls = .column then
    if statement.meetsNameless aliases o.node.qualifier then some .lacksMember
    else o.node.columnFault?
  else none

/-- Why the statement's usage cannot be told, if it cannot: by the first column that cannot be counted, or by a
    derived table that has no name to be told under. -/
def usageFault? (statement : Statement) (aliases : AliasMap) : Option Fault :=
  let found :=
    if statement.readsColumns then
      walk statement.node (.observing fun o kind _ (found : Option Fault) =>
        found.or (statement.observationFault? aliases o kind)) none
    else none
  found.or (if statement.tables.any (·.isNameless) then some .wrongType else none)

/-- The usage records of a statement, with the log record that tells their number. -/
def extractUsages (statement : Statement) (aliases : AliasMap) : Except Fault (Logged TableUsages) :=
  match statement.usageFault? aliases with
  | some fault => .error fault
  | none =>
    let usages := statement.usages aliases
    let message := "Column usage extracted for " ++ toString usages.size ++ " table(s)"
    .ok ⟨usages, [⟨.debug, .usage, message⟩]⟩

/-- The alias map of a statement's tables. An alias that is no text cannot be looked up. -/
def aliasMap (statement : Statement) : Except Fault AliasMap :=
  if statement.tables.any (·.hasOddAlias) then .error .lacksMember else .ok (.ofRefs statement.tables)

end Statement

end SqlAdvisor
