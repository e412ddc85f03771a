/-! # Classes of syntax-tree nodes

Every node of a syntax tree belongs to one class. A class's family says which of the roles that the
analyses ask about it plays: function, aggregate, operator, predicate, connector, ordering. The classes that are
not listed differ from the listed ones by their names alone.
-/

namespace SqlAdvisor

/-! ## Families -/

/-- The groups into which the roles divide the classes. -/
inductive NodeClass.Family where
  /-- No role of its own. -/
  | plain
  /-- An operator with two operands. -/
  | binary
  /-- A function. -/
  | function
  /-- A function of many rows. -/
  | aggregate
  /-- A function written as an operator. -/
  | functionBinary
  /-- An operator that joins conditions. -/
  | connector
  /-- A function that is a condition. -/
  | functionPredicate
  /-- A function that is a condition, written as an operator. -/
  | functionPredicateBinary
  /-- A clause that orders rows. -/
  | ordering
  /-- A condition. -/
  | predicate
  /-- A condition that compares two operands. -/
  | predicateBinary
  /-- An operator with one operand. -/
  | unary
  deriving DecidableEq

namespace NodeClass.Family

def name : Family → String
  | plain => "plain"
  | binary => "binary"
  | function => "function"
  | aggregate => "aggregate"
  | functionBinary => "function_binary"
  | connector => "connector"
  | functionPredicate => "function_predicate"
  | functionPredicateBinary => "function_predicate_binary"
  | ordering => "ordering"
  | predicate => "predicate"
  | predicateBinary => "predicate_binary"
  | unary => "unary"

def every : List Family :=
  [plain, binary, function, aggregate, functionBinary, connector, functionPredicate, functionPredicateBinary,
   ordering, predicate, predicateBinary, unary]

def ofName? (name : String) : Option Family :=
  every.find? fun family => family.name = name

end NodeClass.Family

/-! ## Classes -/

/-- The class of a syntax-tree node. The listed ones have their families; any further class is known by its name and
    its family. -/
inductive NodeClass where
  | aliasExpr | alter | alterColumn | analyze | atTimeZone | block | boolLiteral | bracket | byteString
  | cte | cache | cluster | column | columnConstraint | columnDef | command | comment | commit
  | conditionalInsert | connect | copy | create | credentials | cube | dataType | declare
  | declareItem | delete | describe | distinct | drop | except | execute | fetch | filter
  | fromClause | grant | grantPrincipal | grantPrivilege | group | groupingSets | havingClause
  | identifier | ifBlock | ignoreNulls | index | indexParameters | indexTableHint | insert
  | intersect | interval | into | jsonPath | jsonPathKey | jsonPathRoot | join | kill | lateral
  | limit | limitOptions | literal | loadData | lock | merge | multitableInserts | national
  | nullLiteral | offset | onConflict | order | ordered | parameter | pivot | placeholder | pragma
  | prior | qualify | rawString | reference | returning | revoke | rollback | rollup | schema
  | select | setCommand | setItem | showInfo | star | subquery | table | tableAlias | tableSample
  | transaction | truncateTable | tuple | union | update | useCommand | userDefinedFunction | values
  | var | version | when | whens | whereClause | window | withClause | withTableHint | withinGroup
  | add | bitwiseAnd | bitwiseLeftShift | bitwiseOr | bitwiseRightShift | bitwiseXor | dPipe | div
  | dot | escape | intDiv | mod | mul | sub
  | abs | anonymous | array | arraySize | caseExpr | cast | coalesce | concat | convert
  | currentDate | currentTimestamp | date | dateAdd | dateTrunc | explodingGenerateSeries | extract
  | generateSeries | greatest | ifExpr | length | lower | matchAgainst | nullif | rand | rowNumber
  | strPosition | strToDate | struct | substring | timeToStr | timestampTrunc | toChar | trim
  | tryCast | tsOrDsToDate | tsOrDsToTimestamp | unnest | upper | year
  | arrayAgg | avg | count | firstValue | groupConcat | lag | max | min | percentileCont | rank
  | sum
  | collate | jsonExtract | jsonExtractScalar
  | andExpr | orExpr | xorExpr
  | existsQuery
  | arrayContainsAll | jsonbContainsTopKey | regexpILike | regexpLike
  | distribute | sort
  | allOf | anyOf | between | inList
  | eq | gt | gte | glob | iLike | isTest | lt | lte | like | neq | nullSafeEq | nullSafeNeq
  | overlaps | similarTo
  | bitwiseNot | neg | notExpr | paren
  | other (name : String) (family : NodeClass.Family)
  deriving DecidableEq

namespace NodeClass

def name : NodeClass → String
  | aliasExpr => "Alias"
  | alter => "Alter"
  | alterColumn => "AlterColumn"
  | analyze => "Analyze"
  | atTimeZone => "AtTimeZone"
  | block => "Block"
  | boolLiteral => "Boolean"
  | bracket => "Bracket"
  | byteString => "ByteString"
  | cte => "CTE"
  | cache => "Cache"
  | cluster => "Cluster"
  | column => "Column"
  | columnConstraint => "ColumnConstraint"
  | columnDef => "ColumnDef"
  | command => "Command"
  | comment => "Comment"
  | commit => "Commit"
  | conditionalInsert => "ConditionalInsert"
  | connect => "Connect"
  | copy => "Copy"
  | create => "Create"
  | credentials => "Credentials"
  | cube => "Cube"
  | dataType => "DataType"
  | declare => "Declare"
  | declareItem => "DeclareItem"
  | delete => "Delete"
  | describe => "Describe"
  | distinct => "Distinct"
  | drop => "Drop"
  | except => "Except"
  | execute => "Execute"
  | fetch => "Fetch"
  | filter => "Filter"
  | fromClause => "From"
  | grant => "Grant"
  | grantPrincipal => "GrantPrincipal"
  | grantPrivilege => "GrantPrivilege"
  | group => "Group"
  | groupingSets => "GroupingSets"
  | havingClause => "Having"
  | identifier => "Identifier"
  | ifBlock => "IfBlock"
  | ignoreNulls => "IgnoreNulls"
  | index => "Index"
  | indexParameters => "IndexParameters"
  | indexTableHint => "IndexTableHint"
  | insert => "Insert"
  | intersect => "Intersect"
  | interval => "Interval"
  | into => "Into"
  | jsonPath => "JSONPath"
  | jsonPathKey => "JSONPathKey"
  | jsonPathRoot => "JSONPathRoot"
  | join => "Join"
  | kill => "Kill"
  | lateral => "Lateral"
  | limit => "Limit"
  | limitOptions => "LimitOptions"
  | literal => "Literal"
  | loadData => "LoadData"
  | lock => "Lock"
  | merge => "Merge"
  | multitableInserts => "MultitableInserts"
  | national => "National"
  | nullLiteral => "Null"
  | offset => "Offset"
  | onConflict => "OnConflict"
  | order => "Order"
  | ordered => "Ordered"
  | parameter => "Parameter"
  | pivot => "Pivot"
  | placeholder => "Placeholder"
  | pragma => "Pragma"
  | prior => "Prior"
  | qualify => "Qualify"
  | rawString => "RawString"
  | reference => "Reference"
  | returning => "Returning"
  | revoke => "Revoke"
  | rollback => "Rollback"
  | rollup => "Rollup"
  | schema => "Schema"
  | select => "Select"
  | setCommand => "Set"
  | setItem => "SetItem"
  | showInfo => "Show"
  | star => "Star"
  | subquery => "Subquery"
  | table => "Table"
  | tableAlias => "TableAlias"
  | tableSample => "TableSample"
  | transaction => "Transaction"
  | truncateTable => "TruncateTable"
  | tuple => "Tuple"
  | union => "Union"
  | update => "Update"
  | useCommand => "Use"
  | userDefinedFunction => "UserDefinedFunction"
  | values => "Values"
  | var => "Var"
  | version => "Version"
  | when => "When"
  | whens => "Whens"
  | whereClause => "Where"
  | window => "Window"
  | withClause => "With"
  | withTableHint => "WithTableHint"
  | withinGroup => "WithinGroup"
  | add => "Add"
  | bitwiseAnd => "BitwiseAnd"
  | bitwiseLeftShift => "BitwiseLeftShift"
  | bitwiseOr => "BitwiseOr"
  | bitwiseRightShift => "BitwiseRightShift"
  | bitwiseXor => "BitwiseXor"
  | dPipe => "DPipe"
  | div => "Div"
  | dot => "Dot"
  | escape => "Escape"
  | intDiv => "IntDiv"
  | mod => "Mod"
  | mul => "Mul"
  | sub => "Sub"
  | abs => "Abs"
  | anonymous => "Anonymous"
  | array => "Array"
  | arraySize => "ArraySize"
  | caseExpr => "Case"
  | cast => "Cast"
  | coalesce => "Coalesce"
  | concat => "Concat"
  | convert => "Convert"
  | currentDate => "CurrentDate"
  | currentTimestamp => "CurrentTimestamp"
  | date => "Date"
  | dateAdd => "DateAdd"
  | dateTrunc => "DateTrunc"
  | explodingGenerateSeries => "ExplodingGenerateSeries"
  | extract => "Extract"
  | generateSeries => "GenerateSeries"
  | greatest => "Greatest"
  | ifExpr => "If"
  | length => "Length"
  | lower => "Lower"
  | matchAgainst => "MatchAgainst"
  | nullif => "Nullif"
  | rand => "Rand"
  | rowNumber => "RowNumber"
  | strPosition => "StrPosition"
  | strToDate => "StrToDate"
  | struct => "Struct"
  | substring => "Substring"
  | timeToStr => "TimeToStr"
  | timestampTrunc => "TimestampTrunc"
  | toChar => "ToChar"
  | trim => "Trim"
  | tryCast => "TryCast"
  | tsOrDsToDate => "TsOrDsToDate"
  | tsOrDsToTimestamp => "TsOrDsToTimestamp"
  | unnest => "Unnest"
  | upper => "Upper"
  | year => "Year"
  | arrayAgg => "ArrayAgg"
  | avg => "Avg"
  | count => "Count"
  | firstValue => "FirstValue"
  | groupConcat => "GroupConcat"
  | lag => "Lag"
  | max => "Max"
  | min => "Min"
  | percentileCont => "PercentileCont"
  | rank => "Rank"
  | sum => "Sum"
  | collate => "Collate"
  | jsonExtract => "JSONExtract"
  | jsonExtractScalar => "JSONExtractScalar"
  | andExpr => "And"
  | orExpr => "Or"
  | xorExpr => "Xor"
  | existsQuery => "Exists"
  | arrayContainsAll => "ArrayContainsAll"
  | jsonbContainsTopKey => "JSONBContainsTopKey"
  | regexpILike => "RegexpILike"
  | regexpLike => "RegexpLike"
  | distribute => "Distribute"
  | sort => "Sort"
  | allOf => "All"
  | anyOf => "Any"
  | between => "Between"
  | inList => "In"
  | eq => "EQ"
  | gt => "GT"
  | gte => "GTE"
  | glob => "Glob"
  | iLike => "ILike"
  | isTest => "Is"
  | lt => "LT"
  | lte => "LTE"
  | like => "Like"
  | neq => "NEQ"
  | nullSafeEq => "NullSafeEQ"
  | nullSafeNeq => "NullSafeNEQ"
  | overlaps => "Overlaps"
  | similarTo => "SimilarTo"
  | bitwiseNot => "BitwiseNot"
  | neg => "Neg"
  | notExpr => "Not"
  | paren => "Paren"
  | other name _ => name

/-- The classes that are listed. -/
def every : List NodeClass :=
  [aliasExpr, alter, alterColumn, analyze, atTimeZone, block, boolLiteral, bracket, byteString, cte,
   cache, cluster, column, columnConstraint, columnDef, command, comment, commit, conditionalInsert,
   connect, copy, create, credentials, cube, dataType, declare, declareItem, delete, describe,
   distinct, drop, except, execute, fetch, filter, fromClause, grant, grantPrincipal,
   grantPrivilege, group, groupingSets, havingClause, identifier, ifBlock, ignoreNulls, index,
   indexParameters, indexTableHint, insert, intersect, interval, into, jsonPath, jsonPathKey,
   jsonPathRoot, join, kill, lateral, limit, limitOptions, literal, loadData, lock, merge,
   multitableInserts, national, nullLiteral, offset, onConflict, order, ordered, parameter, pivot,
   placeholder, pragma, prior, qualify, rawString, reference, returning, revoke, rollback, rollup,
   schema, select, setCommand, setItem, showInfo, star, subquery, table, tableAlias, tableSample,
   transaction, truncateTable, tuple, union, update, useCommand, userDefinedFunction, values, var,
   version, when, whens, whereClause, window, withClause, withTableHint, withinGroup, add,
   bitwiseAnd, bitwiseLeftShift, bitwiseOr, bitwiseRightShift, bitwiseXor, dPipe, div, dot, escape,
   intDiv, mod, mul, sub, abs, anonymous, array, arraySize, caseExpr, cast, coalesce, concat,
   convert, currentDate, currentTimestamp, date, dateAdd, dateTrunc, explodingGenerateSeries,
   extract, generateSeries, greatest, ifExpr, length, lower, matchAgainst, nullif, rand, rowNumber,
   strPosition, strToDate, struct, substring, timeToStr, timestampTrunc, toChar, trim, tryCast,
   tsOrDsToDate, tsOrDsToTimestamp, unnest, upper, year, arrayAgg, avg, count, firstValue,
   groupConcat, lag, max, min, percentileCont, rank, sum, collate, jsonExtract, jsonExtractScalar,
   andExpr, orExpr, xorExpr, existsQuery, arrayContainsAll, jsonbContainsTopKey, regexpILike,
   regexpLike, distribute, sort, allOf, anyOf, between, inList, eq, gt, gte, glob, iLike, isTest,
   lt, lte, like, neq, nullSafeEq, nullSafeNeq, overlaps, similarTo, bitwiseNot, neg, notExpr,
   paren]

def ofName? (name : String) : Option NodeClass :=
  every.find? fun c => c.name = name

/-- The family of a class. -/
def family : NodeClass → Family
  | add | bitwiseAnd | bitwiseLeftShift | bitwiseOr | bitwiseRightShift | bitwiseXor | dPipe
  | div | dot | escape | intDiv | mod | mul | sub => .binary
  | abs | anonymous | array | arraySize | caseExpr | cast | coalesce | concat | convert
  | currentDate | currentTimestamp | date | dateAdd | dateTrunc | explodingGenerateSeries
  | extract | generateSeries | greatest | ifExpr | length | lower | matchAgainst | nullif | rand
  | rowNumber | strPosition | strToDate | struct | substring | timeToStr | timestampTrunc
  | toChar | trim | tryCast | tsOrDsToDate | tsOrDsToTimestamp | unnest | upper | year => .function
  | arrayAgg | avg | count | firstValue | groupConcat | lag | max | min | percentileCont | rank
  | sum => .aggregate
  | collate | jsonExtract | jsonExtractScalar => .functionBinary
  | andExpr | orExpr | xorExpr => .connector
  | existsQuery => .functionPredicate
  | arrayContainsAll | jsonbContainsTopKey | regexpILike | regexpLike => .functionPredicateBinary
  | distribute | sort => .ordering
  | allOf | anyOf | between | inList => .predicate
  | eq | gt | gte | glob | iLike | isTest | lt | lte | like | neq | nullSafeEq | nullSafeNeq
  | overlaps | similarTo => .predicateBinary
  | bitwiseNot | neg | notExpr | paren => .unary
  | other _ family => family
  | _ => .plain

/-- Whether nodes of the class are functions, among them those written as operators. -/
def isFunction (c : NodeClass) : Bool :=
  match c.family with
  | .function | .aggregate | .functionBinary | .connector | .functionPredicate
  | .functionPredicateBinary => true
  | _ => false

def isAggregate (c : NodeClass) : Bool :=
  c.family = .aggregate

def isBinary (c : NodeClass) : Bool :=
  match c.family with
  | .binary | .functionBinary | .connector | .functionPredicateBinary | .predicateBinary => true
  | _ => false

def isPredicate (c : NodeClass) : Bool :=
  match c.family with
  | .functionPredicate | .functionPredicateBinary | .predicate | .predicateBinary => true
  | _ => false

/-- Whether nodes of the class join conditions. -/
def isConnector (c : NodeClass) : Bool :=
  c.family = .connector

def isUnary (c : NodeClass) : Bool :=
  c.family = .unary

/-- Whether nodes of the class order rows. -/
def isOrdering (c : NodeClass) : Bool :=
  c = order || c.family = .ordering

def isSetOperation (c : NodeClass) : Bool :=
  c = union || c = intersect || c = except

/-- Whether nodes of the class are calls. A function that is a connector, a predicate or an operator in
    SQL text is none, nor are `CASE` and `IF`. -/
def isCall (c : NodeClass) : Bool :=
  c.isFunction && !(c.isConnector || c.isPredicate || c.isUnary || c = caseExpr || c = ifExpr)

end NodeClass

end SqlAdvisor
