import SqlAdvisor.Proofs.Hint.Alternatives
import SqlAdvisor.Proofs.Hint.Completeness

/-! # Splits

An `OR` is split if both operands have base columns, and not the same ones. In a condition as a parser makes it, the
search compares the base columns that a walk over each operand gives, so that it finds a split exactly if there is one
outside calls and subqueries. The hint on a query tells what the search finds, and so also a split where the columns
of one operand contain those of the other.
-/

namespace SqlAdvisor

def NameSet.Differ (left right : NameSet) : Prop := left ≠ ∅ ∧ right ≠ ∅ ∧ left ≠ right

/-- Neither set contains the other. -/
def NameSet.AreIncomparable (left right : NameSet) : Prop :=
  (∃ name ∈ left, name ∉ right) ∧ ∃ name ∈ right, name ∉ left

theorem NameSet.AreIncomparable.differ {left right : NameSet} (apart : left.AreIncomparable right) :
    left.Differ right := by
  obtain ⟨⟨name, inLeft, notRight⟩, other, inRight, -⟩ := apart
  refine ⟨?_, ?_, ?_⟩
  · rintro rfl
    exact not_mem_empty inLeft
  · rintro rfl
    exact not_mem_empty inRight
  · rintro rfl
    exact notRight inLeft

theorem NameSet.isEmpty_iff {columns : NameSet} : columns.isEmpty = true ↔ columns = ∅ := by
  constructor
  · intro empty
    refine ext fun name => ?_
    rw [← mem_toList, List.isEmpty_iff.mp empty]
    simp
  · rintro rfl
    rfl

theorem Alternative.isSplit_iff {alternative : Alternative} :
    alternative.isSplit = true ↔ alternative.left.Differ alternative.right := by
  simp only [isSplit, NameSet.Differ, Bool.and_eq_true, Bool.not_eq_true', ← Bool.not_eq_true, NameSet.isEmpty_iff,
    decide_eq_true_eq, and_assoc, ne_eq]

namespace Node

variable {root n child : Node} {argument : String} {columns left right : NameSet}

theorem baseColumns_eq_ok :
    n.baseColumns = .ok columns ↔ n.hasNamelessBaseColumn = false ∧ n.namedBaseColumns = columns := by
  rw [baseColumns]
  cases n.hasNamelessBaseColumn <;> simp

/-! ## Operands -/

/-- The operands of every `OR` in the tree are nodes. -/
def HasOperands (root : Node) : Prop :=
  ∀ n ∈ root.nodes, n.cls = .orExpr → (n.child? "this").isSome = true ∧ (n.child? "expression").isSome = true

def hasOperands (root : Node) : Bool :=
  root.nodes.all fun n => n.cls ≠ .orExpr || (n.child? "this").isSome && (n.child? "expression").isSome

theorem hasOperands_iff : n.hasOperands = true ↔ n.HasOperands := by
  simp [hasOperands, HasOperands, ← imp_iff_not_or]

/-- The two sets are the base columns of the operands. -/
def HasOperandColumns (n : Node) (left right : NameSet) : Prop :=
  (∃ operand, n.child? "this" = some operand ∧ operand.baseColumns = .ok left) ∧
    ∃ operand, n.child? "expression" = some operand ∧ operand.baseColumns = .ok right

theorem HasOperandColumns.unique {left' right' : NameSet} (first : n.HasOperandColumns left right)
    (second : n.HasOperandColumns left' right') : left = left' ∧ right = right' := by
  obtain ⟨⟨_, isLeft, ofLeft⟩, _, isRight, ofRight⟩ := first
  obtain ⟨⟨_, isLeft', ofLeft'⟩, _, isRight', ofRight'⟩ := second
  rw [isLeft, Option.some.injEq] at isLeft'
  rw [isRight, Option.some.injEq] at isRight'
  subst isLeft' isRight'
  rw [ofLeft, Except.ok.injEq] at ofLeft'
  rw [ofRight, Except.ok.injEq] at ofRight'
  exact ⟨ofLeft', ofRight'⟩

theorem operandColumns_eq (flat : root.NestsNoColumn) (mem : n ∈ root.nodes) (held : n.child? argument = some child) :
    n.operandColumns argument = child.namedBaseColumns := by
  rw [operandColumns, held]
  exact (flat.below (mem_nodes_child mem held)).outermostColumns_eq

theorem baseColumns_operand (flat : root.NestsNoColumn) (mem : n ∈ root.nodes) (isOr : n.cls = .orExpr)
    (named : n.hasNamelessBaseColumn = false) (held : n.child? argument = some child) :
    child.baseColumns = .ok (n.operandColumns argument) := by
  have unsealed : n.cls.isSealed = false := by
    rw [isOr]
    decide
  have reached : child ∈ n.nodesOutside NodeClass.isSealed :=
    mem_nodesOutside.mpr (.inr ⟨unsealed, child, mem_children_of_child? held, child.self_mem_nodesOutside _⟩)
  exact baseColumns_eq_ok.mpr ⟨hasNamelessBaseColumn_of_mem named reached, (operandColumns_eq flat mem held).symm⟩

theorem hasOperandColumns_iff (flat : root.NestsNoColumn) (binary : root.HasOperands) (mem : n ∈ root.nodes)
    (isOr : n.cls = .orExpr) (named : n.hasNamelessBaseColumn = false) :
    n.HasOperandColumns left right ↔ n.operandColumns "this" = left ∧ n.operandColumns "expression" = right := by
  obtain ⟨isFirst, isSecond⟩ := binary n mem isOr
  obtain ⟨first, isFirst⟩ := Option.isSome_iff_exists.mp isFirst
  obtain ⟨second, isSecond⟩ := Option.isSome_iff_exists.mp isSecond
  have ofFirst := baseColumns_operand flat mem isOr named isFirst
  have ofSecond := baseColumns_operand flat mem isOr named isSecond
  simp [HasOperandColumns, isFirst, isSecond, ofFirst, ofSecond]

/-! ## The search for a split -/

/-- The operands of an `OR` have base columns, and not the same ones. -/
def IsSplit (n : Node) : Prop := ∃ left right, n.HasOperandColumns left right ∧ left.Differ right

/-- Each operand of an `OR` has a base column that the other one has not. -/
def IsApart (n : Node) : Prop := ∃ left right, n.HasOperandColumns left right ∧ left.AreIncomparable right

theorem IsApart.isSplit (apart : n.IsApart) : n.IsSplit := by
  obtain ⟨left, right, columns, incomparable⟩ := apart
  exact ⟨left, right, columns, incomparable.differ⟩

/-- The search finds a split by the outermost columns of the operands. -/
theorem hasSplitAlternative_eq_ok {found : Bool} :
    root.hasSplitAlternative = .ok found ↔ root.hasNamelessBaseColumn = false ∧
      (found = true ↔ ∃ n ∈ root.disjunctions, (n.operandColumns "this").Differ (n.operandColumns "expression")) := by
  have any : root.alternatives.any Alternative.isSplit = true ↔
      ∃ n ∈ root.disjunctions, (n.operandColumns "this").Differ (n.operandColumns "expression") := by
    rw [root.alternatives_perm.any_eq, comparisons, List.any_map, List.any_eq_true]
    exact exists_congr fun n => and_congr_right fun _ => Alternative.isSplit_iff
  rw [hasSplitAlternative, ← any]
  cases root.hasNamelessBaseColumn with
  | true => simp
  | false =>
      have same : root.alternatives.any Alternative.isSplit = found ↔
          (found = true ↔ root.alternatives.any Alternative.isSplit = true) := by
        rw [← Bool.eq_iff_iff, eq_comm]
      simpa using same

theorem mem_nodes_of_mem_disjunctions (mem : n ∈ root.disjunctions) : n ∈ root.nodes ∧ n.cls = .orExpr := by
  obtain ⟨reached, isOr⟩ := mem_disjunctions.mp mem
  exact ⟨nodesOutside_subset_nodes reached, isOr⟩

theorem isSplit_iff (flat : root.NestsNoColumn) (binary : root.HasOperands)
    (named : root.hasNamelessBaseColumn = false) (mem : n ∈ root.disjunctions) :
    n.IsSplit ↔ (n.operandColumns "this").Differ (n.operandColumns "expression") := by
  obtain ⟨inTree, isOr⟩ := mem_nodes_of_mem_disjunctions mem
  have named := hasNamelessBaseColumn_of_mem named (mem_disjunctions.mp mem).1
  rw [IsSplit]
  constructor
  · rintro ⟨left, right, columns, differ⟩
    obtain ⟨rfl, rfl⟩ := (hasOperandColumns_iff flat binary inTree isOr named).mp columns
    exact differ
  · intro differ
    exact ⟨_, _, (hasOperandColumns_iff flat binary inTree isOr named).mpr ⟨rfl, rfl⟩, differ⟩

theorem hasSplitAlternative_iff {found : Bool} (flat : root.NestsNoColumn) (binary : root.HasOperands)
    (searched : root.hasSplitAlternative = .ok found) : found = true ↔ ∃ n ∈ root.disjunctions, n.IsSplit := by
  obtain ⟨named, found⟩ := hasSplitAlternative_eq_ok.mp searched
  rw [found]
  exact exists_congr fun n => and_congr_right fun mem => (isSplit_iff flat binary named mem).symm

end Node

/-- Where no column lies below another one and the operands of each `OR` are nodes, the search compares every `OR`
    outside calls and subqueries once, by the base columns that a walk over each operand gives. It fails exactly if a
    base column has no name. Otherwise it finds a split exactly if the operands of such an `OR` both have base columns,
    and not the same ones. -/
theorem alternatives_tell_baseColumns {condition : Node} (flat : condition.NestsNoColumn)
    (binary : condition.HasOperands) :
    (condition.alternatives.map (·.node)).Perm condition.disjunctions ∧
    (∀ alternative ∈ condition.alternatives, ∀ columns, alternative.node.baseColumns = .ok columns →
      alternative.node.HasOperandColumns alternative.left alternative.right) ∧
    (∀ fault, condition.hasSplitAlternative = .error fault ↔ condition.baseColumns = .error fault) ∧
    ∀ columns, condition.baseColumns = .ok columns → ∃ found, condition.hasSplitAlternative = .ok found ∧
      (found = true ↔ ∃ n ∈ condition.disjunctions, n.IsSplit) := by
  refine ⟨?compared, ?told, ?faults, ?finds⟩
  case compared =>
    have nodes := condition.alternatives_perm.map (·.node)
    rw [Node.comparisons, List.map_map] at nodes
    exact nodes.trans (.of_eq (List.map_id _))
  case told =>
    intro alternative mem columns named
    obtain ⟨n, isDisjunction, rfl⟩ := List.mem_map.mp (condition.alternatives_perm.mem_iff.mp mem)
    obtain ⟨inTree, isOr⟩ := Node.mem_nodes_of_mem_disjunctions isDisjunction
    have named := (Node.baseColumns_eq_ok.mp named).1
    exact (Node.hasOperandColumns_iff flat binary inTree isOr named).mpr ⟨rfl, rfl⟩
  case faults =>
    intro fault
    rw [Node.hasSplitAlternative, Node.baseColumns]
    cases condition.hasNamelessBaseColumn <;> simp
  case finds =>
    intro columns named
    have searched : ∃ found, condition.hasSplitAlternative = .ok found := by
      rw [Node.hasSplitAlternative, (Node.baseColumns_eq_ok.mp named).1]
      exact ⟨_, rfl⟩
    obtain ⟨found, searched⟩ := searched
    exact ⟨found, searched, Node.hasSplitAlternative_iff flat binary searched⟩

/-- `(x = 1 OR LOWER(y) = 'a') OR y = 3` -/
def chainedOr : Node :=
  let column (name : String) : Node := .mk .column [("this", .node (.mk .identifier [("this", .text name)] none))] none
  let literal (text : String) (isString : Bool) : Node :=
    .mk .literal [("this", .text text), ("is_string", .flag isString)] none
  let binary (cls : NodeClass) (left right : Node) : Node :=
    .mk cls [("this", .node left), ("expression", .node right)] none
  let unary (cls : NodeClass) (operand : Node) : Node := .mk cls [("this", .node operand)] none
  let first := binary .eq (column "x") (literal "1" false)
  let second := binary .eq (unary .lower (column "y")) (literal "a" true)
  binary .orExpr (unary .paren (binary .orExpr first second)) (binary .eq (column "y") (literal "3" false))

theorem alternatives_tell_baseColumns_chainedOr : chainedOr.NestsNoColumn ∧ chainedOr.HasOperands ∧
    (∃ n ∈ chainedOr.disjunctions, n.IsSplit) ∧ chainedOr.hasSplitAlternative = .ok true := by
  have flat : chainedOr.NestsNoColumn := Node.nestsNoColumn_iff.mp (by with_unfolding_all rfl)
  have binary : chainedOr.HasOperands := Node.hasOperands_iff.mp (by with_unfolding_all rfl)
  have named : chainedOr.hasNamelessBaseColumn = false := by with_unfolding_all rfl
  have left : ∃ operand, chainedOr.child? "this" = some operand ∧ operand.baseColumns = .ok (.ofList ["x"]) :=
    ⟨_, rfl, by with_unfolding_all rfl⟩
  have right : ∃ operand, chainedOr.child? "expression" = some operand ∧ operand.baseColumns = .ok (.ofList ["y"]) :=
    ⟨_, rfl, by with_unfolding_all rfl⟩
  have reached : chainedOr ∈ chainedOr.disjunctions :=
    Node.mem_disjunctions.mpr ⟨chainedOr.self_mem_nodesOutside _, rfl⟩
  have split : ∃ n ∈ chainedOr.disjunctions, n.IsSplit :=
    ⟨chainedOr, reached, _, _, ⟨left, right⟩, by decide, by decide, by decide⟩
  obtain ⟨-, -, -, finds⟩ := alternatives_tell_baseColumns flat binary
  obtain ⟨found, searched, exactly⟩ := finds _ (Node.baseColumns_eq_ok.mpr ⟨named, rfl⟩)
  exact ⟨flat, binary, split, by rw [searched, exactly.mpr split]⟩

/-! ## The hint on a query -/

/-- The hints tell of a split. -/
def Analysis.TellsSplit (analysis : Analysis) : Prop :=
  ∃ hint ∈ analysis.hints, hint.title = "OR Condition on Different Columns"

section Query

variable {tree leftmost condition : Node} {s : SelectStatement} {analysis : Analysis}

theorem Analysis.HasQueryHints.tellsSplit_iff (has : analysis.HasQueryHints tree leftmost s)
    (isCondition : s.condition = .node condition) :
    ∃ found, condition.hasSplitAlternative = .ok found ∧ (analysis.TellsSplit ↔ found = true) := by
  have titled : analysis.TellsSplit ↔ QueryRule.alternative.given analysis.hints ≠ [] := by
    simp [TellsSplit, QueryRule.given, List.filter_eq_nil_iff, QueryRule.titles]
  rcases has.calls .alternative with ⟨null, -⟩ | ⟨other, split, same, searched, given, none⟩
  · rw [isCondition] at null
    cases null
  · rw [isCondition, Argument.node.injEq] at same
    subst same
    refine ⟨split, searched, titled.trans ⟨fun some => ?_, fun isSplit => ?_⟩⟩
    · by_contra notSplit
      exact some (none notSplit)
    · obtain ⟨hint, given, -⟩ := given isSplit
      exact given ▸ List.cons_ne_nil _ _

theorem Analysis.HasQueryHints.tellsSplit_iff_differ (has : analysis.HasQueryHints tree leftmost s)
    (isCondition : s.condition = .node condition) :
    analysis.TellsSplit ↔
      ∃ n ∈ condition.disjunctions, (n.operandColumns "this").Differ (n.operandColumns "expression") := by
  obtain ⟨found, searched, told⟩ := has.tellsSplit_iff isCondition
  exact told.trans (Node.hasSplitAlternative_eq_ok.mp searched).2

theorem Analysis.HasQueryHints.tellsSplit_iff_isSplit (has : analysis.HasQueryHints tree leftmost s)
    (isCondition : s.condition = .node condition) (flat : condition.NestsNoColumn) (binary : condition.HasOperands) :
    analysis.TellsSplit ↔ ∃ n ∈ condition.disjunctions, n.IsSplit := by
  obtain ⟨found, searched, told⟩ := has.tellsSplit_iff isCondition
  exact told.trans (Node.hasSplitAlternative_iff flat binary searched)

end Query

/-- A hint on a query tells of a split exactly if the operands of some `OR` of its condition, outside calls and
    subqueries, both have outermost columns, and not the same ones. In a condition as a parser makes it these are the
    base columns. Then the hint is there exactly where some `OR` has operands of which neither has all base columns of
    the other, unless there are splits but none like that. -/
theorem split_hint_iff {tree condition : Node} {s : SelectStatement} (query : tree.cls.IsQuery)
    (read : Statement.ofNode tree = .ok (.select s)) (isCondition : s.condition = .node condition) :
    (∃ leftmost, tree.leftmostQuery = .ok leftmost ∧ leftmost.whereCondition = .ok (.node condition)) ∧
    ((Statement.select s).IsRegular → ∃ analysed, Analysis.ofStatement (.select s) = .ok analysed) ∧
    ∀ analysed, Analysis.ofStatement (.select s) = .ok analysed →
      (analysed.value.TellsSplit ↔
        ∃ n ∈ condition.disjunctions, (n.operandColumns "this").Differ (n.operandColumns "expression")) ∧
      (condition.NestsNoColumn → condition.HasOperands →
        (analysed.value.TellsSplit ↔ ∃ n ∈ condition.disjunctions, n.IsSplit) ∧
        ((analysed.value.TellsSplit ↔ ∃ n ∈ condition.disjunctions, n.IsApart) ↔
          ((∃ n ∈ condition.disjunctions, n.IsSplit) → ∃ n ∈ condition.disjunctions, n.IsApart))) := by
  obtain ⟨_, same, made⟩ := Statement.ofNode_query query read
  cases same
  obtain ⟨leftmost, isLeftmost, shows⟩ := Node.toSelect_shows made
  refine ⟨⟨leftmost, isLeftmost, isCondition ▸ shows.condition⟩, fun regular => ?total, fun analysed analyses => ?hint⟩
  case total =>
    obtain ⟨analysed, analyses, -⟩ := Analysis.ofStatement_total regular
    exact ⟨analysed, analyses⟩
  case hint =>
    have has := Analysis.hasQueryHints shows analyses
    refine ⟨has.tellsSplit_iff_differ isCondition, fun flat binary => ?_⟩
    have told := has.tellsSplit_iff_isSplit isCondition flat binary
    have weaker : (∃ n ∈ condition.disjunctions, n.IsApart) → ∃ n ∈ condition.disjunctions, n.IsSplit := by
      rintro ⟨n, mem, apart⟩
      exact ⟨n, mem, apart.isSplit⟩
    refine ⟨told, ?_⟩
    rw [told]
    exact ⟨Iff.mp, fun stronger => ⟨stronger, weaker⟩⟩

/-- `a = 1 OR a = 2 AND b = 3` -/
def containedOr : Node :=
  let column (name : String) : Node :=
    .mk .column [("this", .node (.mk .identifier [("this", .text name)] none))] (some name)
  let number (text : String) : Node := .mk .literal [("this", .text text), ("is_string", .flag false)] (some text)
  let binary (cls : NodeClass) (left right : Node) (sql : String) : Node :=
    .mk cls [("this", .node left), ("expression", .node right)] (some sql)
  let first := binary .eq (column "a") (number "1") "a = 1"
  let second := binary .eq (column "a") (number "2") "a = 2"
  let third := binary .eq (column "b") (number "3") "b = 3"
  binary .orExpr first (binary .andExpr second third "a = 2 AND b = 3") "a = 1 OR a = 2 AND b = 3"

/-- `SELECT id FROM t WHERE` a condition -/
def whereQuery (condition : Node) (sql : String) : Node :=
  let identifier (name : String) : Argument := .node (.mk .identifier [("this", .text name)] none)
  .mk .select
    [("expressions", .list [.node (.mk .column [("this", identifier "id")] (some "id"))]),
     ("from_", .node (.mk .fromClause [("this", .node (.mk .table [("this", identifier "t")] (some "t")))] none)),
     ("where", .node (.mk .whereClause [("this", .node condition)] none))]
    (some sql)

def containedQuery : Node := whereQuery containedOr "SELECT id FROM t WHERE a = 1 OR a = 2 AND b = 3"

theorem whereQuery_isRegular {condition : Node} {sql : String}
    (nodes : (whereQuery condition sql).nodes.all Node.isRegular = true) :
    ∃ s, Statement.ofNode (whereQuery condition sql) = .ok (.select s) ∧
      (Statement.select s).IsRegular ∧ s.condition = .node condition := by
  let query := whereQuery condition sql
  have tables : query.fromTables = .ok [⟨"t", none⟩] := fromTables_eq_singleton (by decide) rfl rfl
  have made := Node.toSelect_eq (query.leftmostQuery_select rfl) rfl tables rfl rfl rfl rfl rfl
  have clause : ∃ clause, query.child? "where" = some clause ∧ clause.child? "this" = some condition := ⟨_, rfl, rfl⟩
  obtain ⟨clause, isWhere, isThis⟩ := clause
  have inTree : condition ∈ query.nodes :=
    Node.mem_nodes_child (Node.mem_nodes_child query.self_mem_nodes isWhere) isThis
  refine ⟨_, Statement.ofNode_select (.inl rfl) made, Statement.isRegular_of_nodes rfl nodes ?aliases ?parts, rfl⟩
  case aliases => exact List.forall_mem_singleton.mpr rfl
  case parts => exact List.forall_mem_singleton.mpr (.inr ⟨_, inTree, rfl⟩)

theorem containedQuery_isRegular : ∃ s, Statement.ofNode containedQuery = .ok (.select s) ∧
    (Statement.select s).IsRegular ∧ s.condition = .node containedOr :=
  whereQuery_isRegular (by with_unfolding_all rfl)

theorem containedOr_isSplit : containedOr.NestsNoColumn ∧ containedOr.HasOperands ∧
    containedOr.disjunctions = [containedOr] ∧
    containedOr.HasOperandColumns (.ofList ["a"]) (.ofList ["a", "b"]) ∧ containedOr.IsSplit := by
  have flat : containedOr.NestsNoColumn := Node.nestsNoColumn_iff.mp (by with_unfolding_all rfl)
  have binary : containedOr.HasOperands := Node.hasOperands_iff.mp (by with_unfolding_all rfl)
  have columns : containedOr.HasOperandColumns (.ofList ["a"]) (.ofList ["a", "b"]) :=
    ⟨⟨_, rfl, by with_unfolding_all rfl⟩, _, rfl, by with_unfolding_all rfl⟩
  have only : containedOr.disjunctions = [containedOr] := by with_unfolding_all rfl
  exact ⟨flat, binary, only, columns, _, _, columns, by decide, by decide, by decide⟩

theorem split_hint_containedQuery : ∃ s analysed, Statement.ofNode containedQuery = .ok (.select s) ∧
    s.condition = .node containedOr ∧ Analysis.ofStatement (.select s) = .ok analysed ∧ analysed.value.TellsSplit := by
  obtain ⟨s, read, regular, isCondition⟩ := containedQuery_isRegular
  obtain ⟨flat, binary, only, -, split⟩ := containedOr_isSplit
  obtain ⟨-, total, hint⟩ := split_hint_iff (.inl rfl) read isCondition
  obtain ⟨analysed, analyses⟩ := total regular
  have told := ((hint analysed analyses).2 flat binary).1
  exact ⟨s, analysed, read, isCondition, analyses, told.mpr ⟨containedOr, only ▸ List.mem_singleton_self _, split⟩⟩

/-- The hint is there though the base columns of one operand are among those of the other one. -/
theorem contained_split_told : ∃ s analysed, Statement.ofNode containedQuery = .ok (.select s) ∧
    s.condition = .node containedOr ∧ Analysis.ofStatement (.select s) = .ok analysed ∧ analysed.value.TellsSplit ∧
    ¬∃ n ∈ containedOr.disjunctions, n.IsApart := by
  obtain ⟨s, read, regular, isCondition⟩ := containedQuery_isRegular
  obtain ⟨flat, binary, only, columns, split⟩ := containedOr_isSplit
  obtain ⟨analysed, analyses, -⟩ := Analysis.ofStatement_total regular
  obtain ⟨_, same, made⟩ := Statement.ofNode_query (.inl rfl) read
  cases same
  obtain ⟨leftmost, -, shows⟩ := Node.toSelect_shows made
  have told := (Analysis.hasQueryHints shows analyses).tellsSplit_iff_isSplit isCondition flat binary
  rw [only] at told ⊢
  refine ⟨s, analysed, read, isCondition, analyses, told.mpr ⟨_, List.mem_singleton_self _, split⟩, ?_⟩
  rintro ⟨n, mem, left, right, others, ⟨name, inLeft, notRight⟩, -⟩
  rw [List.mem_singleton.mp mem] at others
  obtain ⟨rfl, rfl⟩ := others.unique columns
  refine notRight ?_
  rw [NameSet.mem_ofList] at inLeft ⊢
  exact List.mem_cons.mpr (.inl (List.mem_singleton.mp inLeft))

end SqlAdvisor
