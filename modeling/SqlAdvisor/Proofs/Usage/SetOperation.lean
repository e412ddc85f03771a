import SqlAdvisor.Proofs.Usage.Coverage

/-! # What a set operation shows

Down the left operands of a set operation, through parentheses, stands its leftmost `SELECT`. The clauses of the whole
are those of that `SELECT` as a statement of its own. Only an ordering, a limit and the operator are its own.
-/

namespace SqlAdvisor

/-! ## The leftmost `SELECT` -/

/-- Down the left operands of set operations, and through parentheses, stands the `SELECT`. -/
inductive Node.LeadsTo : Node → Node → Prop where
  | here {select : Node} (isSelect : select.cls = .select) : LeadsTo select select
  | operand {n left select : Node} (operation : n.cls.isSetOperation = true) (isLeft : n.child? "this" = some left)
      (leads : LeadsTo left select) : LeadsTo n select
  | enclosed {n inner select : Node} (parentheses : n.cls = .subquery) (isInner : n.child? "this" = some inner)
      (leads : LeadsTo inner select) : LeadsTo n select

theorem Node.leftmostQuery_step {n left : Node} (isLeft : n.child? "this" = some left)
    (passed : n.cls.isSetOperation = true ∨ n.cls = .subquery) : n.leftmostQuery = left.leftmostQuery := by
  rw [leftmostQuery, if_pos (by simpa using passed)]
  split
  · rename_i inner held
    cases isLeft.symm.trans held
    rfl
  · rename_i missing
    cases isLeft.symm.trans missing

theorem Node.LeadsTo.leftmostQuery_eq {n select : Node} (leads : n.LeadsTo select) : n.leftmostQuery = .ok select := by
  induction leads with
  | here isSelect => exact leftmostQuery_select isSelect
  | operand operation isLeft _ ih => exact (leftmostQuery_step isLeft (.inl operation)).trans ih
  | enclosed parentheses isInner _ ih => exact (leftmostQuery_step isInner (.inr parentheses)).trans ih

theorem Node.LeadsTo.isSelect {n select : Node} (leads : n.LeadsTo select) : select.cls = .select := by
  induction leads with
  | here isSelect => exact isSelect
  | operand _ _ _ ih | enclosed _ _ _ ih => exact ih

/-! ## Reading a query -/

/-- The query shows all clauses of a root and of the leftmost `SELECT` below it. -/
structure SelectStatement.ShowsAll (s : SelectStatement) (root leftmost : Node) : Prop extends
    s.Shows root leftmost where
  sql : root.sql = .ok s.sql
  joins : leftmost.joins = .ok s.joins
  columns : leftmost.items "expressions" = .ok s.resultColumns
  limit : s.hasLimit = (root.limitsRows || leftmost.limitsRows)
  operator : s.setOperator = root.setOperator

/-- A query is read exactly as the clauses that it shows. -/
theorem Node.toSelect_eq_ok {root leftmost : Node} {s : SelectStatement}
    (isLeftmost : root.leftmostQuery = .ok leftmost) : root.toSelect = .ok s ↔ s.ShowsAll root leftmost := by
  constructor
  · intro made
    obtain ⟨_, same, shows⟩ := toSelect_shows made
    cases isLeftmost.symm.trans same
    simp only [toSelect, Except.bind_eq_ok] at made
    obtain ⟨sql, written, _, same, tables, -, joins, isJoins, condition, -, made⟩ := made
    obtain ⟨groupBy, -, orderBy, -, columns, isColumns, made⟩ := made
    cases isLeftmost.symm.trans same
    cases made
    exact ⟨shows, written, isJoins, isColumns, rfl, rfl⟩
  · rintro ⟨⟨rfl, tables, condition, grouping, ordering, distinct⟩, written, joins, columns, limit, operator⟩
    obtain ⟨orderBy, ordered, isOrderBy⟩ := Except.map_eq_ok.mp ordering
    rw [toSelect_eq isLeftmost written tables joins condition grouping ordered columns, isOrderBy, ← distinct, ← limit,
      ← operator]

/-- The clauses of a query that do not depend on what is around its leftmost `SELECT`. -/
structure SelectStatement.SharesClauses (s part : SelectStatement) : Prop where
  tables : s.tables = part.tables
  joins : s.joins = part.joins
  condition : s.condition = part.condition
  grouping : s.groupBy = part.groupBy
  columns : s.resultColumns = part.resultColumns
  distinct : s.isDistinct = part.isDistinct

theorem SelectStatement.ShowsAll.sharesClauses {s part : SelectStatement} {root other leftmost : Node}
    (shows : s.ShowsAll root leftmost) (ofPart : part.ShowsAll other leftmost) : s.SharesClauses part where
  tables := Except.ok.inj (shows.tables.symm.trans ofPart.tables)
  joins := Except.ok.inj (shows.joins.symm.trans ofPart.joins)
  condition := Except.ok.inj (shows.condition.symm.trans ofPart.condition)
  grouping := Except.ok.inj (shows.grouping.symm.trans ofPart.grouping)
  columns := Except.ok.inj (shows.columns.symm.trans ofPart.columns)
  distinct := shows.distinct.trans ofPart.distinct.symm

namespace Node

variable {root : Node}

/-- The node limits the number of its rows. -/
def IsLimited (n : Node) : Prop := n.arg "limit" ≠ .null ∨ n.arg "fetch" ≠ .null

theorem limitsRows_iff {n : Node} : n.limitsRows = true ↔ n.IsLimited := by
  simp [limitsRows, IsLimited, ← Argument.isNull_iff]

/-- The ordering of the root's own, if it has one, can be read. -/
def HasReadableOrder (root : Node) : Prop :=
  (root.arg "order").truthy = true → ∃ items, clauseItems (root.arg "order") = .ok items

/-- The operator of a set operation. A union keeps equal rows if it says that its rows are not distinct. -/
inductive HasOperator (root : Node) : SetOperator → Prop where
  | except (cls : root.cls = .except) : HasOperator root .except
  | intersect (cls : root.cls = .intersect) : HasOperator root .intersect
  | union (cls : root.cls = .union)
      (distinct : ∀ given, root.arguments.lookup "distinct" = some given → given.truthy = true) :
      HasOperator root .union
  | unionAll (cls : root.cls = .union) {given : Argument} (held : root.arguments.lookup "distinct" = some given)
      (all : given.truthy = false) : HasOperator root .unionAll

theorem HasOperator.setOperator_eq {operator : SetOperator} (has : root.HasOperator operator) :
    root.setOperator = operator := by
  rw [setOperator]
  cases has with
  | except cls | intersect cls => rw [cls]
  | unionAll cls held all =>
      simp only [cls, held]
      rw [if_neg (by simpa using all)]
  | union cls distinct =>
      simp only [cls]
      split
      · rename_i given held
        rw [if_pos (distinct given held)]
      · rfl

theorem exists_hasOperator (operation : root.cls.isSetOperation = true) : ∃ operator, root.HasOperator operator := by
  simp only [NodeClass.isSetOperation, Bool.or_eq_true, decide_eq_true_eq] at operation
  rcases operation with (isUnion | isIntersect) | isExcept
  · by_cases distinct : ∀ given, root.arguments.lookup "distinct" = some given → given.truthy = true
    · exact ⟨_, .union isUnion distinct⟩
    · push Not at distinct
      obtain ⟨given, held, all⟩ := distinct
      exact ⟨_, .unionAll isUnion held (Bool.eq_false_iff.mpr all)⟩
  · exact ⟨_, .intersect isIntersect⟩
  · exact ⟨_, .except isExcept⟩

theorem setOperator_eq_iff (operation : root.cls.isSetOperation = true) {operator : SetOperator} :
    root.setOperator = operator ↔ root.HasOperator operator := by
  refine ⟨?_, HasOperator.setOperator_eq⟩
  rintro rfl
  obtain ⟨operator, has⟩ := exists_hasOperator operation
  rwa [has.setOperator_eq]

theorem sql_setOperation (operation : root.cls.isSetOperation = true) : ∃ written, root.sql = .ok written := by
  have other : root.isStringLiteral = false := by
    by_contra literal
    have cls : root.cls = .literal := by simp_all [isStringLiteral]
    rw [cls] at operation
    cases operation
  rw [sql]
  cases root.sql? with
  | some written => exact ⟨written, rfl⟩
  | none => exact ⟨"", by simp only [other]; rfl⟩

theorem ordering_own {select : Node} (given : (root.arg "order").truthy = true) :
    root.ordering select = root.arg "order" :=
  if_pos given

theorem ordering_inherited {select : Node} (given : (root.arg "order").truthy = false) :
    root.ordering select = select.arg "order" :=
  if_neg (Bool.eq_false_iff.mp given)

theorem ordering_self (select : Node) : select.ordering select = select.arg "order" := ite_self _

/-- A set operation can be read where its `SELECT` can, if the ordering of its own can. -/
theorem toSelect_total_iff {select : Node} {part : SelectStatement} (operation : root.cls.isSetOperation = true)
    (isLeftmost : root.leftmostQuery = .ok select) (ofPart : part.ShowsAll select select) :
    (∃ whole, root.toSelect = .ok whole) ↔ root.HasReadableOrder := by
  simp only [toSelect_eq_ok isLeftmost]
  constructor
  · rintro ⟨whole, shows⟩ given
    have ordering := shows.ordering
    rw [ordering_own given] at ordering
    obtain ⟨items, read, -⟩ := Except.map_eq_ok.mp ordering
    exact ⟨items, read⟩
  · intro readable
    -- All but the ordering is read from the `SELECT`, or is always there.
    have ordering : ∃ orderBy, (clauseItems (root.ordering select)).map (·.map sortKey) = .ok orderBy := by
      cases given : (root.arg "order").truthy with
      | true =>
          obtain ⟨items, read⟩ := readable given
          exact ⟨_, by rw [ordering_own given, read]; rfl⟩
      | false => exact ⟨_, by rw [ordering_inherited given, ← ordering_self]; exact ofPart.ordering⟩
    obtain ⟨orderBy, ordering⟩ := ordering
    obtain ⟨sql, written⟩ := sql_setOperation operation
    let whole : SelectStatement := { part with
      node := root
      sql := sql
      orderBy := orderBy
      hasLimit := root.limitsRows || select.limitsRows
      setOperator := root.setOperator }
    have shows : whole.Shows root select :=
      ⟨rfl, ofPart.tables, ofPart.condition, ofPart.grouping, ordering, ofPart.distinct⟩
    exact ⟨whole, shows, written, ofPart.joins, ofPart.columns, rfl, rfl⟩

end Node

/-- A set operation can be read exactly if its own ordering can, where it has one and the leftmost `SELECT` below it can
    be read as a statement. Its clauses then are those of that statement, and so are its aliases and the known tables
    among its records. It is ordered by its own ordering, or else by that of the `SELECT`, has a limit if either of them
    has one, and its operator is told by its root. -/
theorem set_operation_shows_leftmost {root select : Node} {part : SelectStatement}
    (operation : root.cls.isSetOperation = true) (leads : root.LeadsTo select)
    (read : Statement.ofNode select = .ok (.select part)) :
    ((∃ statement, Statement.ofNode root = .ok statement) ↔ root.HasReadableOrder) ∧
    ∀ statement, Statement.ofNode root = .ok statement → ∃ whole : SelectStatement,
      statement = .select whole ∧ whole.SharesClauses part ∧
      ((root.arg "order").truthy = true → ∃ items, Node.clauseItems (root.arg "order") = .ok items ∧
        whole.orderBy = items.map Node.sortKey) ∧
      ((root.arg "order").truthy = false → whole.orderBy = part.orderBy) ∧
      (whole.hasLimit = true ↔ root.IsLimited ∨ select.IsLimited) ∧
      (∀ operator, whole.setOperator = operator ↔ root.HasOperator operator) ∧
      statement.aliasMap = (Statement.select part).aliasMap ∧
      ∀ aliases extracted, statement.aliasMap = .ok aliases → statement.extractUsages aliases = .ok extracted →
        ∀ table, .known table ∈ extracted.value.keys ↔ table ∈ part.tables.map (·.name) := by
  have query : root.cls.IsQuery := .inr operation
  obtain ⟨_, same, made⟩ := Statement.ofNode_query (.inl leads.isSelect) read
  cases same
  have ofPart := (Node.toSelect_eq_ok (Node.leftmostQuery_select leads.isSelect)).mp made
  refine ⟨?total, fun statement isRoot => ?shares⟩
  case total =>
    rw [← Node.toSelect_total_iff operation leads.leftmostQuery_eq ofPart]
    constructor
    · rintro ⟨statement, isRoot⟩
      obtain ⟨whole, -, made⟩ := Statement.ofNode_query query isRoot
      exact ⟨whole, made⟩
    · rintro ⟨whole, made⟩
      exact ⟨_, Statement.ofNode_select query made⟩
  case shares =>
    obtain ⟨whole, rfl, made⟩ := Statement.ofNode_query query isRoot
    have shows := (Node.toSelect_eq_ok leads.leftmostQuery_eq).mp made
    have shares := shows.sharesClauses ofPart
    refine ⟨whole, rfl, shares, fun given => ?own, fun given => ?inherited, ?limit, fun operator => ?operator, ?aliases,
      fun aliases extracted built extracts table => ?known⟩
    case own =>
      have ordering := shows.ordering
      rw [Node.ordering_own given] at ordering
      obtain ⟨items, read, sorted⟩ := Except.map_eq_ok.mp ordering
      exact ⟨items, read, sorted.symm⟩
    case inherited =>
      have ordering := ofPart.ordering
      rw [Node.ordering_self, ← Node.ordering_inherited given] at ordering
      exact Except.ok.inj (shows.ordering.symm.trans ordering)
    case limit => rw [shows.limit, Bool.or_eq_true, Node.limitsRows_iff, Node.limitsRows_iff]
    case operator => rw [shows.operator, Node.setOperator_eq_iff operation]
    case aliases => rw [Statement.aliasMap, Statement.aliasMap, Statement.tables, Statement.tables, shares.tables]
    case known => rw [Statement.known_mem_keys_extracted built extracts, Statement.tables, shares.tables]

/-- `((SELECT id FROM orders) UNION ALL SELECT name FROM users) EXCEPT SELECT id FROM archive ORDER BY id LIMIT 5` -/
def nestedOperation : Node :=
  let enclosed (inner : Node) : Argument := .node (.mk .subquery [("this", .node inner)] none)
  let union : Node :=
    .mk .union [("this", enclosed (simpleSelect "id" "orders")), ("distinct", .flag false),
      ("expression", .node (simpleSelect "name" "users"))] none
  let limit : Node := .mk .limit [("expression", .node (.mk .literal [("this", .text "5")] (some "5")))] none
  let item : Node := .mk .ordered [("this", .node (bareColumn "id"))] none
  let order : Node := .mk .order [("expressions", .list [.node item])] none
  .mk .except
    [("this", enclosed union), ("distinct", .flag true), ("expression", .node (simpleSelect "id" "archive")),
     ("order", .node order), ("limit", .node limit)]
    (some ("((SELECT id FROM orders) UNION ALL SELECT name FROM users) EXCEPT SELECT id FROM archive " ++
      "ORDER BY id LIMIT 5"))

theorem nestedOperation_leadsTo : nestedOperation.LeadsTo (simpleSelect "id" "orders") :=
  .operand rfl rfl (.enclosed rfl rfl (.operand rfl rfl (.enclosed rfl rfl (.here rfl))))

theorem set_operation_shows_nestedOperation : ∃ whole, Statement.ofNode nestedOperation = .ok (.select whole) ∧
    whole.tables = [⟨"orders", none⟩] ∧ whole.orderBy = [.node (bareColumn "id")] ∧ whole.hasLimit = true ∧
    whole.setOperator = .except := by
  have operation : nestedOperation.cls.isSetOperation = true := rfl
  have readable : nestedOperation.HasReadableOrder := fun _ => ⟨_, rfl⟩
  have part := ofNode_simpleSelect "id" (by decide : "orders" ≠ "")
  obtain ⟨total, shows⟩ := set_operation_shows_leftmost operation nestedOperation_leadsTo part
  obtain ⟨statement, read⟩ := total.mpr readable
  obtain ⟨whole, rfl, shares, own, -, limit, operator, -⟩ := shows statement read
  obtain ⟨items, isItems, isOrder⟩ := own rfl
  cases isItems
  exact ⟨whole, read, shares.tables, isOrder, limit.mpr (.inl (.inl nofun)), (operator .except).mpr (.except rfl)⟩

end SqlAdvisor
