import SqlAdvisor.Hint.Alternative
import SqlAdvisor.Proofs.Traversal.Place

/-! # Base columns

The base columns of an expression are the names of the columns that are reached without passing through a call or a
subquery. Where no column lies below another one, they are the node's own name or those of its children, so that they
can be put together from below.
-/

namespace SqlAdvisor

/-- Nodes of the class are not looked into: they are calls or subqueries. -/
def NodeClass.isSealed (c : NodeClass) : Bool := c.kind = .functionCall || c.kind = .subquery

/-- Nodes of the class have no columns from below: they are columns, or are not looked into. -/
def NodeClass.isFinal (c : NodeClass) : Bool := c.isSealed || c = .column

namespace Node

/-! ## Nodes that are reached -/

/-- The nodes of a tree that are reached from its root without passing through a closed one. -/
def nodesOutside (closed : NodeClass → Bool) (n : Node) : List Node :=
  n :: if closed n.cls then [] else n.children.attach.flatMap fun child => child.1.nodesOutside closed
termination_by n.size
decreasing_by exact size_lt_of_mem_children child.2

variable {closed : NodeClass → Bool} {n m : Node}

theorem nodesOutside_eq (closed : NodeClass → Bool) (n : Node) :
    n.nodesOutside closed = n :: if closed n.cls then [] else n.children.flatMap (nodesOutside closed) := by
  rw [nodesOutside]
  simp only [List.flatMap_subtype, List.unattach_attach]

theorem self_mem_nodesOutside (closed : NodeClass → Bool) (n : Node) : n ∈ n.nodesOutside closed := by
  rw [nodesOutside_eq]
  exact List.mem_cons_self

theorem mem_nodesOutside :
    m ∈ n.nodesOutside closed ↔ m = n ∨ closed n.cls = false ∧ ∃ child ∈ n.children, m ∈ child.nodesOutside closed := by
  rw [nodesOutside_eq, List.mem_cons]
  cases closed n.cls with
  | true => simp
  | false => simp

theorem mem_nodesOutside_trans {inner : Node} (reached : inner ∈ n.nodesOutside closed)
    (mem : m ∈ inner.nodesOutside closed) : m ∈ n.nodesOutside closed := by
  induction size : n.size using Nat.strongRecOn generalizing n with
  | ind _ ih =>
      rcases mem_nodesOutside.mp reached with rfl | ⟨isOpen, child, isChild, reached⟩
      · exact mem
      · have below := ih _ (size ▸ size_lt_of_mem_children isChild) reached rfl
        exact mem_nodesOutside.mpr (.inr ⟨isOpen, child, isChild, below⟩)

theorem nodesOutside_subset_nodes : n.nodesOutside closed ⊆ n.nodes := by
  intro m mem
  induction size : n.size using Nat.strongRecOn generalizing n with
  | ind _ ih =>
      rw [nodes_eq]
      rcases mem_nodesOutside.mp mem with rfl | ⟨-, child, isChild, mem⟩
      · exact List.mem_cons_self
      · have below := ih _ (size ▸ size_lt_of_mem_children isChild) mem rfl
        exact List.mem_cons_of_mem _ (List.mem_flatMap.mpr ⟨child, isChild, below⟩)

end Node

/-! ## Reading from above -/

/-- The visitor looks at a node, and then at its children unless it is sealed. -/
structure Visitor.Surveys {σ : Type} (v : Visitor σ) (look : Node → σ → σ) : Prop where
  enters : ∀ (o : Occurrence) (context : Context) (state : σ),
    v.enter o o.node.cls.kind context state = (look o.node state, !o.node.cls.isSealed)
  leaves : ∀ (o : Occurrence) (context : Context) (state : σ), v.leave o o.node.cls.kind context state = state

theorem Visitor.Surveys.of_columns {σ : Type} {v : Visitor σ} {look : Node → σ → σ}
    (enters : ∀ (o : Occurrence) (kind : NodeKind) (context : Context) (state : σ), v.enter o kind context state =
      match kind with
      | .functionCall | .subquery => (state, false)
      | .columnRef => (look o.node state, true)
      | _ => (state, true))
    (leaves : ∀ (o : Occurrence) (kind : NodeKind) (context : Context) (state : σ), v.leave o kind context state = state)
    (others : ∀ n : Node, n.cls ≠ .column → ∀ state, look n state = state) : v.Surveys look where
  enters o context state := by
    rw [enters, NodeClass.isSealed]
    cases kind : o.node.cls.kind with
    | columnRef => rfl
    | _ =>
        have other : o.node.cls ≠ .column := fun isColumn => by simp [NodeClass.kind_eq_columnRef.mpr isColumn] at kind
        simp [others o.node other]
  leaves o context state := leaves o _ context state

theorem Occurrence.children_own_kind {o child : Occurrence} (isOpen : o.node.cls.isSealed = false)
    (isChild : child ∈ o.children) : child.isResultColumn = false := by
  obtain ⟨held, -, rfl⟩ := List.mem_map.mp isChild
  have other : o.node.cls ≠ .select := by
    rintro isSelect
    rw [isSelect] at isOpen
    revert isOpen
    decide
  simp [isResultColumn, other]

/-- A survey looks at the nodes that are reached, one after the other. -/
theorem Visitor.Surveys.visit_eq {σ : Type} {v : Visitor σ} {look : Node → σ → σ} (surveys : v.Surveys look)
    {o : Occurrence} (own : o.isResultColumn = false) (context : Context) (state : σ) :
    v.visit o context state = (o.node.nodesOutside NodeClass.isSealed).foldl (fun state n => look n state) state := by
  induction size : o.node.size using Nat.strongRecOn generalizing o context state with
  | ind _ ih =>
      rw [v.visit_of_own_kind own, Node.nodesOutside_eq, List.foldl_cons]
      simp only [surveys.enters, surveys.leaves]
      cases isOpen : o.node.cls.isSealed with
      | true => rfl
      | false =>
          have children : o.node.children = o.children.map (·.node) := by
            rw [Occurrence.children, List.map_map]
            rfl
          simp only [Bool.not_false, if_true, Bool.false_eq_true, if_false]
          rw [children, List.flatMap_map, List.foldl_flatMap, visitAll]
          apply List.foldl_ext
          intro state child isChild
          exact ih _ (size ▸ Occurrence.size_lt_of_mem_children isChild)
            (Occurrence.children_own_kind isOpen isChild) _ state rfl

theorem walk_survey {σ : Type} {v : Visitor σ} {look : Node → σ → σ} (surveys : v.Surveys look) (root : Node)
    (state : σ) : walk root v state = (root.nodesOutside NodeClass.isSealed).foldl (fun state n => look n state) state := by
  rw [walk_eq_visit]
  exact surveys.visit_eq rfl _ state

namespace Node

variable {closed : NodeClass → Bool} {n : Node} {name : String}

theorem baseColumn?_eq_none (other : n.cls ≠ .column) : n.baseColumn? = none := by
  simp [baseColumn?, isPlainColumn, other]

theorem isPlainColumn_eq_false (other : n.cls ≠ .column) : n.isPlainColumn = false := by
  simp [isPlainColumn, other]

/-- The names of the columns that are reached without passing through a closed node. -/
def columnsOutside (closed : NodeClass → Bool) (n : Node) : NameSet :=
  .ofList ((n.nodesOutside closed).filterMap baseColumn?)

theorem mem_columnsOutside :
    name ∈ n.columnsOutside closed ↔ ∃ m ∈ n.nodesOutside closed, m.baseColumn? = some name := by
  rw [columnsOutside, NameSet.mem_ofList, List.mem_filterMap]

theorem namedBaseColumns_eq (n : Node) : n.namedBaseColumns = n.columnsOutside NodeClass.isSealed := by
  let note (n : Node) (columns : NameSet) : NameSet := (n.baseColumn?.map columns.insert).getD columns
  rw [namedBaseColumns]
  refine (@walk_survey NameSet _ note (.of_columns ?enters ?leaves ?others) n ∅).trans ?fold
  case enters =>
    intro o kind context columns
    cases kind <;> rfl
  case leaves => exact fun _ _ _ _ => rfl
  case others =>
    intro n other columns
    simp [note, baseColumn?_eq_none other]
  case fold =>
    rw [columnsOutside, NameSet.ofList, List.foldl_filterMap]
    refine List.foldl_ext _ _ _ fun columns m _ => ?_
    dsimp only [note]
    cases m.baseColumn? <;> rfl

theorem hasNamelessBaseColumn_eq (n : Node) :
    n.hasNamelessBaseColumn =
      (n.nodesOutside NodeClass.isSealed).any fun m => m.isPlainColumn && m.columnName?.isNone := by
  let seek (n : Node) (found : Bool) : Bool := found || n.isPlainColumn && n.columnName?.isNone
  rw [hasNamelessBaseColumn]
  refine (@walk_survey Bool _ seek (.of_columns ?enters ?leaves ?others) n false).trans ?fold
  case enters =>
    intro o kind context found
    cases kind <;> rfl
  case leaves => exact fun _ _ _ _ => rfl
  case others =>
    intro n other found
    simp [seek, isPlainColumn_eq_false other]
  case fold =>
    have seeks : ∀ (nodes : List Node) (found : Bool), nodes.foldl (fun found n => seek n found) found =
        (found || nodes.any fun m => m.isPlainColumn && m.columnName?.isNone) := by
      intro nodes
      induction nodes with
      | nil => simp
      | cons m rest ih =>
          intro found
          rw [List.foldl_cons, ih, List.any_cons, Bool.or_assoc]
    exact seeks _ false

theorem hasNamelessBaseColumn_of_mem {m : Node} (named : n.hasNamelessBaseColumn = false)
    (reached : m ∈ n.nodesOutside NodeClass.isSealed) : m.hasNamelessBaseColumn = false := by
  rw [hasNamelessBaseColumn_eq, List.any_eq_false] at named ⊢
  intro column mem
  exact named column (mem_nodesOutside_trans reached mem)

/-! ## Putting columns together from below -/

theorem mem_ownColumns : name ∈ (n.baseColumn?.map NameSet.empty.insert).getD ∅ ↔ n.baseColumn? = some name := by
  cases n.baseColumn? with
  | none => simp
  | some own =>
      refine NameSet.mem_insert.trans ?_
      rw [Option.some.injEq, eq_comm]
      exact or_iff_left NameSet.not_mem_empty

theorem columnsOutside_of_closed (isClosed : closed n.cls = true) :
    n.columnsOutside closed = (n.baseColumn?.map NameSet.empty.insert).getD ∅ := by
  refine NameSet.ext fun name => ?_
  rw [mem_columnsOutside, mem_ownColumns]
  constructor
  · rintro ⟨m, reached, own⟩
    rcases mem_nodesOutside.mp reached with rfl | ⟨isOpen, -⟩
    · exact own
    · rw [isClosed] at isOpen
      cases isOpen
  · exact fun own => ⟨n, n.self_mem_nodesOutside closed, own⟩

theorem mem_columnsOutside_of_open (isOpen : closed n.cls = false) (other : n.cls ≠ .column) :
    name ∈ n.columnsOutside closed ↔ ∃ child ∈ n.children, name ∈ child.columnsOutside closed := by
  simp only [mem_columnsOutside]
  constructor
  · rintro ⟨m, reached, own⟩
    rcases mem_nodesOutside.mp reached with rfl | ⟨-, child, isChild, reached⟩
    · rw [baseColumn?_eq_none other] at own
      cases own
    · exact ⟨child, isChild, m, reached, own⟩
  · rintro ⟨child, isChild, m, reached, own⟩
    exact ⟨m, mem_nodesOutside.mpr (.inr ⟨isOpen, child, isChild, reached⟩), own⟩

/-- The names of the outermost columns outside calls and subqueries, those that lie below no other column. -/
def outermostColumns (n : Node) : NameSet := n.columnsOutside NodeClass.isFinal

/-- No column of the tree lies below another one. -/
def NestsNoColumn (root : Node) : Prop :=
  ∀ column ∈ root.nodes, column.cls = .column → ∀ child ∈ column.children, ∀ inner ∈ child.nodes, inner.cls ≠ .column

def nestsNoColumn (root : Node) : Bool :=
  root.nodes.all fun column => column.cls ≠ .column || column.children.all fun child => child.nodes.all (·.cls ≠ .column)

theorem nestsNoColumn_iff : n.nestsNoColumn = true ↔ n.NestsNoColumn := by
  simp [nestsNoColumn, NestsNoColumn, ← imp_iff_not_or]

theorem NestsNoColumn.below {m : Node} (flat : n.NestsNoColumn) (mem : m ∈ n.nodes) : m.NestsNoColumn :=
  fun column inTree => flat column (mem_nodes_trans mem inTree)

/-- Where no column lies below another one, all are outermost. -/
theorem NestsNoColumn.outermostColumns_eq (flat : n.NestsNoColumn) : n.outermostColumns = n.namedBaseColumns := by
  rw [namedBaseColumns_eq, outermostColumns]
  refine NameSet.ext fun name => ?_
  induction size : n.size using Nat.strongRecOn generalizing n with
  | ind _ ih =>
      by_cases isColumn : n.cls = .column
      · -- What is reached below a column is no column.
        have final : n.cls.isFinal = true := by simp [NodeClass.isFinal, isColumn]
        rw [columnsOutside_of_closed final, mem_ownColumns, mem_columnsOutside]
        constructor
        · exact fun own => ⟨n, n.self_mem_nodesOutside _, own⟩
        · rintro ⟨m, reached, own⟩
          rcases mem_nodesOutside.mp reached with rfl | ⟨-, child, isChild, reached⟩
          · exact own
          · have other := flat n n.self_mem_nodes isColumn child isChild m (nodesOutside_subset_nodes reached)
            rw [baseColumn?_eq_none other] at own
            cases own
      · have same : n.cls.isFinal = n.cls.isSealed := by simp [NodeClass.isFinal, isColumn]
        cases isOpen : n.cls.isSealed with
        | true => rw [columnsOutside_of_closed isOpen, columnsOutside_of_closed (same.trans isOpen)]
        | false =>
            rw [mem_columnsOutside_of_open isOpen isColumn, mem_columnsOutside_of_open (same.trans isOpen) isColumn]
            refine exists_congr fun child => and_congr_right fun isChild => ?_
            exact ih _ (size ▸ size_lt_of_mem_children isChild) (flat.below (mem_nodes_of_mem_children isChild)) rfl

end Node

end SqlAdvisor
