import Mathlib.Algebra.BigOperators.Group.List.Basic
import SqlAdvisor.Proofs.Statistics.Counts

/-! # Which windowed calls are counted

A window holds the call that it is over. What modifies a call, such as `FILTER`, `IGNORE NULLS` or `WITHIN GROUP`,
stands between the two, and then the window is not counted: the walk only looks at what a node stands in itself.
-/

namespace SqlAdvisor

/-- Nodes of the class modify the call that they hold. -/
def NodeClass.modifiesCall : NodeClass → Bool
  | .filter | .ignoreNulls | .withinGroup => true
  | _ => false

theorem NodeClass.isCall_of_modifiesCall {c : NodeClass} (modifies : c.modifiesCall = true) : c.isCall = false := by
  cases c <;> first | rfl | exact nomatch modifies

namespace Node

/-- The node is a call, or modifiers lead from it to one. -/
def leadsToCall (n : Node) : Bool :=
  n.cls.isCall || n.cls.modifiesCall &&
    match _h : n.child? "this" with
    | some inner => inner.leadsToCall
    | none => false
termination_by n.size
decreasing_by exact size_lt_of_child? _h

theorem leadsToCall_eq (n : Node) :
    n.leadsToCall = (n.cls.isCall || n.cls.modifiesCall && (n.child? "this").any leadsToCall) := by
  rw [leadsToCall]
  split <;> rename_i held <;> simp [held]

/-- The windows of a tree. -/
def windows (root : Node) : List Node := root.nodes.filter (·.cls = .window)

/-- The children that the node has for operands. -/
def operands (n : Node) : List Node := (n.namedChildren.filter (·.1 = "this")).map Prod.snd

/-- Each window of the tree has one operand at most, as those that a parser makes. -/
def HasPlainWindows (root : Node) : Prop := ∀ window ∈ root.windows, window.operands = (window.child? "this").toList

/-- The operand is a call, or one that is modified. -/
def windowsCall (window : Node) : Bool := (window.child? "this").any leadsToCall

/-- The operand is a call that is modified. -/
def windowsModifiedCall (window : Node) : Bool :=
  (window.child? "this").any fun operand => operand.cls.modifiesCall && operand.leadsToCall

variable {root : Node}

theorem countP_operands {window : Node} (plain : window.operands = (window.child? "this").toList) :
    (if window.windowsCall then 1 else 0) =
      window.operands.countP (·.cls.isCall) + if window.windowsModifiedCall then 1 else 0 := by
  unfold windowsCall windowsModifiedCall
  rw [plain]
  cases window.child? "this" with
  | none => rfl
  | some operand =>
      cases modifies : operand.cls.modifiesCall with
      | true => simp [modifies, NodeClass.isCall_of_modifiesCall modifies]
      | false => simp [modifies, leadsToCall_eq operand]

/-- A window of one operand is over a call that is not modified, or over one that is, or over no call. -/
theorem countP_windowsCall (plain : root.HasPlainWindows) :
    root.windows.countP windowsCall =
      (root.windows.map fun window => window.operands.countP (·.cls.isCall)).sum +
        root.windows.countP windowsModifiedCall := by
  unfold HasPlainWindows at plain
  generalize root.windows = windows at plain
  induction windows with
  | nil => rfl
  | cons window rest ih =>
      obtain ⟨first, others⟩ := List.forall_mem_cons.mp plain
      have own := countP_operands first
      have below := ih others
      rw [List.countP_cons, List.countP_cons, List.map_cons, List.sum_cons]
      omega

end Node

namespace Counts

theorem countP_children (n : Node) :
    (Occurrence.children ⟨n, none⟩).countP (fun o => o.node.cls.isCall && o.isWindowed) =
      if n.cls = .window then n.operands.countP (·.cls.isCall) else 0 := by
  rw [Occurrence.children, List.countP_map]
  by_cases window : n.cls = .window
  · rw [if_pos window, Node.operands, List.countP_map, List.countP_filter]
    apply List.countP_congr
    rintro ⟨name, child⟩ -
    simp [Occurrence.isWindowed, window]
  · rw [if_neg window, List.countP_eq_zero]
    rintro ⟨name, child⟩ -
    simp [Occurrence.isWindowed, window]

/-- A walk counts the calls that are operands of the windows of the tree. -/
theorem windows_ofNode (root : Node) :
    (ofNode root).windows = (root.windows.map fun window => window.operands.countP (·.cls.isCall)).sum := by
  let windowed (o : Occurrence) : Bool := o.node.cls.isCall && o.isWindowed
  have rootless : windowed ⟨root, none⟩ = false := by simp [windowed, Occurrence.isWindowed]
  have counted : (ofNode root).windows = (root.places.map Place.occurrence).countP windowed := by
    rw [ofNode_eq, List.countP_map]
    rfl
  have children : root.nodes.map (List.countP windowed ∘ fun n => Occurrence.children ⟨n, none⟩) =
      root.nodes.map fun n => if n.cls = .window then n.operands.countP (·.cls.isCall) else 0 :=
    List.map_congr_left fun n _ => countP_children n
  rw [counted, Node.places, (Occurrence.occurrences_places_perm _ []).countP_eq, List.countP_cons, rootless,
    List.countP_flatMap, children, List.sum_map_ite, Node.windows]
  simp

end Counts

theorem Statement.windowCount_eq {tree : Node} {statement : Statement} (query : tree.cls.IsQuery)
    (read : ofNode tree = .ok statement) (usages : Option TableUsages) :
    (statement.statistics usages).find? "window_function_count" =
      some (.ofNat (tree.windows.map fun window => window.operands.countP (·.cls.isCall)).sum) := by
  obtain ⟨s, rfl, made⟩ := ofNode_query query read
  rw [← Counts.windows_ofNode, ← Node.toSelect_node made]
  exact structural_eq _ usages (by simp [structural, SelectStatement.statistics])

/-- What counts as windowed in a query are the calls that windows of its tree have for operands. Where each window has
    one operand, the windows over modified calls are left out, so that the windows over calls are all counted exactly if
    none of these is modified. -/
theorem windows_counted_unless_modified {tree : Node} {statement : Statement} (query : tree.cls.IsQuery)
    (read : Statement.ofNode tree = .ok statement) (usages : Option TableUsages) :
    ∃ counted, (statement.statistics usages).find? "window_function_count" = some (.ofNat counted) ∧
      counted = (tree.windows.map fun window => window.operands.countP (·.cls.isCall)).sum ∧
      (tree.HasPlainWindows →
        tree.windows.countP Node.windowsCall = counted + tree.windows.countP Node.windowsModifiedCall ∧
        (counted = tree.windows.countP Node.windowsCall ↔
          ∀ window ∈ tree.windows, window.windowsModifiedCall = false)) := by
  refine ⟨_, Statement.windowCount_eq query read usages, rfl, ?_⟩
  intro plain
  have split := Node.countP_windowsCall plain
  have unmodified : tree.windows.countP Node.windowsModifiedCall = 0 ↔
      ∀ window ∈ tree.windows, window.windowsModifiedCall = false := by
    simp [List.countP_eq_zero]
  refine ⟨split, ?_⟩
  rw [← unmodified]
  omega

/-- `operand OVER (ORDER BY id)` -/
def overOrder (operand : Node) : Node :=
  let id : Node := .mk .column [("this", .node (.mk .identifier [("this", .text "id")] none))] (some "id")
  let order : Node := .mk .order [("expressions", .list [.node (.mk .ordered [("this", .node id)] none)])] none
  .mk .window [("this", .node operand), ("order", .node order)] none

/-- `SELECT operand OVER (ORDER BY id) FROM t` -/
def windowQuery (operand : Node) : Node :=
  .mk .select [("expressions", .list [.node (overOrder operand)]), ("from_", .node (fromTable "t"))] none

theorem ofNode_windowQuery (operand : Node) : ∃ statement, Statement.ofNode (windowQuery operand) = .ok statement := by
  have tables : (windowQuery operand).fromTables = .ok [⟨"t", none⟩] := fromTables_eq_singleton (by decide) rfl rfl
  have made := Node.toSelect_eq (Node.leftmostQuery_select rfl) rfl tables rfl rfl rfl rfl rfl
  exact ⟨_, Statement.ofNode_select (.inl rfl) made⟩

/-- `ROW_NUMBER()` -/
def rowNumbering : Node := .mk .rowNumber [] (some "ROW_NUMBER()")

theorem windows_rowNumbering : (windowQuery rowNumbering).windows = [overOrder rowNumbering] := by
  with_unfolding_all rfl

theorem windows_counted_rowNumbering : ∃ statement, Statement.ofNode (windowQuery rowNumbering) = .ok statement ∧
    (statement.statistics none).find? "window_function_count" = some (.ofNat 1) ∧
    (windowQuery rowNumbering).windows.countP Node.windowsCall = 1 := by
  obtain ⟨statement, read⟩ := ofNode_windowQuery rowNumbering
  obtain ⟨counted, told, isSum, complete⟩ := windows_counted_unless_modified (.inl rfl) read none
  have plain : (windowQuery rowNumbering).HasPlainWindows := by
    intro window mem
    rw [windows_rowNumbering, List.mem_singleton] at mem
    rw [mem]
    rfl
  rw [windows_rowNumbering] at isSum
  have one : counted = 1 := isSum
  have all : counted = (windowQuery rowNumbering).windows.countP Node.windowsCall := by
    apply (complete plain).2.mpr
    intro window mem
    rw [windows_rowNumbering, List.mem_singleton] at mem
    rw [mem]
    rfl
  exact ⟨statement, read, one ▸ told, all ▸ one⟩

/-- `FIRST_VALUE(a) IGNORE NULLS` -/
def firstGiven : Node :=
  let a : Node := .mk .column [("this", .node (.mk .identifier [("this", .text "a")] none))] (some "a")
  .mk .ignoreNulls [("this", .node (.mk .firstValue [("this", .node a)] none))] none

/-- The window over a modified call is not counted. -/
theorem window_uncounted_firstGiven : ∃ statement, Statement.ofNode (windowQuery firstGiven) = .ok statement ∧
    (statement.statistics none).find? "window_function_count" = some (.ofNat 0) ∧
    (windowQuery firstGiven).windows.countP Node.windowsCall = 1 := by
  obtain ⟨statement, read⟩ := ofNode_windowQuery firstGiven
  have windows : (windowQuery firstGiven).windows = [overOrder firstGiven] := by with_unfolding_all rfl
  refine ⟨statement, read, ?_, ?_⟩
  · rw [Statement.windowCount_eq (.inl rfl) read, windows]
    rfl
  · obtain ⟨operand, held, isCall⟩ : ∃ operand, firstGiven.child? "this" = some operand ∧ operand.cls.isCall = true :=
      ⟨_, rfl, rfl⟩
    have called : (overOrder firstGiven).windowsCall = true := by
      have leads : firstGiven.leadsToCall = true := by
        rw [Node.leadsToCall_eq, held, Option.any_some, Node.leadsToCall_eq operand, isCall]
        rfl
      exact leads
    rw [windows, List.countP_singleton, if_pos called]

end SqlAdvisor
