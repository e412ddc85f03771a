import SqlAdvisor.Explain.Plan
import SqlAdvisor.Explain.Correlation
import SqlAdvisor.Proofs.Numeral.Written
import SqlAdvisor.Proofs.Steps
import SqlAdvisor.Proofs.Text.Casing

/-! # What the rows of a plan show

A document that describes a tree of nodes gives a row for each node that reads a table, in pre-order. The row shows the
name that the node goes by, the kind of its scan, its index and its estimate, each in a cell of its own.
-/

namespace SqlAdvisor

/-- A plan writes its names as texts and its estimate as an integer. What it leaves out is empty or zero. -/
structure PlanMetrics.AreWritten (metrics : PlanMetrics) : Prop where
  type : ∃ type, metrics.nodeType = .text type
  relation : ∃ name, metrics.relationName = .text name
  aliased : ∃ name, metrics.aliasName = .text name
  rows : ∃ word k, Json.wordDatum? word = some (.int k) ∧ metrics.planRows = .int k

namespace Plan

/-- The datum describes a node, and so do the items of the list under `Plans`, if there is one. -/
inductive IsTree : Datum → Prop where
  | node {entries : List (String × Datum)} {children : List Datum} (written : (metricsOf entries).AreWritten)
      (listed : (entries.lookup "Plans").getD (.list []) = .list children)
      (each : ∀ child ∈ children, IsTree child) : IsTree (.table entries)

theorem nodesIn_other {name : String} {value : Datum} {rest : List (String × Datum)} (other : name ≠ "Plans") :
    nodesIn ((name, value) :: rest) = nodesIn rest := by
  cases value <;> rw [nodesIn, if_neg other] <;> nofun

theorem nodesIn_listed {entries : List (String × Datum)} {children : List Datum}
    (listed : (entries.lookup "Plans").getD (.list []) = .list children) : nodesIn entries = nodes children := by
  induction entries with
  | nil =>
      cases listed
      rw [nodesIn, nodes]
  | cons entry rest ih =>
      obtain ⟨name, value⟩ := entry
      by_cases plans : name = "Plans"
      · subst plans
        rw [List.lookup_cons_self, Option.getD_some] at listed
        rw [listed, nodesIn, if_pos rfl]
      · rw [List.lookup_cons, beq_false_of_ne (Ne.symm plans)] at listed
        rw [nodesIn_other plans]
        exact ih listed

theorem nodes_total {items : List Datum} {property : PlanNode → Prop}
    (each : ∀ item ∈ items, ∃ n, node item = .ok n ∧ ∀ m ∈ n.preorder, property m) :
    ∃ ns, nodes items = .ok ns ∧ ∀ m ∈ PlanNode.preorderAll ns, property m := by
  induction items with
  | nil => exact ⟨[], by rw [nodes], by simp [PlanNode.preorderAll]⟩
  | cons item rest ih =>
      obtain ⟨⟨n, first, ofFirst⟩, others⟩ := List.forall_mem_cons.mp each
      obtain ⟨ns, rest, ofRest⟩ := ih others
      refine ⟨n :: ns, by rw [nodes, first, rest]; rfl, fun m mem => ?_⟩
      rw [PlanNode.preorderAll] at mem
      exact (List.mem_append.mp mem).elim (ofFirst m) (ofRest m)

/-- A tree of a document is read, with every node as it is written. -/
theorem node_total {tree : Datum} (isTree : IsTree tree) :
    ∃ n, node tree = .ok n ∧ ∀ m ∈ n.preorder, m.metrics.AreWritten := by
  induction isTree with
  | @node entries children written listed _ ih =>
      obtain ⟨ns, read, ofNodes⟩ := nodes_total ih
      refine ⟨.mk (metricsOf entries) ns, by rw [node, nodesIn_listed listed, read]; rfl, fun m mem => ?_⟩
      rw [PlanNode.preorder] at mem
      rcases List.mem_cons.mp mem with rfl | below
      · exact written
      · exact ofNodes m below

end Plan

theorem Datum.orElse_ne_null {first second : Datum} (given : second ≠ .null) : first.orElse second ≠ .null := by
  rw [orElse]
  split
  · rintro rfl
    contradiction
  · exact given

namespace ExplainRow

variable {row : ExplainRow}

theorem text?_of_get? {column : String} {cell : Datum} (found : row.get? column = some cell) (given : cell ≠ .null) :
    row.text? column = some cell.display := by
  rw [text?, found]
  cases cell with
  | null => exact absurd rfl given
  | _ => rfl

/-- A row that reports the same keys as possible and as used has unused keys only if they read like no key. -/
theorem unusedKeys?_of_sameKeys {keys : String} (possible : row.text? "possible_keys" = some keys)
    (used : row.text? "key" = some keys) : row.unusedKeys?.isSome = true ↔ Text.IsCasing "NULL" keys := by
  have isNone : Text.upper keys = "NULL" ↔ Text.IsCasing "NULL" keys :=
    Text.upper_eq_iff (by simp [Text.plainCapitals]) keys
  rw [unusedKeys?, text, text, possible, used]
  by_cases empty : keys = ""
  · subst empty
    exact iff_of_false nofun nofun
  · simp [empty, isNone]

end ExplainRow

namespace PlanNode

/-- The name that the node's table goes by in the statement. -/
def handle (n : PlanNode) : String := (n.metrics.aliasName.orElse n.metrics.relationName).display

/-- The index that the node's row reports. -/
def reportedIndex (n : PlanNode) : String := (n.metrics.indexName.orElse n.bitmapIndex).display

/-- The node reads its table whole, or is of a type that a row cannot tell from that. -/
def IsWholeScan (n : PlanNode) : Prop :=
  ∃ type, n.metrics.nodeType = .text type ∧
    (type = "Seq Scan" ∨ type = "Parallel Seq Scan" ∨ Text.IsCasing "ALL" type)

/-- The row shows what the plan tells about the node. -/
structure IsShownBy (n : PlanNode) (row : ExplainRow) : Prop where
  handle : n.handle ≠ "" ∧ row.text? "table" = some n.handle
  scan : row.isFullScan = true ↔ n.IsWholeScan
  index : row.unusedKeys?.isSome = true ↔ Text.IsCasing "NULL" n.reportedIndex
  rows : ∃ k, n.metrics.planRows = .int k ∧ rowCount (row.text? "rows") = .ok ⟨k, []⟩

theorem upper_accessType (type : String) : Text.upper (accessType type) = "ALL" ↔
    type = "Seq Scan" ∨ type = "Parallel Seq Scan" ∨ Text.IsCasing "ALL" type := by
  fun_cases accessType type with
  | case1 | case2 => exact iff_of_true (by decide) (by decide)
  | case3 | case4 | case5 | case6 => exact iff_of_false (by decide) (by decide)
  | case7 _ seq parallel =>
      rw [Text.upper_lower_eq_iff (by simp [Text.plainCapitals]), or_iff_right seq, or_iff_right parallel]

variable {n : PlanNode}

theorem bitmapIndex_ne_null : n.bitmapIndex ≠ .null := by
  rw [bitmapIndex]
  split
  · rename_i child found
    intro isNull
    have named := List.find?_some found
    rw [isNull, Bool.and_eq_true] at named
    cases named.2
  · exact nofun

theorem handle_ne_empty (written : n.metrics.AreWritten) (reads : n.readsTable = true) : n.handle ≠ "" := by
  obtain ⟨name, relation⟩ := written.relation
  obtain ⟨aliased, isAlias⟩ := written.aliased
  have named : n.metrics.relationName.truthy = true := (Bool.and_eq_true _ _ ▸ reads).1
  have given {text : String} (truthy : (Datum.text text).truthy = true) : text ≠ "" := by
    simpa [Datum.truthy] using truthy
  rw [handle, Datum.orElse]
  split
  · rename_i truthy
    rw [isAlias] at truthy ⊢
    exact given truthy
  · rw [relation] at named ⊢
    exact given named

theorem cells_of_toRow {id : Nat} {notes : PlanNotes} {row : ExplainRow} {type : String}
    (isType : n.metrics.nodeType = .text type) (made : n.toRow id notes = .ok row) :
    row.get? "id" = some (.int id) ∧
      row.get? "table" = some (n.metrics.aliasName.orElse n.metrics.relationName) ∧
      row.get? "type" = some (.text (accessType type)) ∧
      row.get? "possible_keys" = some (n.metrics.indexName.orElse n.bitmapIndex) ∧
      row.get? "key" = some (n.metrics.indexName.orElse n.bitmapIndex) ∧
      row.get? "rows" = some n.metrics.planRows ∧
      row.get? "Extra" = some (.text ("; ".intercalate
        ((if n.metrics.filter.truthy then ["Using where"] else []) ++ notes.texts))) := by
  rw [toRow, isType] at made
  cases made
  -- Each cell is found by its column, whatever the data in the cells.
  refine ⟨?_, ?_, ?_, ?_, ?_, ?_, ?_⟩
  all_goals cbv

theorem toRow_shows (written : n.metrics.AreWritten) (reads : n.readsTable = true) (id : Nat) (notes : PlanNotes) :
    ∃ row, n.toRow id notes = .ok row ∧ n.IsShownBy row := by
  obtain ⟨type, isType⟩ := written.type
  obtain ⟨name, relation⟩ := written.relation
  obtain ⟨word, k, numeral, estimate⟩ := written.rows
  obtain ⟨row, made⟩ : ∃ row, n.toRow id notes = .ok row := ⟨_, by rw [toRow, isType]; rfl⟩
  obtain ⟨-, tableCell, typeCell, possibleCell, keyCell, rowsCell, -⟩ := cells_of_toRow isType made
  have index : n.metrics.indexName.orElse n.bitmapIndex ≠ .null := Datum.orElse_ne_null bitmapIndex_ne_null
  refine ⟨row, made, ?_, ?_, ?_, ?_⟩
  · exact ⟨handle_ne_empty written reads,
      ExplainRow.text?_of_get? tableCell (Datum.orElse_ne_null (by rw [relation]; exact nofun))⟩
  · have scan : row.text? "type" = some (accessType type) := ExplainRow.text?_of_get? typeCell nofun
    rw [ExplainRow.isFullScan, decide_eq_true_eq, ExplainRow.text, scan, Option.getD_some, upper_accessType, IsWholeScan,
      isType]
    simp
  · exact ExplainRow.unusedKeys?_of_sameKeys (ExplainRow.text?_of_get? possibleCell index)
      (ExplainRow.text?_of_get? keyCell index)
  · rw [ExplainRow.text?_of_get? rowsCell (by rw [estimate]; exact nofun), estimate]
    exact ⟨k, rfl, rowCount_toString (Json.isReadable_of_wordDatum? numeral)⟩

end PlanNode

namespace Plan

theorem meeting_text (notes : PlanNotes) (type : String) : ∃ next, notes.meeting (.text type) = .ok next := by
  unfold PlanNotes.meeting
  split
  all_goals first | exact ⟨_, rfl⟩ | contradiction

theorem Flattening.add_shows {n : PlanNode} (written : n.metrics.AreWritten) (state : Flattening) :
    ∃ next shown, state.add n = .ok next ∧ next.rows = state.rows ++ shown ∧
      List.Forall₂ PlanNode.IsShownBy ([n].filter (·.readsTable)) shown := by
  obtain ⟨type, isType⟩ := written.type
  obtain ⟨notes, met⟩ := meeting_text state.notes type
  rw [← isType] at met
  by_cases reads : n.readsTable = true
  · obtain ⟨row, made, shows⟩ := PlanNode.toRow_shows written reads (state.rows.length + 1) notes
    refine ⟨_, [row], by rw [add, met]; simp only [bind, Except.bind, if_pos reads, made]; rfl, rfl, ?_⟩
    rw [List.filter_cons_of_pos reads]
    exact .cons shows .nil
  · refine ⟨_, [], by rw [add, met]; simp only [bind, Except.bind, if_neg reads]; rfl, by simp, ?_⟩
    rw [List.filter_cons_of_neg reads]
    exact .nil

theorem foldlM_add_shows {nodes : List PlanNode} (written : ∀ n ∈ nodes, n.metrics.AreWritten) (state : Flattening) :
    ∃ final shown, nodes.foldlM Flattening.add state = .ok final ∧ final.rows = state.rows ++ shown ∧
      List.Forall₂ PlanNode.IsShownBy (nodes.filter (·.readsTable)) shown := by
  induction nodes generalizing state with
  | nil => exact ⟨state, [], rfl, (List.append_nil _).symm, .nil⟩
  | cons n rest ih =>
      obtain ⟨first, others⟩ := List.forall_mem_cons.mp written
      obtain ⟨next, shown, added, rows, shows⟩ := Flattening.add_shows first state
      obtain ⟨final, more, folded, finalRows, showMore⟩ := ih others next
      refine ⟨final, shown ++ more, ?_, ?_, ?_⟩
      · rw [List.foldlM_cons, added]
        exact folded
      · rw [finalRows, rows, List.append_assoc]
      · rw [← List.singleton_append, List.filter_append]
        exact List.rel_append shows showMore

/-- The rows of a plan show the nodes that read a table, in pre-order. -/
theorem rowsOf_shows {root : PlanNode} (written : ∀ n ∈ root.preorder, n.metrics.AreWritten) :
    ∃ rows, rowsOf root = .ok rows ∧ List.Forall₂ PlanNode.IsShownBy (root.preorder.filter (·.readsTable)) rows := by
  obtain ⟨final, shown, folded, rows, shows⟩ := foldlM_add_shows written {}
  exact ⟨shown, by rw [rowsOf, folded, ← List.nil_append shown, ← rows]; rfl, shows⟩

end Plan

end SqlAdvisor
