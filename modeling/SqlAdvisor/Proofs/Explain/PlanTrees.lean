import SqlAdvisor.Proofs.Explain.PlanRows

/-! # The trees of a plan document

A document holds the tree of a plan, and each node the trees that it reads from. Whatever other fields there are, a tree
whose names and conditions are texts is read, and its trees become the nodes of the plan, in pre-order.
-/

namespace SqlAdvisor

namespace Plan

/-- The text of a field of a node. A field that is left out is empty. -/
def fieldText (tree : Datum) (name : String) : String := (tree.textAt? name).getD ""

/-- The trees of the nodes that a node reads from. -/
def below (tree : Datum) : List Datum := tree.itemsAt "Plans"

theorem sizeOf_lt_of_mem_below {tree child : Datum} (mem : child ∈ below tree) : sizeOf child < sizeOf tree := by
  rw [below, Datum.itemsAt] at mem
  cases tree with
  | table entries =>
      rw [Datum.entry?] at mem
      cases found : entries.lookup "Plans" with
      | none => simp [found] at mem
      | some value =>
          obtain ⟨before, after, split, -⟩ := List.lookup_eq_some_iff.mp found
          have listed : ("Plans", value) ∈ entries := by simp [split]
          have entry := List.sizeOf_lt_of_mem listed
          rw [found] at mem
          cases value with
          | list items =>
              have item := List.sizeOf_lt_of_mem (show child ∈ items from mem)
              simp only [Prod.mk.sizeOf_spec, Datum.list.sizeOf_spec, Datum.table.sizeOf_spec] at *
              omega
          | _ => cases mem
  | _ => cases mem

/-- A tree and all trees below it, each before those that it reads from. -/
def trees (tree : Datum) : List Datum :=
  tree :: (below tree).attach.flatMap fun child => trees child.1
termination_by sizeOf tree
decreasing_by exact sizeOf_lt_of_mem_below child.2

theorem trees_eq (tree : Datum) : trees tree = tree :: (below tree).flatMap trees := by
  rw [trees, List.flatMap_subtype (g := trees) (fun _ _ => rfl), List.unattach_attach]

theorem trees_at_flatMap {items : List Datum} {caller : Datum} {before rest : List Datum}
    (each : ∀ item ∈ items, ∀ before rest, trees item = before ++ caller :: rest →
      ∃ after, rest = (below caller).flatMap trees ++ after)
    (split : items.flatMap trees = before ++ caller :: rest) : ∃ after, rest = (below caller).flatMap trees ++ after := by
  induction items generalizing before with
  | nil => simp at split
  | cons item others ih =>
      obtain ⟨ofItem, ofOthers⟩ := List.forall_mem_cons.mp each
      rw [List.flatMap_cons] at split
      rcases List.append_eq_append_iff.mp split with ⟨skipped, -, later⟩ | ⟨begun, isItem, isRest⟩
      · exact ih ofOthers later
      · cases begun with
        | nil =>
            have later : others.flatMap trees = [] ++ caller :: rest := by simpa using isRest.symm
            exact ih ofOthers later
        | cons first begun =>
            obtain ⟨rfl, rfl⟩ := List.cons.inj isRest
            obtain ⟨after, rfl⟩ := ofItem before begun isItem
            exact ⟨after ++ others.flatMap trees, by simp⟩

/-- The trees below a tree follow it at once, wherever it stands in a plan. -/
theorem trees_at {tree caller : Datum} {before rest : List Datum} (split : trees tree = before ++ caller :: rest) :
    ∃ after, rest = (below caller).flatMap trees ++ after := by
  induction tree using trees.induct generalizing before rest with
  | case1 tree ih =>
      rw [trees_eq] at split
      cases before with
      | nil =>
          obtain ⟨rfl, rfl⟩ := List.cons.inj split
          exact ⟨[], by simp⟩
      | cons first before =>
          exact trees_at_flatMap (fun item mem before rest split => ih ⟨item, mem⟩ split) (List.cons.inj split).2

/-! ## What a node tells -/

def isBitmapIndexScan (tree : Datum) : Bool := fieldText tree "Node Type" = "Bitmap Index Scan"

/-- Whether the node names a table and reads it, and not only an index for the bitmap of its parent. -/
def readsTable (tree : Datum) : Bool := fieldText tree "Relation Name" ≠ "" && !isBitmapIndexScan tree

/-- The first of some texts that is not empty, if there is one. -/
def firstGiven : List String → String
  | [] => ""
  | text :: rest => if text = "" then firstGiven rest else text

/-- The name that the node's table goes by: its alias, or else its own. -/
def tableName (tree : Datum) : String := firstGiven [fieldText tree "Alias", fieldText tree "Relation Name"]

/-- The index that the node uses: its own, or else that of its first child that scans one for a bitmap. -/
def indexUsed (tree : Datum) : String :=
  firstGiven (fieldText tree "Index Name" ::
    ((below tree).filter isBitmapIndexScan).map fun child => fieldText child "Index Name")

/-- The fields that hold a condition by which a node filters or searches. -/
def conditionFields : List String := ["Filter", "Index Cond", "Recheck Cond"]

def condition (tree : Datum) : String := firstGiven (conditionFields.map (fieldText tree))

theorem firstGiven_singleton (text : String) : firstGiven [text] = text := by
  by_cases empty : text = "" <;> simp [firstGiven, empty]

theorem firstGiven_ne_empty {texts : List String} : firstGiven texts ≠ "" ↔ ∃ text ∈ texts, text ≠ "" := by
  induction texts with
  | nil => simp [firstGiven]
  | cons text rest ih =>
      rw [firstGiven]
      by_cases empty : text = ""
      · simpa [empty] using ih
      · simp [empty]

theorem condition_ne_empty {tree : Datum} :
    condition tree ≠ "" ↔ ∃ field ∈ conditionFields, fieldText tree field ≠ "" := by
  simp [condition, firstGiven_ne_empty]

/-! ## Reading a document -/

/-- The fields of a node that hold texts, where they are given. -/
def textFields : List String := ["Node Type", "Relation Name", "Alias", "Index Name"] ++ conditionFields

/-- The tree of a node whose names and conditions are texts, and so are those of the nodes in the list under `Plans`,
    if there is one. -/
inductive IsTextual : Datum → Prop where
  | node {entries : List (String × Datum)} {children : List Datum}
      (texts : ∀ name ∈ textFields, ∀ value, entries.lookup name = some value → ∃ text, value = .text text)
      (listed : (entries.lookup "Plans").getD (.list []) = .list children)
      (each : ∀ child ∈ children, IsTextual child) : IsTextual (.table entries)

/-- The node holds what the tree tells about it. -/
structure IsReadAs (tree : Datum) (n : PlanNode) : Prop where
  nodeType : n.metrics.nodeType = .text (fieldText tree "Node Type")
  relation : n.metrics.relationName = .text (fieldText tree "Relation Name")
  aliased : n.metrics.aliasName = .text (fieldText tree "Alias")
  indexName : n.metrics.indexName = .text (fieldText tree "Index Name")
  used : n.metrics.indexName.orElse n.bitmapIndex = .text (indexUsed tree)
  rows : n.metrics.planRows = (tree.entry? "Plan Rows").getD (.int 0)
  filter : n.metrics.filter = .text (condition tree)

theorem truthy_text (text : String) : (Datum.text text).truthy = decide (text ≠ "") := by
  by_cases empty : text = "" <;> simp [Datum.truthy, empty]

theorem orElse_firstGiven (text : String) (rest : List String) :
    (Datum.text text).orElse (.text (firstGiven rest)) = .text (firstGiven (text :: rest)) := by
  rw [Datum.orElse, truthy_text, firstGiven]
  by_cases empty : text = "" <;> simp [empty]

section

variable {tree : Datum} {n : PlanNode} {entries : List (String × Datum)} {children : List Datum} {ns : List PlanNode}

theorem IsReadAs.isBitmapIndexScan_eq (reads : IsReadAs tree n) : n.isBitmapIndexScan = isBitmapIndexScan tree := by
  rw [PlanNode.isBitmapIndexScan, reads.nodeType, isText, isBitmapIndexScan]

theorem IsReadAs.readsTable_eq (reads : IsReadAs tree n) : n.readsTable = readsTable tree := by
  rw [PlanNode.readsTable, reads.isBitmapIndexScan_eq, reads.relation, truthy_text, readsTable]

theorem bitmapIndex_eq (metrics : PlanMetrics) (reads : List.Forall₂ IsReadAs children ns) :
    (PlanNode.mk metrics ns).bitmapIndex =
      .text (firstGiven ((children.filter isBitmapIndexScan).map fun child => fieldText child "Index Name")) := by
  rw [PlanNode.bitmapIndex, PlanNode.children]
  induction reads with
  | nil => rfl
  | @cons child n children ns first _ ih =>
      rw [List.find?_cons, first.isBitmapIndexScan_eq, first.indexName, truthy_text, List.filter_cons]
      by_cases bitmap : isBitmapIndexScan child = true
      · rw [if_pos bitmap, List.map_cons, firstGiven, bitmap]
        by_cases empty : fieldText child "Index Name" = ""
        · simpa [empty] using ih
        · simp [empty, first.indexName]
      · simpa [bitmap] using ih

theorem below_table (listed : (entries.lookup "Plans").getD (.list []) = .list children) :
    below (.table entries) = children := by
  rw [below, Datum.itemsAt, Datum.entry?]
  cases found : entries.lookup "Plans" with
  | none =>
      rw [found] at listed
      cases listed
      rfl
  | some value =>
      rw [found] at listed
      cases listed
      rfl

theorem lookup_text {name : String}
    (texts : ∀ value, entries.lookup name = some value → ∃ text, value = .text text) :
    (entries.lookup name).getD (.text "") = .text (fieldText (.table entries) name) := by
  rw [fieldText, Datum.textAt?, Datum.entry?]
  cases found : entries.lookup name with
  | none => rfl
  | some value =>
      obtain ⟨text, rfl⟩ := texts value found
      rfl

theorem isReadAs_table
    (texts : ∀ name ∈ textFields, ∀ value, entries.lookup name = some value → ∃ text, value = .text text)
    (listed : (entries.lookup "Plans").getD (.list []) = .list children) (reads : List.Forall₂ IsReadAs children ns) :
    IsReadAs (.table entries) (.mk (metricsOf entries) ns) := by
  have text (name : String) (mem : name ∈ textFields) := lookup_text (texts name mem)
  have index := text "Index Name" (by decide)
  constructor
  case nodeType => exact text _ (by decide)
  case relation => exact text _ (by decide)
  case aliased => exact text _ (by decide)
  case indexName => exact index
  case used =>
      have own : (PlanNode.mk (metricsOf entries) ns).metrics.indexName = _ := index
      rw [own, bitmapIndex_eq _ reads, orElse_firstGiven, indexUsed, below_table listed]
  case rows => rfl
  case filter =>
      have filter := text "Filter" (by decide)
      have search := text "Index Cond" (by decide)
      have recheck := text "Recheck Cond" (by decide)
      simp only [PlanNode.metrics, metricsOf]
      rw [filter, search, recheck, ← firstGiven_singleton (fieldText _ "Recheck Cond"), orElse_firstGiven,
        orElse_firstGiven]
      rfl

theorem nodes_read (each : ∀ child ∈ children, ∃ n, node child = .ok n ∧ IsReadAs child n ∧
      List.Forall₂ IsReadAs (trees child) n.preorder) :
    ∃ ns, nodes children = .ok ns ∧ List.Forall₂ IsReadAs children ns ∧
      List.Forall₂ IsReadAs (children.flatMap trees) (PlanNode.preorderAll ns) := by
  induction children with
  | nil => exact ⟨[], by rw [nodes], .nil, by rw [PlanNode.preorderAll]; exact .nil⟩
  | cons child rest ih =>
      obtain ⟨⟨n, read, isRead, below⟩, others⟩ := List.forall_mem_cons.mp each
      obtain ⟨ns, readRest, areRead, belowRest⟩ := ih others
      refine ⟨n :: ns, by rw [nodes, read, readRest]; rfl, .cons isRead areRead, ?_⟩
      rw [List.flatMap_cons, PlanNode.preorderAll]
      exact List.rel_append below belowRest

/-- A tree of a document is read, and all its trees are read as the nodes of the plan, in pre-order. -/
theorem node_reads (isTextual : IsTextual tree) :
    ∃ n, node tree = .ok n ∧ IsReadAs tree n ∧ List.Forall₂ IsReadAs (trees tree) n.preorder := by
  induction isTextual with
  | @node entries children texts listed _ ih =>
      obtain ⟨ns, read, areRead, below⟩ := nodes_read ih
      have isRead := isReadAs_table texts listed areRead
      refine ⟨_, by rw [node, nodesIn_listed listed, read]; rfl, isRead, ?_⟩
      rw [trees_eq, below_table listed, PlanNode.preorder]
      exact .cons isRead below

end

end Plan

end SqlAdvisor
