import SqlAdvisor.Proofs.Explain.Findings
import SqlAdvisor.Proofs.Explain.PlanRows

/-! # What is found in a plan

A plan is correlated through its rows. The warnings come out as if each node that reads a table had been judged by
itself, in pre-order: by the kind of its scan, its index and its estimate.
-/

namespace SqlAdvisor

namespace PlanNode

/-- The warnings are about the table, at most one of a type, and tell exactly what is to be told of the node. -/
structure IsJudgedBy (n : PlanNode) (table : String) (thresholds : Thresholds) (warnings : List TableWarning) :
    Prop where
  about : ∀ warning ∈ warnings, warning.table = table
  once : (warnings.map (·.type)).Nodup
  scan : .fullTableScan ∈ warnings.map (·.type) ↔ n.IsWholeScan
  index : .indexNotUsed ∈ warnings.map (·.type) ↔ Text.IsCasing "NULL" n.reportedIndex
  estimate : ∃ k, n.metrics.planRows = .int k ∧ (.highRowEstimate ∈ warnings.map (·.type) ↔ thresholds.high < k) ∧
    ∀ warning ∈ warnings, warning.type = .highRowEstimate → warning.message = "Est. rows: " ++ toString k

/-- If its name means a known table, the warnings judge the node, and otherwise there are none. -/
structure Warns (n : PlanNode) (aliases : AliasMap) (usages : TableUsages) (thresholds : Thresholds)
    (warnings : List TableWarning) : Prop where
  known : ∀ table, resolve n.handle aliases usages.knownTables = .known table → n.IsJudgedBy table thresholds warnings
  unknown : (∀ table, resolve n.handle aliases usages.knownTables ≠ .known table) → warnings = []

namespace IsShownBy

variable {n : PlanNode} {row : ExplainRow} {aliases : AliasMap} {usages : TableUsages} {thresholds : Thresholds}

theorem estimate (shows : n.IsShownBy row) : n.metrics.planRows = .int row.estimate := by
  obtain ⟨k, isRows, counts⟩ := shows.rows
  rw [isRows, ExplainRow.estimate, counts]

theorem fits (shows : n.IsShownBy row) : ¬IsTooGreat (row.text? "rows") := by
  obtain ⟨k, -, counts⟩ := shows.rows
  intro great
  exact nomatch counts.symm.trans (rowCount_eq_error.mpr ⟨rfl, great⟩)

theorem tableOf_eq_some (shows : n.IsShownBy row) {table : String} :
    RowSubject.tableOf (row.text? "table") aliases usages = some table ↔
      resolve n.handle aliases usages.knownTables = .known table := by
  obtain ⟨given, cell⟩ := shows.handle
  rw [RowSubject.tableOf_eq_some, cell]
  constructor
  · rintro ⟨_, same, -, means⟩
    obtain rfl := Option.some.inj same
    exact means
  · exact fun means => ⟨n.handle, rfl, given, means⟩

theorem judges (shows : n.IsShownBy row) (s : RowSubject) (table : String) :
    n.IsJudgedBy table thresholds
      ((RowReport.findings ⟨s, RowReport.remarksOn s row thresholds row.estimate⟩).map
        (RowReport.toWarning s table)) := by
  have types (findings : List Finding) :
      (findings.map (RowReport.toWarning s table)).map (·.type) = findings.map (·.type) := List.map_map
  constructor
  case about =>
      rintro _ mem
      obtain ⟨finding, -, rfl⟩ := List.mem_map.mp mem
      rfl
  case once =>
      rw [types, RowReport.types_findings]
      exact List.Nodup.filter _ (by decide)
  case scan => rw [types, RowReport.mem_types_findings, WarningType.isTold, shows.scan]
  case index => rw [types, RowReport.mem_types_findings, WarningType.isTold, shows.index]
  case estimate =>
      refine ⟨row.estimate, shows.estimate, ?_, ?_⟩
      · rw [types, RowReport.mem_types_findings, WarningType.isTold, decide_eq_true_eq]
      · intro _ mem isEstimate
        obtain ⟨finding, found, rfl⟩ := List.mem_map.mp mem
        rw [RowReport.eq_highRowEstimate_of_mem_findings found isEstimate]
        rfl

theorem warns (shows : n.IsShownBy row) (position : Nat) :
    n.Warns aliases usages thresholds
      (RowReport.ofEstimate aliases usages thresholds row position row.estimate).warnings := by
  constructor
  case known =>
      intro table means
      have told : (RowSubject.ofRow position row aliases usages).table = some table := shows.tableOf_eq_some.mpr means
      rw [RowReport.warnings, RowReport.ofEstimate, told]
      exact shows.judges _ table
  case unknown =>
      intro noTable
      have told : (RowSubject.ofRow position row aliases usages).table = none :=
        Option.eq_none_iff_forall_ne_some.mpr fun table told => noTable table (shows.tableOf_eq_some.mp told)
      rw [RowReport.warnings, RowReport.ofEstimate, told]

end IsShownBy

end PlanNode

namespace Correlation

variable {aliases : AliasMap} {usages : TableUsages} {thresholds : Thresholds}

theorem reportsOn_warn {nodes : List PlanNode} {rows : List ExplainRow}
    (shows : List.Forall₂ PlanNode.IsShownBy nodes rows) (position : Nat) :
    List.Forall₂ (fun n warnings => n.Warns aliases usages thresholds warnings) nodes
      ((reportsOn aliases usages thresholds rows position).map RowReport.warnings) := by
  induction shows generalizing position with
  | nil => exact .nil
  | cons first _ ih =>
      rw [reportsOn_cons, List.map_cons]
      exact .cons (first.warns position) (ih (position + 1))

end Correlation

/-- Whatever the aliases, records and thresholds, a document that describes a tree of nodes is correlated. The warnings
    are those of the nodes that read a table, in pre-order. A node whose name means a known table is warned of as a
    whole scan, as passing over its index and as a high estimate exactly where the plan says so, and the estimate that
    is cited is the plan's. Any other node has no warnings. -/
theorem plan_warnings {document tree : Datum} {usages : TableUsages} (describes : Plan.rootDatum document = .ok tree)
    (isTree : Plan.IsTree tree) (named : usages.AreNamed) (aliases : AliasMap) (thresholds : Thresholds) :
    ∃ root rows correlated warnings, Plan.root document = .ok root ∧ Plan.rows document = .ok rows ∧
      Correlation.ofRows rows aliases usages thresholds = .ok correlated ∧
      correlated.value.warnings = warnings.flatten ∧
      List.Forall₂ (fun n warnings => n.Warns aliases usages thresholds warnings)
        (root.preorder.filter (·.readsTable)) warnings := by
  obtain ⟨root, read, written⟩ := Plan.node_total isTree
  obtain ⟨rows, listed, shows⟩ := Plan.rowsOf_shows written
  have isRoot : Plan.root document = .ok root := by
    rw [Plan.root, describes]
    exact read
  have isListed : Plan.rows document = .ok rows := by
    rw [Plan.rows, isRoot]
    exact listed
  have fit : ∀ row ∈ rows, ¬IsTooGreat (row.text? "rows") := by
    intro row mem
    obtain ⟨n, -, shown⟩ := (forall₂_partners shows).2 row mem
    exact shown.fits
  let reports := Correlation.reportsOn aliases usages thresholds rows 0
  obtain ⟨log, reported⟩ : ∃ log, Correlation.reportsFrom aliases usages thresholds rows 0 = .ok ⟨reports, log⟩ :=
    Correlation.reportsFrom_total named fit 0
  refine ⟨root, rows, ⟨.ofReports reports, log⟩, reports.map RowReport.warnings, isRoot, isListed, ?_, ?_,
    Correlation.reportsOn_warn shows 0⟩
  · rw [Correlation.ofRows, reported]
    rfl
  · exact List.flatMap_def

/-- A plan that sorts what it reads of one table. -/
def sortedScan : Datum :=
  .table [("Node Type", .text "Sort"), ("Plan Rows", .int 20000), ("Plans", .list [.table [
    ("Node Type", .text "Seq Scan"), ("Relation Name", .text "orders"), ("Alias", .text "o"),
    ("Plan Rows", .int 20000)]])]

theorem sortedScan_isTree : Plan.IsTree sortedScan := by
  have numeral : Json.wordDatum? "20000" = some (.int 20000) := rfl
  refine .node ⟨⟨"Sort", by cbv⟩, ⟨"", by cbv⟩, ⟨"", by cbv⟩, "20000", 20000, numeral, by cbv⟩ rfl ?_
  refine List.forall_mem_singleton.mpr ?_
  exact .node ⟨⟨"Seq Scan", by cbv⟩, ⟨"orders", by cbv⟩, ⟨"o", by cbv⟩, "20000", 20000, numeral, by cbv⟩ rfl (List.forall_mem_nil _)

/-- A warning about the table that is scanned cites the estimate of the scan. -/
theorem plan_warnings_sortedScan :
    ∃ rows correlated, Plan.rows (.list [.table [("Plan", sortedScan)]]) = .ok rows ∧
      Correlation.ofRows rows (.ofRefs [⟨"orders", some (.text "o")⟩]) (Dictionary.insert ∅ (.known "orders") {}) {} =
        .ok correlated ∧
      ∃ warning ∈ correlated.value.warnings, warning.table = "orders" ∧ warning.message = "Est. rows: 20000" := by
  have described : Plan.rootDatum (.list [.table [("Plan", sortedScan)]]) = .ok sortedScan := by rfl
  have empty : TableUsages.AreNamed ∅ := fun entry mem => nomatch mem
  have named := empty.insert (.known "orders") (TableUsage.isNamed_empty none)
  obtain ⟨root, rows, correlated, warnings, read, listed, correlates, flattened, each⟩ :=
    plan_warnings described sortedScan_isTree named (.ofRefs [⟨"orders", some (.text "o")⟩]) {}
  refine ⟨rows, correlated, listed, correlates, ?_⟩
  have readers : (Plan.root (.list [.table [("Plan", sortedScan)]])).map (fun root =>
      (root.preorder.filter (·.readsTable)).map fun n => (n.handle, n.metrics.planRows)) =
        .ok [("o", .int 20000)] := by cbv
  rw [read] at readers
  simp only [Except.map, Except.ok.injEq, List.map_eq_singleton_iff, Prod.mk.injEq] at readers
  obtain ⟨n, isOnly, handle, isRows⟩ := readers
  rw [isOnly] at each
  obtain ⟨own, _, warns, none, rfl⟩ := List.forall₂_cons_left_iff.mp each
  cases none
  have means : resolve n.handle (.ofRefs [⟨"orders", some (.text "o")⟩])
      (TableUsages.knownTables (Dictionary.insert ∅ (.known "orders") {})) = .known "orders" := by
    rw [handle]
    cbv
  have judged := warns.known "orders" means
  obtain ⟨k, isEstimate, high, cites⟩ := judged.estimate
  cases isRows.symm.trans isEstimate
  obtain ⟨warning, mem, type⟩ := List.mem_map.mp (high.mpr (by decide))
  refine ⟨warning, by simpa [flattened] using mem, judged.about warning mem, ?_⟩
  exact (cites warning mem type).trans (by decide)

end SqlAdvisor
