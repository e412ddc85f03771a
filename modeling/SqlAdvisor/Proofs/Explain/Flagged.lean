import SqlAdvisor.Proofs.Dictionary
import SqlAdvisor.Proofs.Explain.Findings

/-! # The flags of a correlation

The tables are flagged in the order of the first warnings about them, and each as strongly as the strongest warning
about it. Which warnings there are about a table does not hang on the order of the rows, so neither does its flag.
-/

namespace SqlAdvisor

theorem WarningType.flag_eq_severe_iff {type : WarningType} : type.flag = .severe ↔ type = .fullTableScan := by
  cases type <;> simp [flag]

namespace Correlation

variable {flagged : Dictionary String TableFlag} {warnings : List TableWarning} {table : String}

theorem find?_raiseFlag_of_ne {warning : TableWarning} (other : warning.table ≠ table) :
    (raiseFlag flagged warning).find? table = flagged.find? table := by
  have apart : table ≠ warning.table := Ne.symm other
  rw [raiseFlag]
  split
  · rw [Dictionary.find?_insert, if_neg apart]
  · split
    · rw [Dictionary.find?_insert, if_neg apart]
    · rfl

theorem find?_raiseFlag_self (warning : TableWarning) :
    ∃ flag, (raiseFlag flagged warning).find? warning.table = some flag ∧
      (flag = .severe ↔ flagged.find? warning.table = some .severe ∨ warning.type.flag = .severe) := by
  rw [raiseFlag]
  cases isFlagged : flagged.find? warning.table with
  | none => exact ⟨_, by rw [Dictionary.find?_insert, if_pos rfl], by simp⟩
  | some current =>
      cases current <;> cases raised : warning.type.flag <;>
        simp [TableFlag.exceeds, Dictionary.find?_insert, isFlagged]

/-- A table is flagged if there is a warning about it, and severely if there is one of a full table scan. -/
theorem find?_flagsOf (warnings : List TableWarning) (table : String) :
    ((flagsOf warnings).find? table = none ↔ ∀ warning ∈ warnings, warning.table ≠ table) ∧
      ((flagsOf warnings).find? table = some .severe ↔
        ∃ warning ∈ warnings, warning.table = table ∧ warning.type = .fullTableScan) := by
  induction warnings using List.reverseRecOn with
  | nil => simp [flagsOf, EmptyCollection.emptyCollection]
  | append_singleton earlier warning ih =>
      obtain ⟨noneBefore, severeBefore⟩ := ih
      rw [flagsOf, List.foldl_append, List.foldl_cons, List.foldl_nil, ← flagsOf]
      by_cases about : warning.table = table
      · subst about
        obtain ⟨flag, isFlagged, severe⟩ := @find?_raiseFlag_self (flagsOf earlier) warning
        rw [isFlagged, Option.some.injEq, severe, severeBefore, WarningType.flag_eq_severe_iff]
        simp [or_and_right, exists_or]
      · rw [find?_raiseFlag_of_ne about, noneBefore, severeBefore]
        simp [about, or_imp, forall_and, or_and_right, exists_or]

theorem find?_flagsOf_eq_warn : (flagsOf warnings).find? table = some .warn ↔
    (∃ warning ∈ warnings, warning.table = table) ∧
      ¬∃ warning ∈ warnings, warning.table = table ∧ warning.type = .fullTableScan := by
  obtain ⟨none, severe⟩ := find?_flagsOf warnings table
  have isFlagged := not_congr none
  push Not at isFlagged
  rw [← isFlagged, ← severe]
  cases (flagsOf warnings).find? table with
  | none => simp
  | some flag => cases flag <;> simp

theorem find?_flagsOf_congr {others : List TableWarning}
    (about : (∃ warning ∈ warnings, warning.table = table) ↔ ∃ warning ∈ others, warning.table = table)
    (scans : (∃ warning ∈ warnings, warning.table = table ∧ warning.type = .fullTableScan) ↔
      ∃ warning ∈ others, warning.table = table ∧ warning.type = .fullTableScan) :
    (flagsOf warnings).find? table = (flagsOf others).find? table := by
  refine Option.ext fun flag => ?_
  cases flag with
  | warn => rw [find?_flagsOf_eq_warn, find?_flagsOf_eq_warn, about, scans]
  | severe => rw [(find?_flagsOf warnings table).2, (find?_flagsOf others table).2, scans]

theorem keys_raiseFlag (flagged : Dictionary String TableFlag) (warning : TableWarning) :
    (raiseFlag flagged warning).keys =
      if warning.table ∈ flagged.keys then flagged.keys else flagged.keys ++ [warning.table] := by
  rw [raiseFlag]
  split
  · exact flagged.keys_insert warning.table _
  · rename_i current found
    split
    · exact flagged.keys_insert warning.table _
    · rw [if_pos (Dictionary.mem_keys.mpr ⟨current, found⟩)]

theorem keys_flagsOf (warnings : List TableWarning) :
    (flagsOf warnings).keys = (warnings.map (·.table)).eraseDups := by
  induction warnings using List.reverseRecOn with
  | nil => rfl
  | append_singleton earlier warning ih =>
      rw [flagsOf, List.foldl_append, List.foldl_cons, List.foldl_nil, ← flagsOf, keys_raiseFlag, ih, List.map_append,
        List.eraseDups_append]
      by_cases old : warning.table ∈ earlier.map (·.table)
      · rw [if_pos (List.mem_eraseDups.mpr old)]
        simp [List.cons_removeAll, old]
      · rw [if_neg (mt List.mem_eraseDups.mp old)]
        simp [List.cons_removeAll, old]
        rfl

variable {rows : List ExplainRow} {aliases : AliasMap} {usages : TableUsages} {thresholds : Thresholds}

/-- There is a warning of a type about a table if a row of the table calls for it, wherever the row stands. -/
theorem exists_warning_iff {index : Nat} {type : WarningType} :
    (∃ warning ∈ (ofReports (reportsOn aliases usages thresholds rows index)).warnings,
        warning.table = table ∧ warning.type = type) ↔
      ∃ row ∈ rows, RowSubject.tableOf (row.text? "table") aliases usages = some table ∧
        type.isTold row thresholds row.estimate = true := by
  constructor
  · rintro ⟨warning, mem, rfl, rfl⟩
    obtain ⟨row, among, position, told, finding, found, isWarning⟩ := exists_finding_of_mem_warnings mem
    refine ⟨row, among, told, RowReport.mem_types_findings.mp (List.mem_map.mpr ⟨finding, found, ?_⟩)⟩
    rw [isWarning]
    rfl
  · rintro ⟨row, among, told, isTold⟩
    obtain ⟨position, bound, rfl⟩ := List.mem_iff_getElem.mp among
    let report := RowReport.ofEstimate aliases usages thresholds rows[position] (index + position)
      rows[position].estimate
    have isSubject : report.subject.table = some table := told
    obtain ⟨finding, found, rfl⟩ := List.mem_map.mp (RowReport.mem_types_findings.mpr isTold)
    refine ⟨RowReport.toWarning report.subject table finding, List.mem_flatMap.mpr ⟨report, ?_, ?_⟩, rfl, rfl⟩
    · refine List.mem_map.mpr ⟨(rows[position], index + position), ?_, rfl⟩
      exact List.mk_add_mem_zipIdx_iff_getElem?.mpr (List.getElem?_eq_getElem bound)
    · rw [RowReport.warnings, isSubject]
      exact List.mem_map_of_mem found

theorem find?_flagged_perm {others : List ExplainRow} (perm : rows.Perm others) (table : String) :
    (ofReports (reportsOn aliases usages thresholds others 0)).flagged.find? table =
      (ofReports (reportsOn aliases usages thresholds rows 0)).flagged.find? table := by
  have same (type : WarningType) :
      (∃ warning ∈ (ofReports (reportsOn aliases usages thresholds others 0)).warnings,
          warning.table = table ∧ warning.type = type) ↔
        ∃ warning ∈ (ofReports (reportsOn aliases usages thresholds rows 0)).warnings,
          warning.table = table ∧ warning.type = type := by
    rw [exists_warning_iff, exists_warning_iff]
    simp only [perm.mem_iff]
  have ofAnyType (warnings : List TableWarning) : (∃ warning ∈ warnings, warning.table = table) ↔
      ∃ type, ∃ warning ∈ warnings, warning.table = table ∧ warning.type = type := by
    refine ⟨fun ⟨warning, among, about⟩ => ⟨_, warning, among, about, rfl⟩, ?_⟩
    rintro ⟨type, warning, among, about, -⟩
    exact ⟨warning, among, about⟩
  apply find?_flagsOf_congr _ (same .fullTableScan)
  rw [ofAnyType, ofAnyType]
  exact exists_congr same

end Correlation

/-- Whatever rows can be correlated, the tables are flagged in the order of the first warnings about them: severely
    where a warning is of a full table scan, and otherwise with a warning. The same rows can be correlated in any other
    order, and then every table has the same flag. -/
theorem flags_are_strongest {rows : List ExplainRow} {aliases : AliasMap} {usages : TableUsages}
    {thresholds : Thresholds} {correlated : Logged Correlation}
    (returned : Correlation.ofRows rows aliases usages thresholds = .ok correlated) :
    correlated.value.flagged.keys = (correlated.value.warnings.map (·.table)).eraseDups ∧
    (∀ table, correlated.value.flagged.find? table = some .severe ↔
      ∃ warning ∈ correlated.value.warnings, warning.table = table ∧ warning.type = .fullTableScan) ∧
    (∀ table, correlated.value.flagged.find? table = some .warn ↔
      (∃ warning ∈ correlated.value.warnings, warning.table = table) ∧
        ¬∃ warning ∈ correlated.value.warnings, warning.table = table ∧ warning.type = .fullTableScan) ∧
    ∀ others, rows.Perm others → ∃ again, Correlation.ofRows others aliases usages thresholds = .ok again ∧
      ∀ table, again.value.flagged.find? table = correlated.value.flagged.find? table := by
  have flags := Correlation.ofRows_flagged returned
  refine ⟨?order, fun table => ?severe, fun table => ?warn, fun others perm => ?again⟩
  case order => rw [flags, Correlation.keys_flagsOf]
  case severe => rw [flags, (Correlation.find?_flagsOf _ table).2]
  case warn => rw [flags, Correlation.find?_flagsOf_eq_warn]
  case again =>
    have reportable := Correlation.ofRows_total_iff.mp ⟨correlated, returned⟩
    obtain ⟨again, returnedAgain⟩ : ∃ again, Correlation.ofRows others aliases usages thresholds = .ok again :=
      Correlation.ofRows_total_iff.mpr fun row mem => reportable row (perm.mem_iff.mpr mem)
    refine ⟨again, returnedAgain, fun table => ?_⟩
    rw [Correlation.ofRows_value returnedAgain, Correlation.ofRows_value returned]
    exact Correlation.find?_flagged_perm perm table

/-- A sort that reads a table through one alias, and then a scan of the same table through another one. -/
def sortThenScan : List ExplainRow :=
  [.ofCells [("id", .int 1), ("table", .text "o"), ("type", .text "index"), ("Extra", .text "Using filesort")],
   .ofCells [("id", .int 2), ("table", .text "p"), ("type", .text "ALL")]]

/-- What is found of some rows of a statement that reads a table through two aliases. -/
def correlatedTwice (rows : List ExplainRow) : Except Fault (Logged Correlation) :=
  Correlation.ofRows rows (.ofList [("o", "orders"), ("p", "orders")]) (.ofList [(.known "orders", {})]) {}

theorem flags_are_strongest_sortThenScan : ∃ correlated again,
    correlatedTwice sortThenScan = .ok correlated ∧ correlatedTwice sortThenScan.reverse = .ok again ∧
    correlated.value.flagged.keys = ["orders"] ∧ correlated.value.flagged.find? "orders" = some .severe ∧
    again.value.flagged.find? "orders" = some .severe := by
  have told : (correlatedTwice sortThenScan).map
      (fun correlated => correlated.value.warnings.map fun warning => (warning.table, warning.type)) =
      .ok [("orders", .filesortUsed), ("orders", .fullTableScan)] := rfl
  obtain ⟨correlated, returned, told⟩ := Except.map_eq_ok.mp told
  obtain ⟨order, severe, -, anyOrder⟩ := flags_are_strongest returned
  obtain ⟨again, returnedAgain, same⟩ := anyOrder _ (List.reverse_perm sortThenScan).symm
  have tables : correlated.value.warnings.map (·.table) = ["orders", "orders"] := by
    simpa [Function.comp_def] using congrArg (List.map Prod.fst) told
  have scan : ("orders", .fullTableScan) ∈
      correlated.value.warnings.map fun warning => (warning.table, warning.type) := by simp [told]
  obtain ⟨warning, among, isScan⟩ := List.mem_map.mp scan
  have isSevere := (severe "orders").mpr ⟨warning, among, congrArg Prod.fst isScan, congrArg Prod.snd isScan⟩
  exact ⟨correlated, again, returned, returnedAgain, by rw [order, tables]; rfl, isSevere, by rw [same, isSevere]⟩

end SqlAdvisor
