import SqlAdvisor.Proofs.Explain.Report

/-! # What is found in a row

The cells of a row and its estimate tell which findings there are about it, each at most once. The columns that a
finding suggests are those of one set of the table's record.
-/

namespace SqlAdvisor

/-- The set of a table's record whose columns a warning of the type suggests. -/
def WarningType.usageSet : WarningType → UsageSet
  | fullTableScan | indexNotUsed | highRowEstimate => .filtering
  | filesortUsed => .sorting
  | temporaryTableUsed => .grouping

/-- Whether a row with the estimate calls for a warning of the type. -/
def WarningType.isTold (row : ExplainRow) (thresholds : Thresholds) (rows : Int) : WarningType → Bool
  | fullTableScan => row.isFullScan
  | indexNotUsed => row.unusedKeys?.isSome
  | highRowEstimate => thresholds.high < rows
  | filesortUsed => row.notes "Using filesort"
  | temporaryTableUsed => row.notes "Using temporary"

theorem RowSubject.mem_usage_ofRow {row : ExplainRow} {index : Nat} {aliases : AliasMap} {usages : TableUsages}
    {table name : String} {set : UsageSet} (told : (ofRow index row aliases usages).table = some table) :
    name ∈ set.columns (ofRow index row aliases usages).usage ↔
      table ≠ "" ∧ usages.Holds set (.known table) name := by
  have isTable : tableOf (row.text? "table") aliases usages = some table := told
  simp only [ofRow, isTable, Option.bind_some, TableUsages.Holds]
  by_cases given : table = ""
  · simp [given, UsageSet.not_mem_columns_empty]
  · rw [if_neg (by simpa using given)]
    cases usages.find? (.known table) with
    | none => simp [UsageSet.not_mem_columns_empty]
    | some usage => simp [given]

namespace RowReport

variable {s : RowSubject} {row : ExplainRow} {thresholds : Thresholds} {rows : Int}

theorem findings_remarksOn : findings ⟨s, remarksOn s row thresholds rows⟩ =
    (if row.isFullScan then [s.fullTableScan] else []) ++ (row.unusedKeys?.map s.indexNotUsed).toList ++
      (if thresholds.high < rows then [s.highRowEstimate rows] else []) ++
      (if row.notes "Using filesort" then [s.filesortUsed] else []) ++
      (if row.notes "Using temporary" then [s.temporaryTableUsed] else []) := by
  simp only [findings, remarksOn, onEstimate, List.filterMap_append]
  refine congrArg₂ _ (congrArg₂ _ (congrArg₂ _ (congrArg₂ _ ?scan ?unused) ?estimate) ?filesort) ?temporary
  case scan => split <;> rfl
  case unused => cases row.unusedKeys? <;> rfl
  case estimate =>
    split
    · rfl
    · split <;> rfl
  case filesort => split <;> rfl
  case temporary => split <;> rfl

/-- What a row tells is found, once for each type and in the order of the types. -/
theorem types_findings : (findings ⟨s, remarksOn s row thresholds rows⟩).map (·.type) =
    WarningType.every.filter (·.isTold row thresholds rows) := by
  have told (type : WarningType) (given : Prop) [Decidable given] (finding : Finding) (same : finding.type = type)
      (isTold : type.isTold row thresholds rows = true ↔ given) :
      (if given then [finding] else []).map (·.type) = [type].filter (·.isTold row thresholds rows) := by
    by_cases h : given
    · rw [if_pos h, List.filter_cons_of_pos (isTold.mpr h), ← same]
      rfl
    · rw [if_neg h, List.filter_cons_of_neg (mt isTold.mp h)]
      rfl
  have keys : (row.unusedKeys?.map s.indexNotUsed).toList.map (·.type) =
      [WarningType.indexNotUsed].filter (·.isTold row thresholds rows) := by
    rw [List.filter_singleton, WarningType.isTold]
    cases row.unusedKeys? <;> rfl
  have scan := told _ (row.isFullScan = true) s.fullTableScan rfl .rfl
  have estimate := told _ (thresholds.high < rows) (s.highRowEstimate rows) rfl decide_eq_true_iff
  have filesort := told _ (row.notes "Using filesort" = true) s.filesortUsed rfl .rfl
  have temporary := told _ (row.notes "Using temporary" = true) s.temporaryTableUsed rfl .rfl
  rw [findings_remarksOn, List.map_append, List.map_append, List.map_append, List.map_append, scan, keys, estimate,
    filesort, temporary, ← List.filter_append, ← List.filter_append, ← List.filter_append, ← List.filter_append]
  rfl

theorem mem_types_findings {type : WarningType} :
    type ∈ (findings ⟨s, remarksOn s row thresholds rows⟩).map (·.type) ↔ type.isTold row thresholds rows = true := by
  rw [types_findings, List.mem_filter, and_iff_right]
  cases type <;> decide

theorem cases_of_mem_findings {finding : Finding} (mem : finding ∈ findings ⟨s, remarksOn s row thresholds rows⟩) :
    finding = s.fullTableScan ∨ (∃ keys, finding = s.indexNotUsed keys) ∨ finding = s.highRowEstimate rows ∨
      finding = s.filesortUsed ∨ finding = s.temporaryTableUsed := by
  rw [findings_remarksOn] at mem
  simp only [List.mem_append, List.mem_ite_nil_right, List.mem_singleton, Option.mem_toList,
    Option.map_eq_some_iff] at mem
  rcases mem with (((⟨-, rfl⟩ | ⟨keys, -, rfl⟩) | ⟨-, rfl⟩) | ⟨-, rfl⟩) | ⟨-, rfl⟩ <;> simp

theorem eq_highRowEstimate_of_mem_findings {finding : Finding}
    (mem : finding ∈ findings ⟨s, remarksOn s row thresholds rows⟩) (type : finding.type = .highRowEstimate) :
    finding = s.highRowEstimate rows := by
  rcases cases_of_mem_findings mem with rfl | ⟨keys, rfl⟩ | rfl | rfl | rfl
  case inr.inr.inl => rfl
  all_goals exact nomatch type

theorem columns_of_mem_findings {finding : Finding} (mem : finding ∈ findings ⟨s, remarksOn s row thresholds rows⟩) :
    finding.columns = (finding.type.usageSet.columns s.usage).names.toList := by
  rcases cases_of_mem_findings mem with rfl | ⟨keys, rfl⟩ | rfl | rfl | rfl <;> rfl

end RowReport

end SqlAdvisor
