import SqlAdvisor.Proofs.Analysis.Totality
import SqlAdvisor.Proofs.Explain.Flagged
import SqlAdvisor.Proofs.Explain.Narrative
import SqlAdvisor.Proofs.Usage.Coverage

/-! # Why an index was not used

The columns of a table that stand in calls in a `WHERE` clause are among those that stand in one at all. So each of them
is found when the columns of the clause are compared with them by name, in whatever letter case, and the first reason
names all of them. The reason for columns in calls that are not found is never given.
-/

namespace SqlAdvisor

/-! ## Columns in calls -/

theorem RowSubject.usage_ofRow {row : ExplainRow} {index : Nat} {aliases : AliasMap} {usages : TableUsages}
    {table : String} {usage : TableUsage} (told : (ofRow index row aliases usages).table = some table)
    (named : table ≠ "") (recorded : usages.find? (.known table) = some usage) :
    (ofRow index row aliases usages).usage = usage := by
  have isTable : tableOf (row.text? "table") aliases usages = some table := told
  simp only [ofRow, isTable, Option.bind_some]
  rw [if_neg (by simpa using named), recorded]
  rfl

namespace RowSubject

variable {s : RowSubject} {name : String}

/-- The columns in calls in `WHERE` clauses are among those in `WHERE` clauses. -/
def WrapsFiltered (s : RowSubject) : Prop := ∀ name ∈ s.wrapped, name ∈ s.filtering

theorem wrapsFiltered_ofRow {usages : TableUsages}
    (sound : ∀ key name, usages.Holds .wrapped key name → usages.Holds .filtering key name) (index : Nat)
    (row : ExplainRow) (aliases : AliasMap) : (ofRow index row aliases usages).WrapsFiltered := by
  intro name mem
  cases isTable : (ofRow index row aliases usages).table with
  | none =>
      have isTable : tableOf (row.text? "table") aliases usages = none := isTable
      simp only [wrapped, ofRow, isTable, Option.bind_none, Option.getD_none] at mem
      exact absurd mem List.not_mem_nil
  | some table =>
      obtain ⟨named, wraps⟩ : table ≠ "" ∧ usages.Holds .wrapped (.known table) name :=
        (mem_usage_ofRow isTable).mp (NameSet.mem_toList.mp mem)
      have filters : usages.Holds .filtering (.known table) name := sound _ _ wraps
      exact NameSet.mem_toList.mpr ((mem_usage_ofRow isTable).mpr ⟨named, filters⟩)

/-! ## Reasons -/

theorem mem_blockedColumns :
    name ∈ s.blockedColumns ↔ name ∈ s.filtering ∧ ∃ other ∈ s.wrapped, Text.lower other = Text.lower name := by
  simp [blockedColumns]

theorem WrapsFiltered.subset_blocked (sound : s.WrapsFiltered) : ∀ name ∈ s.wrapped, name ∈ s.blockedColumns :=
  fun name mem => mem_blockedColumns.mpr ⟨sound name mem, name, mem, rfl⟩

theorem WrapsFiltered.isEmpty_blocked (sound : s.WrapsFiltered) : s.blockedColumns.isEmpty = s.wrapped.isEmpty := by
  rw [Bool.eq_iff_iff, List.isEmpty_iff, List.isEmpty_iff]
  constructor
  · intro none
    refine List.eq_nil_iff_forall_not_mem.mpr fun name mem => ?_
    simpa [none] using sound.subset_blocked name mem
  · intro none
    simp [blockedColumns, none]

/-- The reasons that are always given: names that do not match in type, and a choice of the database. -/
def standingReasons (s : RowSubject) : List String :=
  ["Data type mismatch in JOIN/WHERE" ++ (if s.filtering.isEmpty then "" else ": " ++ Text.bracketed s.filtering),
    "Optimizer chose scan (small table / low selectivity / outdated stats)"]

/-- The reason for the columns in calls comes first, if there are any. The one for those not found is never given. -/
theorem WrapsFiltered.reasons_eq (sound : s.WrapsFiltered) : s.indexNotUsedReasons =
    if s.wrapped.isEmpty then s.standingReasons
    else ("Func on indexed col(s): [" ++ ", ".intercalate s.blockedColumns ++ "]") :: s.standingReasons := by
  have listed : "Func on indexed col(s): " ++ Text.bracketed s.blockedColumns =
      "Func on indexed col(s): [" ++ ", ".intercalate s.blockedColumns ++ "]" := by
    rw [Text.bracketed, ← String.append_assoc, ← String.append_assoc]
    rfl
  rw [indexNotUsedReasons, sound.isEmpty_blocked, ← listed]
  cases s.wrapped.isEmpty <;> rfl

end RowSubject

/-- The reason names columns in calls. -/
def IsFunctionReason (reason : String) : Prop := ∃ rest, reason = "Func on indexed col(s)" ++ rest

/-- The reason names columns in calls that are not found among those of the `WHERE` clause. -/
def IsUnconfirmedReason (reason : String) : Prop := ∃ rest, reason = "Note: Funcs in WHERE" ++ rest

theorem Text.getElem?_append {start rest : String} {i : Nat} {c : Char} (isChar : start.toList[i]? = some c) :
    (start ++ rest).toList[i]? = some c := by
  rw [String.toList_append, List.getElem?_append_left (List.getElem?_eq_some_iff.mp isChar).1, isChar]

/-- The reasons tell of the record: the first one names every column in a call, and nothing but columns of the
    `WHERE` clause. Where no column is in a call, none does. -/
structure TableUsage.IsExplainedBy (usage : TableUsage) (reasons : List String) : Prop where
  named : usage.wrapped.isNamed = true ∧ usage.filtering.isNamed = true
  wrapped : usage.wrapped.isEmpty = false → ∃ columns others,
    reasons = ("Func on indexed col(s): [" ++ ", ".intercalate columns ++ "]") :: others ∧
    (∀ name ∈ usage.wrapped, name ∈ columns) ∧
    (∀ name, name ∈ columns ↔ name ∈ usage.filtering ∧ ∃ other ∈ usage.wrapped, Text.lower other = Text.lower name) ∧
    columns.Pairwise (· < ·) ∧ ∀ reason ∈ others, ¬IsFunctionReason reason
  unwrapped : usage.wrapped.isEmpty = true → ∀ reason ∈ reasons, ¬IsFunctionReason reason
  confirmed : ∀ reason ∈ reasons, ¬IsUnconfirmedReason reason

theorem IsFunctionReason.head? {reason : String} (isFunction : IsFunctionReason reason) :
    reason.toList[0]? = some 'F' := by
  obtain ⟨rest, rfl⟩ := isFunction
  exact Text.getElem?_append rfl

theorem IsUnconfirmedReason.head? {reason : String} (unconfirmed : IsUnconfirmedReason reason) :
    reason.toList[0]? = some 'N' := by
  obtain ⟨rest, rfl⟩ := unconfirmed
  exact Text.getElem?_append rfl

namespace RowSubject

variable {s : RowSubject} {reason : String}

theorem head?_of_mem_standingReasons (mem : reason ∈ s.standingReasons) :
    reason.toList[0]? = some 'D' ∨ reason.toList[0]? = some 'O' := by
  rcases List.mem_pair.mp mem with rfl | rfl
  · exact .inl (Text.getElem?_append rfl)
  · exact .inr rfl

theorem notFunction_of_mem_standingReasons (mem : reason ∈ s.standingReasons) : ¬IsFunctionReason reason := by
  intro isFunction
  rcases head?_of_mem_standingReasons mem with head | head <;> exact nomatch head.symm.trans isFunction.head?

theorem WrapsFiltered.confirmed (sound : s.WrapsFiltered) (mem : reason ∈ s.indexNotUsedReasons) :
    ¬IsUnconfirmedReason reason := by
  -- The first character tells the reasons apart: those given begin with `F`, `D` or `O`, the other one with `N`.
  intro unconfirmed
  have standing : reason ∉ s.standingReasons := by
    intro mem
    rcases head?_of_mem_standingReasons mem with head | head <;> exact nomatch head.symm.trans unconfirmed.head?
  rw [sound.reasons_eq] at mem
  split at mem
  · exact standing mem
  · rcases List.mem_cons.mp mem with rfl | mem
    · rw [String.append_assoc] at unconfirmed
      exact nomatch (Text.getElem?_append rfl).symm.trans unconfirmed.head?
    · exact standing mem

theorem isEmpty_wrapped (named : s.usage.wrapped.isNamed = true) : s.wrapped.isEmpty = s.usage.wrapped.isEmpty := by
  have noOthers : s.usage.wrapped.others.isEmpty = true := named
  rw [ColumnSet.isEmpty, noOthers, Bool.and_true]
  rfl

theorem WrapsFiltered.isExplainedBy (sound : s.WrapsFiltered)
    (named : s.usage.wrapped.isNamed = true ∧ s.usage.filtering.isNamed = true) :
    s.usage.IsExplainedBy s.indexNotUsedReasons where
  named := named
  wrapped nonempty := by
    rw [sound.reasons_eq, isEmpty_wrapped named.1, if_neg (Bool.eq_false_iff.mp nonempty)]
    refine ⟨_, _, rfl, sound.subset_blocked, fun name => mem_blockedColumns, ?_, ?_⟩
    · exact s.usage.filtering.names.increasing.filter _
    · exact fun reason => notFunction_of_mem_standingReasons
  unwrapped empty := by
    rw [sound.reasons_eq, isEmpty_wrapped named.1, if_pos empty]
    exact fun reason => notFunction_of_mem_standingReasons
  confirmed _ := sound.confirmed

end RowSubject

/-! ## Warnings -/

/-- The warning gives the reasons, one a line, in its message and in the rows of its table's section. -/
structure TableWarning.Gives (warning : TableWarning) (reasons : List String) : Prop where
  message : warning.message = "Potential reasons:\n" ++ "\n".intercalate (reasons.map fun reason => "- " ++ reason)
  rows : warning.rows =
    ⟨"-> Explanation", "Potential reasons:", ""⟩ :: reasons.map fun reason => ⟨"", .text reason, ""⟩

theorem RowReport.isNamed_of_checkAccess {s : RowSubject} {row : ExplainRow} (access : checkAccess s row = .ok ())
    (unused : row.unusedKeys?.isSome = true) :
    s.usage.wrapped.isNamed = true ∧ s.usage.filtering.isNamed = true := by
  by_contra unnamed
  have refused : (row.unusedKeys?.isSome && !(s.usage.wrapped.isNamed && s.usage.filtering.isNamed)) = true := by
    rw [unused, Bool.true_and, Bool.not_eq_true', Bool.eq_false_iff, ne_eq, Bool.and_eq_true]
    exact unnamed
  rw [checkAccess] at access
  dsimp only at access
  obtain ⟨_, -, access⟩ := Except.bind_eq_ok.mp access
  rw [if_pos refused] at access
  split at access <;> cases access

namespace Correlation

variable {rows : List ExplainRow} {aliases : AliasMap} {usages : TableUsages} {thresholds : Thresholds}

theorem gives_of_mem_warnings {warning : TableWarning}
    (mem : warning ∈ (ofReports (reportsOn aliases usages thresholds rows 0)).warnings)
    (type : warning.type = .indexNotUsed) :
    ∃ row ∈ rows, ∃ position, (RowSubject.ofRow position row aliases usages).table = some warning.table ∧
      row.unusedKeys?.isSome = true ∧
      warning.Gives (RowSubject.ofRow position row aliases usages).indexNotUsedReasons := by
  obtain ⟨row, among, position, told, finding, found, isWarning⟩ := exists_finding_of_mem_warnings mem
  have isUnused : finding.type = .indexNotUsed := (congrArg TableWarning.type isWarning).symm.trans type
  have unused := RowReport.mem_types_findings.mp (List.mem_map.mpr ⟨finding, found, isUnused⟩)
  refine ⟨row, among, position, told, unused, ?_⟩
  rcases RowReport.cases_of_mem_findings found with rfl | ⟨keys, rfl⟩ | rfl | rfl | rfl
  case inr.inl => exact ⟨congrArg TableWarning.message isWarning, congrArg TableWarning.rows isWarning⟩
  all_goals exact nomatch isUnused

end Correlation

/-- Whatever a statement and its record of a table, a warning that no index of the table is used is there exactly if a
    row about the table has indexes and uses none. The first reason that it gives names all columns in calls, and only
    columns of the `WHERE` clause. Where there are none in calls, no reason names any. Of no row, be it of a known table
    or not, is a reason told for columns in calls that are not found in the `WHERE` clause. -/
theorem unused_index_reasons {tree : Node} {statement : Statement} {aliases others : AliasMap}
    {extracted : Logged TableUsages} {table : String} {usage : TableUsage} {rows : List ExplainRow}
    {thresholds : Thresholds} {correlated : Logged Correlation} (read : Statement.ofNode tree = .ok statement)
    (built : statement.aliasMap = .ok aliases) (extracts : statement.extractUsages aliases = .ok extracted)
    (recorded : extracted.value.find? (.known table) = some usage)
    (returned : Correlation.ofRows rows others extracted.value thresholds = .ok correlated) :
    ((∃ warning ∈ correlated.value.warnings, warning.table = table ∧ warning.type = .indexNotUsed) ↔
      ∃ row ∈ rows, row.IsAbout others extracted.value table ∧ WarningType.indexNotUsed.Holds row thresholds.high) ∧
    (∀ warning ∈ correlated.value.warnings, warning.table = table → warning.type = .indexNotUsed →
      ∃ reasons, warning.Gives reasons ∧ usage.IsExplainedBy reasons) ∧
    ∀ row index, ∀ reason ∈ (RowSubject.ofRow index row others extracted.value).indexNotUsedReasons,
      ¬IsUnconfirmedReason reason := by
  have value := Correlation.ofRows_value returned
  have reportable := Correlation.ofRows_total_iff.mp ⟨correlated, returned⟩
  obtain ⟨rfl, plain⟩ := Statement.aliasMap_eq_ok built
  have isUsages := Statement.extractUsages_value extracts
  have sound (index : Nat) (row : ExplainRow) : (RowSubject.ofRow index row others extracted.value).WrapsFiltered :=
    RowSubject.wrapsFiltered_ofRow (isUsages ▸ fun _ _ => Statement.holds_filtering_of_wrapped) index row others
  refine ⟨?raised, fun warning mem about type => ?reasons, fun row index reason => (sound index row).confirmed⟩
  case raised =>
    rw [value, Correlation.exists_warning_iff]
    refine exists_congr fun row => and_congr_right fun _ => ?_
    exact and_congr RowSubject.tableOf_eq_some WarningType.isTold_iff_holds
  case reasons =>
    rw [value] at mem
    obtain ⟨row, among, position, told, unused, gives⟩ := Correlation.gives_of_mem_warnings mem type
    have named : table ≠ "" := by
      have mem := (Statement.known_mem_keys_extracted built extracts).mp (Dictionary.mem_keys.mpr ⟨usage, recorded⟩)
      exact Statement.ne_empty_of_mem_names read plain mem
    have isUsage := RowSubject.usage_ofRow (about ▸ told) named recorded
    have access := RowReport.isNamed_of_checkAccess (reportable row among).access unused
    have explained := (sound position row).isExplainedBy access
    rw [isUsage] at explained
    exact ⟨_, gives, explained⟩

/-- A row of the derived table `u` for which there is an index, but none is used. -/
def unusedKey : ExplainRow :=
  .ofCells [("table", .text "u"), ("possible_keys", .text "by_name"), ("key", .null)]

theorem unused_index_reasons_filteredQuery :
    ∃ statement aliases extracted correlated, Statement.ofNode filteredQuery = .ok statement ∧
      statement.aliasMap = .ok aliases ∧ statement.extractUsages aliases = .ok extracted ∧
      Correlation.ofRows [unusedKey] aliases extracted.value {} = .ok correlated ∧
      ∃ warning ∈ correlated.value.warnings, ∃ columns others,
        warning.Gives (("Func on indexed col(s): [" ++ ", ".intercalate columns ++ "]") :: others) ∧
          "name" ∈ columns := by
  obtain ⟨statement, read, regular, -⟩ := filteredQuery_isRegular
  have built : statement.aliasMap = .ok (.ofRefs statement.tables) := by
    rw [Statement.aliasMap, if_neg (by simpa using regular.aliases)]
  obtain ⟨log, extracts⟩ := regular.extractUsages_total
  obtain ⟨usage, recorded, wraps⟩ := filteredQuery_wraps read
  have fits : ¬IsTooGreat (unusedKey.text? "rows") := by
    intro great
    have refused : rowCount (unusedKey.text? "rows") = .error .notFinite := rowCount_eq_error.mpr ⟨rfl, great⟩
    cases refused
  have reportable : ∀ row ∈ [unusedKey], row.IsReportable (.ofRefs statement.tables)
      (statement.usages (.ofRefs statement.tables)) {} :=
    List.forall_mem_singleton.mpr (.of_areNamed regular.areNamed_usages fits)
  obtain ⟨correlated, returned⟩ := Correlation.ofRows_total_iff.mpr reportable
  obtain ⟨raised, reasons, -⟩ := unused_index_reasons read built extracts recorded returned
  have about : unusedKey.IsAbout (.ofRefs statement.tables) (statement.usages (.ofRefs statement.tables)) "u" := by
    refine ⟨"u", rfl, by decide, resolve_aliased (by decide) ?_⟩
    rw [filteredQuery_tables read]
    with_unfolding_all rfl
  obtain ⟨warning, mem, isAbout, type⟩ := raised.mpr ⟨unusedKey, List.mem_singleton_self _, about, by decide⟩
  obtain ⟨given, gives, explains⟩ := reasons warning mem isAbout type
  have nonempty : usage.wrapped.isEmpty = false := Bool.eq_false_iff.mpr fun empty =>
    (ColumnSet.isEmpty_iff.mp empty).2 _ wraps
  obtain ⟨columns, others, rfl, all, -⟩ := explains.wrapped nonempty
  exact ⟨statement, _, _, correlated, read, built, extracts, returned, warning, mem, columns, others, gives,
    all _ wraps⟩

end SqlAdvisor
