import SqlAdvisor.Proofs.Explain.Flagged
import SqlAdvisor.Proofs.Numeral.Written

/-! # What the thresholds decide

Only the row estimates are compared with the thresholds. A higher threshold takes away the warnings of the estimates
that it reaches and leaves all others in place. The other threshold decides nothing but which estimates are told
without a warning.
-/

namespace SqlAdvisor

/-- The warning is of a row estimate of at most `limit`. -/
def TableWarning.IsEstimateWithin (limit : Int) (warning : TableWarning) : Prop :=
  warning.type = .highRowEstimate ∧ ∃ rows ≤ limit, warning.message = "Est. rows: " ++ toString rows

/-- A row's line on an estimate that is told without a warning. -/
def RowSubject.estimateLine (s : RowSubject) (rows : Int) : String :=
  s.lineStart ++ " INFO: Est. rows: " ++ toString rows

namespace RowSubject

theorem head?_lineStart (s : RowSubject) (rest : String) : (s.lineStart ++ rest).toList.head? = some '[' := by
  simp only [lineStart, String.toList_append, List.head?_append]
  rfl

theorem head?_estimateLine (s : RowSubject) (rows : Int) : (s.estimateLine rows).toList.head? = some '[' := by
  rw [estimateLine, String.append_assoc]
  exact s.head?_lineStart _

/-- After its last blank a line on an estimate has nothing but the number. -/
theorem takeWhile_estimateLine (s : RowSubject) (rows : Int) :
    (s.estimateLine rows).toList.reverse.takeWhile (· ≠ ' ') = (toString rows).toList.reverse := by
  have solid : ∀ c ∈ (toString rows).toList.reverse, decide (c ≠ ' ') = true := by
    intro c mem
    rcases mem_toString (List.mem_reverse.mp mem) with rfl | digit
    · decide
    · refine decide_eq_true fun blank => ?_
      subst blank
      cases digit
  have blank : " INFO: Est. rows: ".toList = " INFO: Est. rows:".toList ++ [' '] := rfl
  rw [estimateLine, String.toList_append, String.toList_append, blank, ← List.append_assoc, List.append_assoc,
    List.singleton_append, List.reverse_append, List.reverse_cons, List.append_assoc,
    List.takeWhile_append_of_pos solid, List.singleton_append, List.takeWhile_cons_of_neg (by decide), List.append_nil]

theorem estimateLine_inj {s other : RowSubject} {rows count : Int}
    (same : s.estimateLine rows = other.estimateLine count) : rows = count := by
  have word := s.takeWhile_estimateLine rows
  rw [same, takeWhile_estimateLine, List.reverse_inj, String.toList_inj, Int.toString_eq_repr, Int.toString_eq_repr,
    Int.repr_inj] at word
  exact word.symm

theorem isDigit_getLast?_estimateLine {s : RowSubject} {rows : Int} {c : Char}
    (isLast : (s.estimateLine rows).toList.getLast? = some c) : c.isDigit = true := by
  have digits : (s.estimateLine rows).toList.getLast? = (Nat.toDigits 10 rows.natAbs).getLast? := by
    rw [estimateLine, String.toList_append, Numeral.toList_toString, List.getLast?_append_of_ne_nil,
      List.getLast?_append_of_ne_nil]
    all_goals simp [Nat.toDigits_ne_nil]
  exact Nat.isDigit_of_mem_toDigits (by decide) (by decide) (List.mem_of_getLast? (digits ▸ isLast))

end RowSubject

namespace RowReport

variable {s : RowSubject} {row : ExplainRow} {thresholds : Thresholds} {rows low high : Int}

theorem checkNotes_eq_ok : checkNotes s row thresholds rows = .ok () ↔
    (thresholds.high < rows → s.usage.filtering.isNamed = true) ∧
      (row.notes "Using filesort" = true → s.usage.sorting.isNamed = true) ∧
      (row.notes "Using temporary" = true → s.usage.grouping.isNamed = true) := by
  rw [checkNotes]
  split
  · rename_i refused
    refine iff_of_false (by simp [throw, throwThe, MonadExceptOf.throw]) ?_
    rintro ⟨estimate, filesort, temporary⟩
    simp only [Bool.or_eq_true, Bool.and_eq_true, decide_eq_true_eq, Bool.not_eq_true'] at refused
    rcases refused with (⟨exceeds, nameless⟩ | ⟨noted, nameless⟩) | ⟨noted, nameless⟩
    · exact absurd (estimate exceeds) (by simp [nameless])
    · exact absurd (filesort noted) (by simp [nameless])
    · exact absurd (temporary noted) (by simp [nameless])
  · rename_i passed
    refine iff_of_true rfl ?_
    simpa [or_imp, and_assoc, imp_iff_not_or] using passed

/-- A higher threshold takes away the finding of an estimate that it reaches. -/
theorem findings_of_le (le : low ≤ high) (told toldNow : Int) :
    findings ⟨s, remarksOn s row ⟨high, toldNow⟩ rows⟩ =
      (findings ⟨s, remarksOn s row ⟨low, told⟩ rows⟩).filter
        fun finding => ¬(finding.type = .highRowEstimate ∧ rows ≤ high) := by
  rw [findings_remarksOn, findings_remarksOn]
  generalize remains : (fun finding : Finding => decide ¬(finding.type = .highRowEstimate ∧ rows ≤ high)) = stays
  have kept (given : Prop) [Decidable given] (finding : Finding) (other : finding.type ≠ .highRowEstimate) :
      (if given then [finding] else []).filter stays = if given then [finding] else [] := by
    have : stays finding = true := by simp [← remains, other]
    split <;> simp [this]
  have keptKeys : (row.unusedKeys?.map s.indexNotUsed).toList.filter stays =
      (row.unusedKeys?.map s.indexNotUsed).toList := by
    cases row.unusedKeys? with
    | none => rfl
    | some keys => simp [← remains, RowSubject.indexNotUsed]
  have estimate : (if low < rows then [s.highRowEstimate rows] else []).filter stays =
      if high < rows then [s.highRowEstimate rows] else [] := by
    by_cases reached : rows ≤ high
    · rw [if_neg (not_lt.mpr reached)]
      split <;> simp [← remains, RowSubject.highRowEstimate, reached]
    · rw [if_pos (not_le.mp reached), if_pos (by omega)]
      simp [← remains, reached]
  have keptScan := kept (row.isFullScan = true) s.fullTableScan nofun
  have keptFilesort := kept (row.notes "Using filesort" = true) s.filesortUsed nofun
  have keptTemporary := kept (row.notes "Using temporary" = true) s.temporaryTableUsed nofun
  simp only [List.filter_append, estimate, keptKeys, keptScan, keptFilesort, keptTemporary]

theorem findings_told (told toldNow : Int) : findings ⟨s, remarksOn s row ⟨high, toldNow⟩ rows⟩ =
    findings ⟨s, remarksOn s row ⟨high, told⟩ rows⟩ := by
  rw [findings_remarksOn, findings_remarksOn]

theorem mem_remarksOn_estimate {k : Int} : .estimate k ∈ remarksOn s row thresholds rows ↔
    k = rows ∧ thresholds.told < rows ∧ rows ≤ thresholds.high := by
  have noFinding (given : Prop) [Decidable given] (finding : Finding) :
      .estimate k ∉ if given then [Remark.finding finding] else [] := by split <;> simp
  have onlyThere : .estimate k ∈ remarksOn s row thresholds rows ↔ .estimate k ∈ onEstimate s thresholds rows := by
    rw [remarksOn]
    cases row.unusedKeys? <;> simp [noFinding]
  rw [onlyThere, onEstimate]
  by_cases exceeds : thresholds.high < rows
  · simp [exceeds]
  · by_cases told : thresholds.told < rows
    · simp [exceeds, told, not_lt.mp exceeds]
    · simp [exceeds, told]

open scoped Classical in
theorem warnings_of_le (le : low ≤ high) (told toldNow : Int) :
    warnings ⟨s, remarksOn s row ⟨high, toldNow⟩ rows⟩ =
      (warnings ⟨s, remarksOn s row ⟨low, told⟩ rows⟩).filter fun warning => ¬warning.IsEstimateWithin high := by
  rw [warnings, warnings]
  dsimp only
  cases s.table with
  | none => rfl
  | some table =>
      dsimp only
      rw [findings_of_le le told toldNow, List.filter_map]
      refine congrArg _ (List.filter_congr fun finding mem => decide_eq_decide.mpr (not_congr ?_))
      refine and_congr_right fun type => ?_
      have message : (toWarning s table finding).message = "Est. rows: " ++ toString rows := by
        rw [eq_highRowEstimate_of_mem_findings mem type]
        rfl
      rw [message]
      constructor
      · exact fun reached => ⟨rows, reached, rfl⟩
      · rintro ⟨k, reached, same⟩
        rw [String.append_right_inj, Int.toString_eq_repr, Int.toString_eq_repr, Int.repr_inj] at same
        exact same ▸ reached

theorem head?_of_mem_details {finding : Finding} (mem : finding ∈ findings ⟨s, remarksOn s row thresholds rows⟩)
    {detail : String} (among : detail ∈ finding.details) : detail.toList.head? = some ' ' := by
  have setIn (start rest : String) (begins : start.toList.head? = some ' ') :
      (start ++ rest).toList.head? = some ' ' := by
    rw [String.toList_append, List.head?_append, begins]
    rfl
  have suggested (suggestion : String) := setIn "  > " suggestion rfl
  rcases cases_of_mem_findings mem with rfl | ⟨keys, rfl⟩ | rfl | rfl | rfl
  · exact List.mem_singleton.mp among ▸ suggested s.fullTableScan.message
  · have details : (s.indexNotUsed keys).details = ("  > Possible keys [" ++ keys ++ "] found, but none used.") ::
        "  > Potential reasons:" :: s.indexNotUsedReasons.map fun reason => "    - " ++ reason := rfl
    rw [details] at among
    rcases List.mem_cons.mp among with rfl | among
    · exact setIn _ _ (setIn _ _ rfl)
    · rcases List.mem_cons.mp among with rfl | among
      · rfl
      · obtain ⟨reason, -, rfl⟩ := List.mem_map.mp among
        exact setIn _ _ rfl
  · exact List.mem_singleton.mp among ▸ rfl
  · exact List.mem_singleton.mp among ▸ suggested s.filesortUsed.message
  · exact List.mem_singleton.mp among ▸ suggested s.temporaryTableUsed.message

theorem getLast?_headline {finding : Finding} (mem : finding ∈ findings ⟨s, remarksOn s row thresholds rows⟩) :
    finding.headline.toList.getLast? = some '.' ∨ finding.headline.toList.getLast? = some 'd' := by
  have dotted (headline : String) (dot : headline.toList.getLast? = some '.') :
      headline.toList.getLast? = some '.' ∨ headline.toList.getLast? = some 'd' := .inl dot
  rcases cases_of_mem_findings mem with rfl | ⟨keys, rfl⟩ | rfl | rfl | rfl
  · exact dotted "SEVERE: Full Table Scan ('type' is 'ALL'). Why: DB read every row." rfl
  · have used : "WARN: Index Not Used".toList.getLast? = some 'd' := rfl
    exact .inr used
  · rw [RowSubject.highRowEstimate, String.toList_append, List.getLast?_append]
    exact .inl rfl
  · exact dotted "WARN: 'Using filesort'." rfl
  · exact dotted "WARN: 'Using temporary'." rfl

/-- A line on an estimate, be it of this row or of another one, is only told of an estimate between the thresholds. -/
theorem between_of_mem_lines {other : RowSubject} {count : Int}
    (mem : other.estimateLine count ∈ lines ⟨s, remarksOn s row thresholds rows⟩) :
    thresholds.told < count ∧ count ≤ thresholds.high := by
  obtain ⟨remark, among, isLine⟩ := List.mem_flatMap.mp mem
  cases remark with
  | estimate k =>
      have isEstimate : other.estimateLine count = s.estimateLine k := List.mem_singleton.mp isLine
      obtain rfl := RowSubject.estimateLine_inj isEstimate
      obtain ⟨rfl, between⟩ := mem_remarksOn_estimate.mp among
      exact between
  | finding finding =>
      -- A headline does not end with a digit, and what stands below it is set in.
      have found : finding ∈ findings ⟨s, remarksOn s row thresholds rows⟩ := List.mem_filterMap.mpr ⟨_, among, rfl⟩
      rcases List.mem_cons.mp isLine with isHeadline | isDetail
      · have last := getLast?_headline found
        have ends : (other.estimateLine count).toList.getLast? = finding.headline.toList.getLast? := by
          rw [isHeadline, String.toList_append, List.getLast?_append_of_ne_nil]
          intro empty
          rw [empty] at last
          simp at last
        rw [← ends] at last
        rcases last with dot | letter
        · exact nomatch RowSubject.isDigit_getLast?_estimateLine dot
        · exact nomatch RowSubject.isDigit_getLast?_estimateLine letter
      · exact absurd ((head?_of_mem_details found isDetail).symm.trans (other.head?_estimateLine count)) (by decide)

theorem estimateLine_mem_lines : s.estimateLine rows ∈ lines ⟨s, remarksOn s row thresholds rows⟩ ↔
    thresholds.told < rows ∧ rows ≤ thresholds.high :=
  ⟨between_of_mem_lines, fun between =>
    List.mem_flatMap.mpr ⟨_, mem_remarksOn_estimate.mpr ⟨rfl, between⟩, .head _⟩⟩

theorem warnings_told (told toldNow : Int) : warnings ⟨s, remarksOn s row ⟨high, toldNow⟩ rows⟩ =
    warnings ⟨s, remarksOn s row ⟨high, told⟩ rows⟩ := by
  rw [warnings, warnings, findings_told told toldNow]

end RowReport

variable {rows : List ExplainRow} {aliases : AliasMap} {usages : TableUsages} {thresholds : Thresholds}
  {low high told : Int}

theorem ExplainRow.IsReportable.of_le {row : ExplainRow} (reportable : row.IsReportable aliases usages ⟨low, told⟩)
    (le : low ≤ high) (toldNow : Int) : row.IsReportable aliases usages ⟨high, toldNow⟩ where
  fits := reportable.fits
  access := reportable.access
  notes := by
    obtain ⟨estimate, others⟩ := RowReport.checkNotes_eq_ok.mp reportable.notes
    exact RowReport.checkNotes_eq_ok.mpr ⟨fun exceeds => estimate (lt_of_le_of_lt le exceeds), others⟩

namespace Correlation

open scoped Classical in
theorem warnings_of_le (le : low ≤ high) (told toldNow : Int) :
    (ofReports (reportsOn aliases usages ⟨high, toldNow⟩ rows 0)).warnings =
      (ofReports (reportsOn aliases usages ⟨low, told⟩ rows 0)).warnings.filter
        fun warning => ¬warning.IsEstimateWithin high := by
  simp only [ofReports, reportsOn, List.flatMap_map, List.filter_flatMap]
  exact List.flatMap_congr fun entry _ => RowReport.warnings_of_le le told toldNow

theorem warnings_told (told toldNow : Int) :
    (ofReports (reportsOn aliases usages ⟨high, toldNow⟩ rows 0)).warnings =
      (ofReports (reportsOn aliases usages ⟨high, told⟩ rows 0)).warnings := by
  simp only [ofReports, reportsOn, List.flatMap_map]
  exact List.flatMap_congr fun entry _ => RowReport.warnings_told told toldNow

open scoped Classical in
/-- A table keeps its flag as long as it keeps a warning. -/
theorem find?_flagsOf_filter {warnings : List TableWarning} {limit : Int} {table : String}
    (kept : ∃ warning ∈ warnings.filter fun warning => ¬warning.IsEstimateWithin limit, warning.table = table) :
    (flagsOf (warnings.filter fun warning => ¬warning.IsEstimateWithin limit)).find? table =
      (flagsOf warnings).find? table := by
  obtain ⟨warning, mem, about⟩ := kept
  apply find?_flagsOf_congr
  · exact iff_of_true ⟨warning, mem, about⟩ ⟨warning, List.mem_of_mem_filter mem, about⟩
  · constructor
    · rintro ⟨scan, mem, isScan⟩
      exact ⟨scan, List.mem_of_mem_filter mem, isScan⟩
    · rintro ⟨scan, mem, about, type⟩
      have stays : ¬scan.IsEstimateWithin limit := fun estimate => nomatch type.symm.trans estimate.1
      exact ⟨scan, List.mem_filter.mpr ⟨mem, decide_eq_true stays⟩, about, type⟩

open scoped Classical in
theorem lost_of_find?_flagsOf_ne {warnings : List TableWarning} {limit : Int} {table : String}
    (changed : (flagsOf (warnings.filter fun warning => ¬warning.IsEstimateWithin limit)).find? table ≠
      (flagsOf warnings).find? table) :
    (∃ warning ∈ warnings, warning.table = table) ∧
      ∀ warning ∈ warnings.filter fun warning => ¬warning.IsEstimateWithin limit, warning.table ≠ table := by
  have lost := mt find?_flagsOf_filter changed
  push Not at lost
  refine ⟨?_, lost⟩
  by_contra! bare
  rw [(find?_flagsOf _ table).1.mpr lost, (find?_flagsOf _ table).1.mpr bare] at changed
  exact changed rfl

/-- Below its title a narrative says that there is no plan, or that nothing was found, or what the reports say. -/
theorem narrative_cases (reports : List RowReport) :
    ∃ lines, (ofReports reports).narrative =
        "\n".intercalate ("--- EXPLAIN Plan Micro-Analysis (DB Specific) ---" :: lines) ++ "\n" ∧
      (reports = [] ∧ lines = [noPlan] ∨
        reports ≠ [] ∧ reports.flatMap RowReport.lines = [] ∧ lines = [noIssues] ∨
        reports.flatMap RowReport.lines ≠ [] ∧ lines = reports.flatMap RowReport.lines) := by
  unfold ofReports
  dsimp only
  by_cases empty : reports = []
  · rw [if_pos (List.isEmpty_iff.mpr empty)]
    exact ⟨[noPlan], rfl, .inl ⟨empty, rfl⟩⟩
  · rw [if_neg (mt List.isEmpty_iff.mp empty)]
    by_cases silent : reports.flatMap RowReport.lines = []
    · rw [if_pos (List.isEmpty_iff.mpr silent)]
      exact ⟨[noIssues], rfl, .inr (.inl ⟨empty, silent, rfl⟩)⟩
    · rw [if_neg (mt List.isEmpty_iff.mp silent)]
      exact ⟨_, rfl, .inr (.inr ⟨silent, rfl⟩)⟩

theorem narrative_estimateLines (reports : List RowReport) :
    ∃ lines, (ofReports reports).narrative =
        "\n".intercalate ("--- EXPLAIN Plan Micro-Analysis (DB Specific) ---" :: lines) ++ "\n" ∧
      ∀ (s : RowSubject) (count : Int), s.estimateLine count ∈ lines ↔
        s.estimateLine count ∈ reports.flatMap RowReport.lines := by
  have apart {line : String} (first : line.toList.head? ≠ some '[') (s : RowSubject) (count : Int) :
      s.estimateLine count ∉ [line] := by
    rw [List.mem_singleton]
    rintro rfl
    exact first (s.head?_estimateLine count)
  obtain ⟨lines, narrative, outcome⟩ := narrative_cases reports
  refine ⟨lines, narrative, fun s count => ?_⟩
  rcases outcome with ⟨rfl, rfl⟩ | ⟨-, silent, rfl⟩ | ⟨-, rfl⟩
  · exact iff_of_false (apart (by decide) s count) List.not_mem_nil
  · rw [silent]
    exact iff_of_false (apart (by decide) s count) List.not_mem_nil
  · exact Iff.rfl

theorem between_of_mem_reportsOn {s : RowSubject} {count : Int}
    (mem : s.estimateLine count ∈ (reportsOn aliases usages thresholds rows 0).flatMap RowReport.lines) :
    thresholds.told < count ∧ count ≤ thresholds.high := by
  obtain ⟨report, among, mem⟩ := List.mem_flatMap.mp mem
  obtain ⟨⟨row, index⟩, -, rfl⟩ := List.mem_map.mp among
  exact RowReport.between_of_mem_lines mem

theorem forall₂_reportsOn (reportable : ∀ row ∈ rows, row.IsReportable aliases usages thresholds) :
    List.Forall₂ (fun (row, index) report => report.subject = RowSubject.ofRow index row aliases usages ∧
      ∃ count log, rowCount (row.text? "rows") = .ok ⟨count, log⟩ ∧
        (report.subject.estimateLine count ∈ report.lines ↔ thresholds.told < count ∧ count ≤ thresholds.high) ∧
        (report.subject.estimateLine count ∈ (reportsOn aliases usages thresholds rows 0).flatMap RowReport.lines ↔
          thresholds.told < count ∧ count ≤ thresholds.high))
      rows.zipIdx (reportsOn aliases usages thresholds rows 0) := by
  have each {entry : ExplainRow × Nat} (mem : entry ∈ rows.zipIdx) :
      RowReport.ofEstimate aliases usages thresholds entry.1 entry.2 entry.1.estimate ∈
        reportsOn aliases usages thresholds rows 0 := List.mem_map_of_mem mem
  rw [reportsOn, List.forall₂_map_right_iff, List.forall₂_same]
  rintro ⟨row, index⟩ mem
  refine ⟨rfl, ?_⟩
  cases counts : rowCount (row.text? "rows") with
  | error fault =>
      exact absurd (rowCount_eq_error.mp counts).2 (reportable row (List.fst_mem_of_mem_zipIdx mem)).fits
  | ok counted =>
      have estimate : row.estimate = counted.value := by rw [ExplainRow.estimate, counts]
      refine ⟨counted.value, counted.log, rfl, ?_⟩
      rw [← estimate]
      refine ⟨RowReport.estimateLine_mem_lines, between_of_mem_reportsOn, fun between => ?_⟩
      exact List.mem_flatMap.mpr ⟨_, each mem, RowReport.estimateLine_mem_lines.mpr between⟩

end Correlation

open scoped Classical in
/-- Where rows can be correlated with one threshold, they can be with a higher one. Of the warnings, those of estimates
    up to the higher one are left out and all others stay as and where they are. So a table's flag changes only if the
    table loses its last warning. The other threshold is for no warning and no flag: a row's line on an estimate
    without a warning is in the narrative exactly if the estimate is above that threshold and not above the first one.
    Where all columns have names, rows that can be correlated with some thresholds can be with any. -/
theorem thresholds_decide_estimates {lower : Logged Correlation} (le : low ≤ high)
    (returned : Correlation.ofRows rows aliases usages ⟨low, told⟩ = .ok lower) :
    (∀ toldNow, ∃ higher, Correlation.ofRows rows aliases usages ⟨high, toldNow⟩ = .ok higher ∧
      higher.value.warnings = lower.value.warnings.filter (fun warning => ¬warning.IsEstimateWithin high) ∧
      ∀ table, higher.value.flagged.find? table ≠ lower.value.flagged.find? table →
        (∃ warning ∈ lower.value.warnings, warning.table = table) ∧
          ∀ warning ∈ higher.value.warnings, warning.table ≠ table) ∧
    (∀ toldNow, ∃ other, Correlation.ofRows rows aliases usages ⟨low, toldNow⟩ = .ok other ∧
      other.value.warnings = lower.value.warnings ∧ other.value.flagged = lower.value.flagged) ∧
    (∃ reports lines, lower.value = .ofReports reports ∧
      lower.value.narrative =
        "\n".intercalate ("--- EXPLAIN Plan Micro-Analysis (DB Specific) ---" :: lines) ++ "\n" ∧
      List.Forall₂ (fun (row, index) report => report.subject = RowSubject.ofRow index row aliases usages ∧
        ∃ count log, rowCount (row.text? "rows") = .ok ⟨count, log⟩ ∧
          (report.subject.estimateLine count ∈ report.lines ↔ told < count ∧ count ≤ low) ∧
          (report.subject.estimateLine count ∈ lines ↔ told < count ∧ count ≤ low)) rows.zipIdx reports) ∧
    (usages.AreNamed → ∀ thresholds, ∃ again, Correlation.ofRows rows aliases usages thresholds = .ok again) := by
  have reportable := Correlation.ofRows_total_iff.mp ⟨lower, returned⟩
  have isLower := Correlation.ofRows_value returned
  refine ⟨fun toldNow => ?higher, fun toldNow => ?other, ?lines, fun named thresholds => ?again⟩
  case higher =>
    obtain ⟨higher, returnedHigher⟩ := Correlation.ofRows_total_iff.mpr
      fun row mem => (reportable row mem).of_le le toldNow
    have isHigher := Correlation.ofRows_value returnedHigher
    have remain : higher.value.warnings = lower.value.warnings.filter fun warning => ¬warning.IsEstimateWithin high := by
      rw [isHigher, isLower, Correlation.warnings_of_le le told toldNow]
    refine ⟨higher, returnedHigher, remain, fun table changed => ?_⟩
    rw [Correlation.ofRows_flagged returnedHigher, Correlation.ofRows_flagged returned, remain] at changed
    exact remain ▸ Correlation.lost_of_find?_flagsOf_ne changed
  case other =>
    obtain ⟨other, returnedOther⟩ := Correlation.ofRows_total_iff.mpr
      fun row mem => (reportable row mem).of_le (le_refl low) toldNow
    have same : other.value.warnings = lower.value.warnings := by
      rw [Correlation.ofRows_value returnedOther, isLower, Correlation.warnings_told told toldNow]
    refine ⟨other, returnedOther, same, ?_⟩
    rw [Correlation.ofRows_flagged returnedOther, Correlation.ofRows_flagged returned, same]
  case lines =>
    obtain ⟨lines, narrative, estimates⟩ := Correlation.narrative_estimateLines
      (Correlation.reportsOn aliases usages ⟨low, told⟩ rows 0)
    refine ⟨_, lines, isLower, isLower ▸ narrative, ?_⟩
    simp only [estimates]
    exact Correlation.forall₂_reportsOn reportable
  case again =>
    exact Correlation.ofRows_total_iff.mpr fun row mem => .of_areNamed named (reportable row mem).fits

/-- What is found of a scan of a table and a lookup in another one, each with an estimate of 20000 rows. -/
def manyRowsAbove (high : Int) : Except Fault (Logged Correlation) :=
  Correlation.ofRows
    [.ofCells [("id", .int 1), ("table", .text "orders"), ("type", .text "ALL"), ("rows", .int 20000)],
     .ofCells [("id", .int 2), ("table", .text "users"), ("type", .text "ref"), ("rows", .int 20000)]]
    ∅ (.ofList [(.known "orders", {}), (.known "users", {})]) ⟨high, 5000⟩

open scoped Classical in
theorem thresholds_decide_estimates_manyRows : ∃ lower higher,
    manyRowsAbove 10000 = .ok lower ∧ manyRowsAbove 20000 = .ok higher ∧
    lower.value.warnings.map (fun warning => (warning.table, warning.type)) =
      [("orders", .fullTableScan), ("orders", .highRowEstimate), ("users", .highRowEstimate)] ∧
    higher.value.warnings = lower.value.warnings.filter (fun warning => ¬warning.IsEstimateWithin 20000) ∧
    higher.value.flagged.entries = [("orders", .severe)] := by
  have found : (manyRowsAbove 10000).map
      (fun lower => lower.value.warnings.map fun warning => (warning.table, warning.type)) =
      .ok [("orders", .fullTableScan), ("orders", .highRowEstimate), ("users", .highRowEstimate)] := rfl
  have flags : (manyRowsAbove 20000).map (fun higher => higher.value.flagged.entries) =
      .ok [("orders", .severe)] := rfl
  obtain ⟨lower, returned, found⟩ := Except.map_eq_ok.mp found
  obtain ⟨higher, returnedHigher, flags⟩ := Except.map_eq_ok.mp flags
  obtain ⟨again, returnedAgain, remain, -⟩ :=
    (thresholds_decide_estimates (by decide : (10000 : Int) ≤ 20000) returned).1 5000
  obtain rfl : higher = again := Except.ok.inj (returnedHigher.symm.trans returnedAgain)
  exact ⟨lower, higher, returned, returnedHigher, found, remain, flags⟩

end SqlAdvisor
