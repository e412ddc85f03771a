import SqlAdvisor.Proofs.Report.Lines
import SqlAdvisor.Proofs.Report.Markup

/-! # The template of a page

A page is a template that is filled with the data of a report. The template depends on the shape of the report
alone: on how many statistics, hints, rows and sections there are and of which kinds they are, and not on what any
of them says. Data brings no tag to a page, so that reports of one shape have pages with the same tags.
-/

namespace SqlAdvisor

open Html

/-! ## Shapes -/

/-- What a report tells about the EXPLAIN. -/
inductive ExplainBranch where
  | nothingToExplain
  | failed
  | noDatabase
  | correlated
  deriving DecidableEq

/-- What a page depends on, apart from what its texts say. -/
structure PageShape where
  valid : Bool
  statistics : Nat
  severities : List Severity
  branch : ExplainBranch
  /-- The numbers of columns and rows of the EXPLAIN, if it has a row. -/
  explained : Option (Nat × Nat)
  /-- The flag of every section, and the number of its rows. -/
  sections : List (Option TableFlag × Nat)
  deriving DecidableEq

namespace RunReport

def explainBranch (report : RunReport) : ExplainBranch :=
  match report.explainSql, report.explainError, report.correlation with
  | none, _, _ => .nothingToExplain
  | some _, some _, _ => .failed
  | some _, none, none => .noDatabase
  | some _, none, some _ => .correlated

def explainSize (report : RunReport) : Option (Nat × Nat) :=
  report.explainCells.map fun (columns, rows) => (columns.length, rows.length)

-- A page of a script that is not valid has no sections.
def sectionShapes (report : RunReport) : Except Fault (List (Option TableFlag × Nat)) :=
  if report.analysis.isValid then
    report.sections.map fun sections => sections.value.map fun shown => (shown.flag, shown.rows.length)
  else .ok []

/-- The shape of a report whose sections can be made. -/
def shape (report : RunReport) : Except Fault PageShape :=
  report.sectionShapes.map fun sections => {
    valid := report.analysis.isValid
    statistics := report.analysis.statistics.size
    severities := report.analysis.hints.map (·.severity)
    branch := report.explainBranch
    explained := report.explainSize
    sections := sections }

/-! ## The templates of the parts -/

def statisticsTemplate (count : Nat) : List (List Html) :=
  if count = 0 then fixed ["<p>" ++ noStatistics ++ "</p>"]
  else
    fixed ["<table class=\"metric-table\">"] ++ List.replicate count (tableRow "<td>" "</td>" ["", ""]) ++
      fixed ["</table>"]

theorem template_statisticsHtml (statistics : Statistics) :
    template (statisticsHtml statistics) = statisticsTemplate statistics.size := by
  have empty : statistics.isEmpty = true ↔ statistics.size = 0 :=
    List.isEmpty_iff.trans List.length_eq_zero_iff.symm
  rw [statisticsHtml, statisticsTemplate]
  simp only [empty]
  split
  · rw [template_fixed]
  · simp only [template_append, template_fixed]
    rw [template, List.map_map, Dictionary.size, ← List.map_const']
    rw [List.append_left_inj, List.append_right_inj]
    exact List.map_congr_left fun entry _ => map_blank_tableRow _ _ _

def hintTemplate (severity : Severity) : List (List Html) := template (hintHtml ⟨severity, "", "", ""⟩)

theorem template_hintsHtml (hints : List Hint) :
    template (hintsHtml hints) =
      if (hints.map (·.severity)).isEmpty then [[]] else (hints.map (·.severity)).flatMap hintTemplate := by
  rw [hintsHtml, List.isEmpty_map]
  split
  · rfl
  · rw [template, List.map_flatMap, List.flatMap_map]
    exact List.flatMap_congr fun hint _ => rfl

def explainTableTemplate : Option (Nat × Nat) → List (List Html)
  | none => []
  | some (columns, rows) =>
    fixed ["<table class=\"plan-table\">"] ++ [tableRow "<th>" "</th>" (List.replicate columns "")] ++
      List.replicate rows (tableRow "<td>" "</td>" (List.replicate columns "")) ++ fixed ["</table>"]

theorem length_of_explainCells {report : RunReport} {columns : List String} {rows : List (List String)}
    (cells : report.explainCells = some (columns, rows)) : ∀ row ∈ rows, row.length = columns.length := by
  rw [explainCells] at cells
  split at cells
  · cases cells
  · cases cells
    exact List.forall_mem_map.mpr fun row _ => List.length_map _

theorem template_explainTableHtml (report : RunReport) :
    template report.explainTableHtml = explainTableTemplate report.explainSize := by
  rw [explainTableHtml, explainSize]
  cases cells : report.explainCells with
  | none => rfl
  | some table =>
      obtain ⟨columns, rows⟩ := table
      simp only [Option.map_some, explainTableTemplate, template_append, template_fixed]
      have blankRows : template (rows.map (tableRow "<td>" "</td>")) =
          List.replicate rows.length (tableRow "<td>" "</td>" (List.replicate columns.length "")) := by
        rw [template, List.map_map, ← List.map_const']
        refine List.map_congr_left fun row mem => ?_
        rw [Function.comp_apply, map_blank_tableRow, length_of_explainCells cells row mem]
      rw [blankRows, template, List.map_singleton, map_blank_tableRow]

def explainTemplate (size : Option (Nat × Nat)) : ExplainBranch → List (List Html)
  | .nothingToExplain => fixed ["<p>" ++ nothingToExplain ++ "</p>"]
  | .failed => [within "<p class=\"severe\">" [.data ""] "</p>"]
  | .noDatabase => fixed ["<p>" ++ noDatabase ++ "</p>"]
  | .correlated =>
    [within "<p>Explain Time: " [.data ""] " ms</p>"] ++ explainTableTemplate size ++
      [within "<pre>" [.data ""] "</pre>"]

theorem template_explainHtml (report : RunReport) :
    template report.explainHtml = explainTemplate report.explainSize report.explainBranch := by
  rw [explainHtml, explainBranch]
  cases report.explainSql with
  | none => exact template_fixed _
  | some sql =>
      cases report.explainError with
      | some failure => rfl
      | none =>
          cases report.correlation with
          | none => exact template_fixed _
          | some correlation =>
              simp only [template_append, template_explainTableHtml]
              rfl

def sectionTemplate (shape : Option TableFlag × Nat) : List (List Html) :=
  [within ("<h2" ++ flagAttribute shape.1 ++ ">Table: ") [.data ""] "</h2>"] ++
    fixed ["<table>", "<tr><th>Category</th><th>Item</th><th>Notes</th></tr>"] ++
    List.replicate shape.2 (tableRow "<td>" "</td>" ["", "", ""]) ++ fixed ["</table>"]

theorem blank_sectionRowHtml {row : SectionRow} {line : List Html} (written : sectionRowHtml row = .ok line) :
    line.map blank = tableRow "<td>" "</td>" ["", "", ""] := by
  rw [sectionRowHtml] at written
  split at written
  · cases written
    exact map_blank_tableRow _ _ _
  · cases written

theorem template_sectionHtml {shown : ReportSection} {lines : List (List Html)}
    (written : sectionHtml shown = .ok lines) :
    template lines = sectionTemplate (shown.flag, shown.rows.length) := by
  obtain ⟨rows, mapped, written⟩ := Except.bind_eq_ok.mp written
  cases written
  have pairs := Except.mapM_eq_ok.mp mapped
  have blankRows : template rows = List.replicate shown.rows.length (tableRow "<td>" "</td>" ["", "", ""]) := by
    rw [template, pairs.length_eq, List.eq_replicate_iff, List.length_map]
    refine ⟨rfl, List.forall_mem_map.mpr fun line mem => ?_⟩
    obtain ⟨row, -, written⟩ := (forall₂_partners pairs).2 line mem
    exact blank_sectionRowHtml written
  simp only [template_append, template_fixed, blankRows]
  rfl

theorem template_sections {sections : List ReportSection} {written : List (List (List Html))}
    (pairs : List.Forall₂ (fun shown lines => sectionHtml shown = .ok lines) sections written) :
    template written.flatten = (sections.map fun shown => (shown.flag, shown.rows.length)).flatMap sectionTemplate := by
  induction pairs with
  | nil => rfl
  | cons first _ ih =>
      rw [List.flatten_cons, template_append, ih, template_sectionHtml first, List.map_cons, List.flatMap_cons]

/-! ## The template of the page -/

def analysisTemplate (shape : PageShape) : List (List Html) :=
  fixed ["<h2>Query Structure Analysis</h2>"] ++ [within "<p>Statement Type: " [.data ""] "</p>"] ++
    fixed ["<h3>Query Statistics</h3>"] ++ statisticsTemplate shape.statistics ++
    fixed ["<h2>Performance Hints (Structural)</h2>"] ++
    (if shape.severities.isEmpty then [[]] else shape.severities.flatMap hintTemplate) ++
    fixed ["<h2>EXPLAIN Plan</h2>"] ++ explainTemplate shape.explained shape.branch ++
    shape.sections.flatMap sectionTemplate

def errorTemplate : List (List Html) :=
  fixed ["<h2>SQL Parse Error</h2>"] ++ [within "<pre>" [.data ""] "</pre>"]

def pageTemplate (shape : PageShape) (time : String) : List (List Html) :=
  headLines time ++ (if shape.valid then analysisTemplate shape else errorTemplate) ++ fixed ["</body>", "</html>"]

variable {report : RunReport} {time : String} {page : Logged String}

theorem template_pageLines_invalid {error : String} (isError : report.analysis.error = some error) :
    template (report.pageLines [] time) = headLines time ++ errorTemplate ++ fixed ["</body>", "</html>"] := by
  simp only [pageLines, headLines, isError, template_append, template_fixed]
  rfl

theorem template_pageLines_valid (noError : report.analysis.error = none)
    {sections : List ReportSection} {written : List (List (List Html))}
    (pairs : List.Forall₂ (fun shown lines => sectionHtml shown = .ok lines) sections written) :
    template (report.pageLines written time) =
      headLines time ++ analysisTemplate {
          valid := true
          statistics := report.analysis.statistics.size
          severities := report.analysis.hints.map (·.severity)
          branch := report.explainBranch
          explained := report.explainSize
          sections := sections.map fun shown => (shown.flag, shown.rows.length) } ++
        fixed ["</body>", "</html>"] := by
  simp only [pageLines, headLines, noError, template_append, template_fixed, template_statisticsHtml,
    template_hintsHtml, template_explainHtml, template_sections pairs]
  rfl

/-- A page fills the template of its report's shape. -/
theorem fills_html (made : report.html time = .ok page) :
    ∃ shape, report.shape = .ok shape ∧ Fills page.value (pageTemplate shape time) := by
  rw [html] at made
  cases isError : report.analysis.error with
  | some error =>
      rw [isError] at made
      have invalid : report.analysis.isValid = false := by rw [Analysis.isValid, isError]; rfl
      have value := congrArg Logged.value (Except.ok.inj made)
      dsimp only at value
      refine ⟨_, by rw [shape, sectionShapes, invalid]; rfl, _, value.symm, ?_⟩
      rw [pageTemplate, template_pageLines_invalid isError]
      rfl
  | none =>
      rw [isError] at made
      have valid : report.analysis.isValid = true := by rw [Analysis.isValid, isError]; rfl
      obtain ⟨sections, shown, made⟩ := Except.bind_eq_ok.mp made
      obtain ⟨written, mapped, made⟩ := Except.bind_eq_ok.mp made
      have value := congrArg Logged.value (Except.ok.inj made)
      dsimp only at value
      refine ⟨_, by rw [shape, sectionShapes, valid, if_pos rfl, shown]; rfl, _, value.symm, ?_⟩
      rw [pageTemplate, template_pageLines_valid isError (Except.mapM_eq_ok.mp mapped)]
      rfl

/-! ## The template leaves no tag open -/

/-- A time as it is written: a date and a time of day, in digits. -/
def IsTimestamp (time : String) : Prop := ∀ c ∈ time.toList, c.isDigit = true ∨ c ∈ ['-', ':', ' ']

theorem IsTimestamp.plain (timestamp : IsTimestamp time) : '<' ∉ time.toList := by
  intro mem
  have written := timestamp '<' mem
  revert written
  decide

theorem headLines_eq (time : String) :
    headLines time = (headLines "").dropLast ++ [[.markup ("<p>Generated on: " ++ time ++ "</p>")]] := by
  rfl

theorem closes_timeLine (timestamp : IsTimestamp time) :
    IsClosed ("<p>Generated on: " ++ time ++ "</p>") ∧
      tags ("<p>Generated on: " ++ time ++ "</p>") = ["<p>", "</p>"] := by
  have begun : IsClosed "<p>Generated on: " := by decide
  have ended : IsClosed "</p>" := by decide
  have told := isClosed_plain timestamp.plain
  refine ⟨(begun.append told).append ended, ?_⟩
  rw [tags_append (begun.append told), tags_append begun, tags_plain timestamp.plain]
  decide

theorem pageCloses_headLines (timestamp : IsTimestamp time) : PageCloses (headLines time) := by
  rw [headLines_eq, pageCloses_append]
  have before : PageCloses (headLines "").dropLast := by decide +kernel
  exact ⟨before, pageCloses_singleton.mpr (List.forall_mem_singleton.mpr (closes_timeLine timestamp).1)⟩

theorem ownTags_headLines {other : String} (timestamp : IsTimestamp time) (another : IsTimestamp other) :
    (headLines time).flatten.flatMap ownTags = (headLines other).flatten.flatMap ownTags := by
  rw [headLines_eq time, headLines_eq other]
  simp only [List.flatten_append, List.flatMap_append, List.flatten_singleton, List.flatMap_singleton, ownTags]
  rw [(closes_timeLine timestamp).2, (closes_timeLine another).2]

theorem closesTags_cells (count : Nat) :
    ∀ piece ∈ tableRow "<td>" "</td>" (List.replicate count ""), piece.ClosesTags :=
  closesTags_tableRow (by decide) (by decide) _

theorem pageCloses_statisticsTemplate (count : Nat) : PageCloses (statisticsTemplate count) := by
  rw [statisticsTemplate]
  split
  · decide
  · simp only [pageCloses_append]
    refine ⟨⟨by decide, pageCloses_replicate ?_ count⟩, by decide⟩
    exact closesTags_cells 2

theorem pageCloses_hintTemplate (severity : Severity) : PageCloses (hintTemplate severity) := by
  cases severity <;> decide

theorem pageCloses_explainTableTemplate (size : Option (Nat × Nat)) : PageCloses (explainTableTemplate size) := by
  rcases size with _ | ⟨columns, rows⟩
  · exact List.forall_mem_nil _
  · simp only [explainTableTemplate, pageCloses_append, pageCloses_singleton]
    refine ⟨⟨⟨by decide, ?_⟩, pageCloses_replicate (closesTags_cells columns) rows⟩, by decide⟩
    exact closesTags_tableRow (by decide) (by decide) _

theorem pageCloses_explainTemplate (size : Option (Nat × Nat)) (branch : ExplainBranch) :
    PageCloses (explainTemplate size branch) := by
  cases branch with
  | correlated =>
      simp only [explainTemplate, pageCloses_append]
      exact ⟨⟨by decide, pageCloses_explainTableTemplate size⟩, by decide⟩
  | _ =>
      simp only [explainTemplate]
      decide +kernel

theorem pageCloses_sectionTemplate (shown : Option TableFlag × Nat) : PageCloses (sectionTemplate shown) := by
  obtain ⟨flag, rows⟩ := shown
  simp only [sectionTemplate, pageCloses_append]
  have heading : PageCloses [within ("<h2" ++ flagAttribute flag ++ ">Table: ") [.data ""] "</h2>"] := by
    rcases flag with _ | _ | _ <;> decide
  exact ⟨⟨⟨heading, by decide⟩, pageCloses_replicate (closesTags_cells 3) rows⟩, by decide⟩

theorem pageCloses_analysisTemplate (shape : PageShape) : PageCloses (analysisTemplate shape) := by
  have hints : PageCloses (if shape.severities.isEmpty then [[]] else shape.severities.flatMap hintTemplate) := by
    split
    · decide
    · exact pageCloses_flatMap fun severity _ => pageCloses_hintTemplate severity
  simp only [analysisTemplate, pageCloses_append]
  refine ⟨⟨⟨⟨⟨⟨⟨⟨?_, ?_⟩, ?_⟩, pageCloses_statisticsTemplate _⟩, ?_⟩, hints⟩, ?_⟩, pageCloses_explainTemplate _ _⟩,
    pageCloses_flatMap fun shown _ => pageCloses_sectionTemplate shown⟩
  all_goals decide

theorem pageCloses_pageTemplate (shape : PageShape) (timestamp : IsTimestamp time) :
    PageCloses (pageTemplate shape time) := by
  simp only [pageTemplate, pageCloses_append]
  refine ⟨⟨pageCloses_headLines timestamp, ?_⟩, by decide⟩
  split
  · exact pageCloses_analysisTemplate shape
  · decide

/-! ## Totality -/

theorem sectionHtml_total {shown : ReportSection} (textual : ∀ row ∈ shown.rows, row.IsTextual) :
    ∃ lines, sectionHtml shown = .ok lines := by
  refine Except.bind_succeeds (Except.mapM_total fun row mem => ?_) fun _ => ⟨_, rfl⟩
  obtain ⟨text, isText⟩ := textual row mem
  rw [sectionRowHtml, isText]
  exact ⟨_, rfl⟩

theorem html_total (textual : report.IsTextual) (time : String) : ∃ page, report.html time = .ok page := by
  rw [html]
  split
  · exact ⟨_, rfl⟩
  · obtain ⟨sections, made⟩ := sections_total textual.named
    obtain ⟨lines, written⟩ := Except.mapM_total fun shown mem => sectionHtml_total (textual.rows made shown mem)
    exact ⟨_, Except.bind_eq_ok.mpr ⟨sections, made, Except.bind_eq_ok.mpr ⟨lines, written, rfl⟩⟩⟩

end RunReport

/-! ## Reports of one shape -/

open RunReport

/-- Pages of reports of one shape have the same tags, whatever the reports say and whenever they are written. Each is
    the template of the shape with data in its empty places, and its angle brackets are those of the template. -/
theorem html_tags_eq_of_shape_eq {first second : RunReport} (same : first.shape = second.shape) :
    (∀ report ∈ [first, second], report.IsTextual → ∀ time, ∃ page, report.html time = .ok page) ∧
      ∀ {time₁ time₂ : String} {page₁ page₂ : Logged String}, IsTimestamp time₁ → IsTimestamp time₂ →
        first.html time₁ = .ok page₁ → second.html time₂ = .ok page₂ →
        tags page₁.value = tags page₂.value ∧
          ∃ shape, first.shape = .ok shape ∧
            Fills page₁.value (pageTemplate shape time₁) ∧ Fills page₂.value (pageTemplate shape time₂) ∧
            angles page₁.value = angles (renderPage (pageTemplate shape time₁)) ∧
            angles page₂.value = angles (renderPage (pageTemplate shape time₂)) := by
  refine ⟨fun report _ => html_total, ?_⟩
  intro time₁ time₂ page₁ page₂ written₁ written₂ made₁ made₂
  obtain ⟨shape, isShape, fills₁⟩ := fills_html made₁
  obtain ⟨other, isOther, fills₂⟩ := fills_html made₂
  obtain rfl : shape = other := Except.ok.inj (isShape.symm.trans (same.trans isOther))
  refine ⟨?_, shape, isShape, fills₁, fills₂, ?_, ?_⟩
  · rw [fills₁.tags_eq (pageCloses_pageTemplate shape written₁),
      fills₂.tags_eq (pageCloses_pageTemplate shape written₂)]
    simp only [pageTemplate, List.flatten_append, List.flatMap_append, ownTags_headLines written₁ written₂]
  · rw [fills₁.angles_eq, angles_renderPage]
  · rw [fills₂.angles_eq, angles_renderPage]

/-- A report in which everything that can be told is told by one text. -/
def saying (text : String) : RunReport where
  analysis := {
    statementType := some text
    usages := (∅ : Dictionary TableKey TableUsage).insert (.known text) { aliasUsed := some text, all := .ofList [text] }
    statistics := (∅ : Dictionary String Datum).insert text (.text text)
    hints := [⟨.warn, text, text, text⟩] }
  explainSql := some text
  explainRows := [.ofCells [(text, .text text)]]
  correlation := some {
    warnings := [{ table := text, type := .fullTableScan, message := text, rows := [⟨text, text, text⟩] }]
    narrative := text
    flagged := (∅ : Dictionary String TableFlag).insert text .severe }
  explainDurationMs := some 1

theorem saying_isTextual (text : String) : (saying text).IsTextual where
  named := by
    refine List.forall_mem_singleton.mpr fun set => ?_
    cases set <;> rfl
  warnings := List.forall_mem_singleton.mpr (List.forall_mem_singleton.mpr ⟨text, rfl⟩)

theorem tags_saying :
    (saying "orders").shape = (saying "<script>").shape ∧
      ∃ plain hostile, (saying "orders").html "2024-05-01 10:00:00" = .ok plain ∧
        (saying "<script>").html "2025-12-31 23:59:59" = .ok hostile ∧
        tags plain.value = tags hostile.value ∧ ∃ shape, Fills hostile.value (pageTemplate shape "2025-12-31 23:59:59") ∧
          angles hostile.value = angles (renderPage (pageTemplate shape "2025-12-31 23:59:59")) := by
  have same : (saying "orders").shape = (saying "<script>").shape := by cbv
  have earlier : IsTimestamp "2024-05-01 10:00:00" := by simp [IsTimestamp]
  have later : IsTimestamp "2025-12-31 23:59:59" := by simp [IsTimestamp]
  obtain ⟨total, tagged⟩ := html_tags_eq_of_shape_eq same
  obtain ⟨plain, made₁⟩ := total _ (.head _) (saying_isTextual _) "2024-05-01 10:00:00"
  obtain ⟨hostile, made₂⟩ := total _ (.tail _ (.head _)) (saying_isTextual _) "2025-12-31 23:59:59"
  obtain ⟨sameTags, shape, -, -, fills, -, sameAngles⟩ := tagged earlier later made₁ made₂
  exact ⟨same, plain, hostile, made₁, made₂, sameTags, shape, fills, sameAngles⟩

end SqlAdvisor
