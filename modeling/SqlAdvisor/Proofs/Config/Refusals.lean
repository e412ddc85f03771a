import SqlAdvisor.Proofs.Config.Loading
import SqlAdvisor.Session

/-! # Configurations that are refused

Most of what is wrong with a configuration is told in a message, after which the session ends. Some values of the wrong
type, and a path that is too long, stop the loading with a fault of which the user is told nothing.
-/

namespace SqlAdvisor

/-- A fault in a configuration that a session tells in a message. -/
inductive Fault.IsTold : Fault → String → Prop where
  | invalid (message : String) : IsTold (.invalid message) message
  | fileNotFound (message : String) : IsTold (.fileNotFound message) message

/-- The configuration that a file holds. A text that is no document counts as one text. -/
def FileContent.configuration? : FileContent → Option Datum
  | .directory => none
  | .text content => some (.text content)
  | .document configuration => some configuration

namespace Settings

variable {files : FileTree} {path : FilePath} {entries : List (String × Datum)} {configuration : Datum} {fault : Fault}

/-- What stops the loading of a configuration without a message. -/
inductive StopsUntold (files : FileTree) (entries : List (String × Datum)) : Fault → Prop where
  | oddQuery {value : Datum} (given : entries.lookup "query" = some value) (odd : ∀ written, value ≠ .text written) :
    StopsUntold files entries .wrongType
  | overlongQuery {written : String} (given : entries.lookup "query" = some (.text written))
    (long : files.IsOverlong (.ofText written)) : StopsUntold files entries .nameTooLong
  | afterQuery {written : String} {fault : Fault} (given : entries.lookup "query" = some (.text written))
    (leads : files.Leads (.ofText written)) (fails : FailsUntold entries fault) : StopsUntold files entries fault

theorem Misdescribes.not_isTold {described : Datum} {message : String} (misdescribes : Misdescribes described fault) :
    ¬fault.IsTold message := by
  intro told
  cases misdescribes with
  | unsearchable => cases told
  | @unreadable _ _ _ _ named => cases named <;> cases told
  | oddUrl => cases told

theorem StopsUntold.not_isTold {message : String} (stops : StopsUntold files entries fault) :
    ¬fault.IsTold message := by
  rcases stops with _ | _ | ⟨-, -, ⟨-, -, misdescribes⟩ | _⟩
  · nofun
  · nofun
  · exact misdescribes.not_isTold
  · nofun

theorem StopsUntold.ofEntries_eq (stops : StopsUntold files entries fault) :
    ofEntries files entries = .error fault := by
  rw [Settings.ofEntries_eq]
  cases stops with
  | oddQuery given odd =>
      rw [given]
      simp only [toPath_eq_error.mpr ⟨odd, rfl⟩, bind, Except.bind]
  | overlongQuery given long =>
      rw [given]
      simp only [Datum.toPath, bind, Except.bind, long.holds_eq]
  | afterQuery given leads fails =>
      rw [given]
      simp only [Datum.toPath, bind, Except.bind, leads.holds_eq, if_pos]
      exact fails.withQuery_eq _

theorem ofEntries_eq_error (fails : ofEntries files entries = .error fault) :
    (∃ message, fault.IsTold message) ∨ StopsUntold files entries fault := by
  rw [Settings.ofEntries_eq] at fails
  cases given : entries.lookup "query" with
  | none =>
      rw [given] at fails
      cases fails
      exact .inl ⟨_, .invalid _⟩
  | some value =>
      rw [given] at fails
      rcases Except.bind_eq_error.mp fails with odd | ⟨query, leads, fails⟩
      · have noPath : value.toPath = .error fault := odd
        obtain ⟨untexted, rfl⟩ := toPath_eq_error.mp noPath
        exact .inr (.oddQuery given untexted)
      obtain ⟨written, rfl⟩ : ∃ written, value = .text written := by
        by_contra odd
        push Not at odd
        exact nomatch leads.symm.trans (toPath_eq_error.mpr ⟨odd, rfl⟩)
      cases leads
      rcases files.holds_cases (.ofText written) with ⟨leads, holds⟩ | ⟨long, holds⟩ | ⟨-, -, holds⟩
      · rw [holds] at fails
        rcases withQuery_eq_error fails with ⟨message, rfl⟩ | fails
        · exact .inl ⟨message, .invalid message⟩
        · exact .inr (.afterQuery given leads fails)
      · rw [holds] at fails
        cases fails
        exact .inr (.overlongQuery given long)
      · rw [holds] at fails
        cases fails
        exact .inl ⟨_, .fileNotFound _⟩

theorem load_eq_ofConfiguration {content : FileContent} (reads : files.read path = .ok content)
    (holds : content.configuration? = some configuration) :
    load files path = ofConfiguration files path configuration := by
  rw [load, (FileTree.Leads.of_read reads).holds_eq, reads]
  cases content <;> cases holds <;> rfl

theorem ofConfiguration_table : ofConfiguration files path (.table entries) = ofEntries files entries := by
  cases entries <;> rfl

theorem ofConfiguration_untabled (untabled : ∀ entries, configuration ≠ .table entries) :
    ∃ message, ofConfiguration files path configuration = .error (.invalid message) := by
  cases configuration with
  | table entries => exact absurd rfl (untabled entries)
  | _ =>
      unfold ofConfiguration
      split <;> exact ⟨_, rfl⟩

theorem ofConfiguration_eq_error (fails : ofConfiguration files path configuration = .error fault) :
    (∃ message, fault.IsTold message) ∨ ∃ entries, configuration = .table entries ∧ StopsUntold files entries fault := by
  by_cases tabled : ∃ entries, configuration = .table entries
  · obtain ⟨entries, rfl⟩ := tabled
    rw [ofConfiguration_table] at fails
    exact (ofEntries_eq_error fails).imp id fun stops => ⟨entries, rfl, stops⟩
  · push Not at tabled
    obtain ⟨message, refused⟩ := @ofConfiguration_untabled files path _ tabled
    cases refused.symm.trans fails
    exact .inl ⟨message, .invalid message⟩

end Settings

namespace Session

variable {world : World} {written : String} {rest : List String} {fault : Fault}

theorem start_of_isTold {message : String} (fails : Settings.load world.files (.ofText written) = .error fault)
    (told : fault.IsTold message) :
    start (written :: rest) world = .ok { exitCode := 1, output := "Error: " ++ message ++ "\n" } := by
  unfold start
  dsimp only
  rw [fails]
  cases told <;> rfl

theorem start_of_untold (fails : Settings.load world.files (.ofText written) = .error fault)
    (untold : ∀ message, ¬fault.IsTold message) : start (written :: rest) world = .error fault := by
  unfold start
  dsimp only
  rw [fails]
  cases fault with
  | invalid message => exact absurd (.invalid message) (untold message)
  | fileNotFound message => exact absurd (.fileNotFound message) (untold message)
  | _ => rfl

/-- From a configuration file that can be read, settings are loaded, or the session ends with a message and exit status
    1, or the configuration is one of those whose fault is not told. Each of these stops the session with its fault. -/
theorem refusals_are_told {content : FileContent} {configuration : Datum}
    (reads : world.files.read (.ofText written) = .ok content) (holds : content.configuration? = some configuration) :
    ((∃ settings, Settings.load world.files (.ofText written) = .ok settings) ∨
      (∃ fault message, Settings.load world.files (.ofText written) = .error fault ∧ fault.IsTold message ∧
        start (written :: rest) world = .ok { exitCode := 1, output := "Error: " ++ message ++ "\n" }) ∨
      ∃ entries fault, configuration = .table entries ∧ Settings.StopsUntold world.files entries fault) ∧
    ∀ entries fault, configuration = .table entries → Settings.StopsUntold world.files entries fault →
      Settings.load world.files (.ofText written) = .error fault ∧ (∀ message, ¬fault.IsTold message) ∧
        start (written :: rest) world = .error fault := by
  have loads := Settings.load_eq_ofConfiguration reads holds
  constructor
  · cases outcome : Settings.load world.files (.ofText written) with
    | ok settings => exact .inl ⟨settings, rfl⟩
    | error fault =>
        rcases Settings.ofConfiguration_eq_error (loads.symm.trans outcome) with ⟨message, told⟩ | ⟨entries, stops⟩
        · exact .inr (.inl ⟨fault, message, rfl, told, start_of_isTold outcome told⟩)
        · exact .inr (.inr ⟨entries, fault, stops⟩)
  · rintro entries fault rfl stops
    have fails := loads.trans (Settings.ofConfiguration_table.trans stops.ofEntries_eq)
    exact ⟨fails, fun _ => stops.not_isTold, start_of_untold fails fun _ => stops.not_isTold⟩

/-- A world with a script and a configuration beside it. -/
def worldWith (entries : List (String × Datum)) : World where
  files := Settings.besideScript entries
  parse _ _ := .trees []
  shownTime := ""
  fileTime := ""

theorem refusals_are_told_negativeThreshold :
    start ["config.yml"] (worldWith [("query", .text "q.sql"), ("row_threshold", .int (-1))]) =
      .ok { exitCode := 1, output := "Error: row_threshold must be a non-negative integer, got: -1\n" } := by
  let entries : List (String × Datum) := [("query", .text "q.sql"), ("row_threshold", .int (-1))]
  have reads : (worldWith entries).files.read (.ofText "config.yml") = .ok (.document (.table entries)) :=
    Settings.besideScript_reads entries
  have refused : Settings.load (worldWith entries).files (.ofText "config.yml") =
      .error (.invalid "row_threshold must be a non-negative integer, got: -1") := by with_unfolding_all rfl
  obtain ⟨⟨settings, loads⟩ | ⟨fault, message, fails, told, ends⟩ | ⟨_, fault, isTable, stops⟩, untold⟩ :=
    @refusals_are_told _ _ [] _ _ reads rfl
  · exact nomatch refused.symm.trans loads
  · cases refused.symm.trans fails
    cases told
    exact ends
  · obtain ⟨fails, unsaid, -⟩ := untold _ fault isTable stops
    cases refused.symm.trans fails
    exact absurd (.invalid _) (unsaid _)

/-- A connection URL that is a number is not told as one without a dialect. -/
theorem numbered_url_untold :
    let described := .table [("dbname", .text "shop"), ("user", .text "root"), ("url", .int 5)]
    let entries := [("query", .text "q.sql"), ("database", described)]
    (worldWith entries).files.read (.ofText "config.yml") = .ok (.document (.table entries)) ∧
      Settings.load (worldWith entries).files (.ofText "config.yml") = .error .lacksMember ∧
      (∀ message, ¬Fault.lacksMember.IsTold message) ∧
      start ["config.yml"] (worldWith entries) = .error .lacksMember := by
  intro described entries
  have reads := Settings.besideScript_reads entries
  have stops : Settings.StopsUntold (worldWith entries).files entries .lacksMember :=
    .afterQuery rfl (Settings.besideScript_leads entries)
      (.database rfl rfl (.oddUrl rfl rfl rfl rfl rfl nofun))
  have fails := (Settings.load_eq reads).trans stops.ofEntries_eq
  exact ⟨reads, fails, fun _ => stops.not_isTold, start_of_untold fails fun _ => stops.not_isTold⟩

end Session

end SqlAdvisor
