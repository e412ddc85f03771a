import SqlAdvisor.Proofs.Config.Databases
import SqlAdvisor.Proofs.Config.Paths

/-! # Configurations that are accepted

A configuration is checked part by part. What follows the script's path is accepted exactly if the database, the
threshold and the directory for the reports can be used; else the first of them that cannot be used is what is told.
-/

namespace SqlAdvisor

namespace Settings

variable {files : FileTree} {path : FilePath} {entries : List (String × Datum)} {settings : Settings} {fault : Fault}

/-- The configuration describes no database, or one by complete entries. -/
def HasUsableDatabase (entries : List (String × Datum)) : Prop :=
  ∀ described, entries.lookup "database" = some described → described.truthy = true →
    ∃ fields, described = .table fields ∧ IsComplete fields

/-- The configuration gives no threshold, or a number that is not negative. -/
def HasUsableThreshold (entries : List (String × Datum)) : Prop :=
  ∀ given, entries.lookup "row_threshold" = some given → ∃ n : Int, given = .int n ∧ 0 ≤ n

/-- The configuration names no directory for the reports, or names it by a text. -/
def HasUsableOutput (entries : List (String × Datum)) : Prop :=
  ∀ given, entries.lookup "output_dir" = some given → ∃ written, given = .text written

/-- The database that a configuration describes, if it describes one. -/
def databaseIn (entries : List (String × Datum)) : Except Fault (Option DatabaseConfig) :=
  let described := entry entries "database" .null
  if described.truthy then (databaseOf described).map some else .ok none

/-- What is left to check when the script is found. -/
def withQuery (entries : List (String × Datum)) (query : FilePath) : Except Fault Settings :=
  databaseIn entries >>= fun database =>
    thresholdOf (entry entries "row_threshold" (.int defaultRowThreshold)) >>= fun rowThreshold =>
      (entry entries "output_dir" (.text defaultOutputDir)).toPath >>= fun outputDir =>
        .ok {
          query := query
          database := database
          dialect := dialectOf (entry entries "dialect" .null) database
          rowThreshold := rowThreshold
          outputDir := outputDir }

/-! ## The script -/

theorem ofEntries_eq (files : FileTree) (entries : List (String × Datum)) : ofEntries files entries =
    (match entries.lookup "query" with
      | none => .error (.invalid "Missing required field in config: query")
      | some given => given.toPath) >>= fun query =>
        files.holds query >>= fun found =>
          if found then withQuery entries query
          else .error (.fileNotFound ("Query file not found: " ++ query.display)) := by
  rw [ofEntries]
  cases entries.lookup "query" with
  | none => rfl
  | some given =>
      dsimp only
      cases given.toPath with
      | error fault => rfl
      | ok query =>
          simp only [bind, Except.bind]
          cases files.holds query with
          | error fault => rfl
          | ok found =>
              cases found with
              | false => rfl
              | true =>
                  simp only [withQuery, databaseIn, bind, Except.bind, pure, Except.pure]
                  cases (entry entries "database" .null).truthy with
                  | false => rfl
                  | true => cases databaseOf (entry entries "database" .null) <;> rfl

theorem load_eq (reads : files.read path = .ok (.document (.table entries))) :
    load files path = ofEntries files entries := by
  have there := (FileTree.Leads.of_read reads).holds_eq
  rw [load, there, reads]
  cases entries <;> rfl

/-! ## The parts after the script -/

theorem entry_of_lookup {name : String} {given default : Datum} (found : entries.lookup name = some given) :
    entry entries name default = given := by
  rw [entry, found, Option.getD_some]

theorem entry_of_absent {name : String} {default : Datum} (absent : entries.lookup name = none) :
    entry entries name default = default := by
  rw [entry, absent, Option.getD_none]

theorem databaseIn_bare (bare : ∀ described, entries.lookup "database" = some described → described.truthy = false) :
    databaseIn entries = .ok none := by
  rw [databaseIn]
  cases given : entries.lookup "database" with
  | none =>
      rw [entry_of_absent given]
      rfl
  | some described =>
      rw [entry_of_lookup given]
      simp [bare described given]

theorem databaseIn_given {described : Datum} (given : entries.lookup "database" = some described)
    (counts : described.truthy = true) : databaseIn entries = (databaseOf described).map some := by
  rw [databaseIn, entry_of_lookup given]
  exact if_pos counts

theorem databaseIn_eq_some {config : DatabaseConfig} (told : databaseIn entries = .ok (some config)) :
    ∃ fields vendor dialect, entries.lookup "database" = some (.table fields) ∧ TellsVendor fields vendor ∧
      Dialect.ofVendor? vendor = some dialect ∧ config = configOf fields vendor dialect := by
  by_cases bare : ∀ described, entries.lookup "database" = some described → described.truthy = false
  · rw [databaseIn_bare bare] at told
    cases told
  · push Not at bare
    obtain ⟨described, given, counts⟩ := bare
    rw [databaseIn_given given (Bool.ne_false_iff.mp counts)] at told
    obtain ⟨config, told, same⟩ := Except.map_eq_ok.mp told
    cases same
    obtain ⟨fields, rfl, -, -, vendor, dialect, tells, known, isConfig⟩ := databaseOf_eq_ok.mp told
    exact ⟨fields, vendor, dialect, given, tells, known, isConfig⟩

theorem databaseIn_total_iff : (∃ database, databaseIn entries = .ok database) ↔ HasUsableDatabase entries := by
  constructor
  · rintro ⟨database, told⟩ described given counts
    rw [databaseIn_given given counts] at told
    obtain ⟨config, told, -⟩ := Except.map_eq_ok.mp told
    exact IsComplete.of_databaseOf told
  · intro usable
    by_cases bare : ∀ described, entries.lookup "database" = some described → described.truthy = false
    · exact ⟨none, databaseIn_bare bare⟩
    · push Not at bare
      obtain ⟨described, given, counts⟩ := bare
      have counts := Bool.ne_false_iff.mp counts
      obtain ⟨fields, rfl, complete⟩ := usable described given counts
      obtain ⟨config, told⟩ := complete.databaseOf_total
      exact ⟨some config, by rw [databaseIn_given given counts, told]; rfl⟩

theorem databaseIn_eq_error (fails : databaseIn entries = .error fault) :
    ∃ described, entries.lookup "database" = some described ∧ described.truthy = true ∧
      databaseOf described = .error fault := by
  by_cases bare : ∀ described, entries.lookup "database" = some described → described.truthy = false
  · rw [databaseIn_bare bare] at fails
    cases fails
  · push Not at bare
    obtain ⟨described, given, counts⟩ := bare
    have counts := Bool.ne_false_iff.mp counts
    rw [databaseIn_given given counts, Except.map_eq_error] at fails
    exact ⟨described, given, counts, fails⟩

theorem thresholdOf_total_iff {given : Datum} :
    (∃ n, thresholdOf given = .ok n) ↔ ∃ n : Int, given = .int n ∧ 0 ≤ n := by
  cases given with
  | int n => by_cases least : 0 ≤ n <;> simp [thresholdOf, least]
  | _ => simp [thresholdOf]

theorem thresholdIn_total_iff :
    (∃ n, thresholdOf (entry entries "row_threshold" (.int defaultRowThreshold)) = .ok n) ↔
      HasUsableThreshold entries := by
  rw [thresholdOf_total_iff, HasUsableThreshold]
  cases found : entries.lookup "row_threshold" with
  | none =>
      rw [entry_of_absent found]
      exact iff_of_true ⟨_, rfl, by decide⟩ (by simp)
  | some given =>
      rw [entry_of_lookup found]
      simp

theorem thresholdOf_eq_error {given : Datum} (fails : thresholdOf given = .error fault) :
    ∃ message, fault = .invalid message := by
  cases given with
  | int n =>
      simp only [thresholdOf] at fails
      split at fails
      · cases fails
      · exact ⟨_, (Except.error.inj fails).symm⟩
  | _ => exact ⟨_, (Except.error.inj fails).symm⟩

theorem toPath_eq_error {given : Datum} : given.toPath = .error fault ↔
    (∀ written, given ≠ .text written) ∧ fault = .wrongType := by
  cases given <;> simp [Datum.toPath, eq_comm]

theorem outputIn_total_iff :
    (∃ path, (entry entries "output_dir" (.text defaultOutputDir)).toPath = .ok path) ↔ HasUsableOutput entries := by
  rw [HasUsableOutput]
  cases found : entries.lookup "output_dir" with
  | none =>
      rw [entry_of_absent found]
      exact iff_of_true ⟨_, rfl⟩ (by simp)
  | some given =>
      rw [entry_of_lookup found]
      cases given <;> simp [Datum.toPath]

theorem withQuery_total_iff {query : FilePath} : (∃ settings, withQuery entries query = .ok settings) ↔
    HasUsableDatabase entries ∧ HasUsableThreshold entries ∧ HasUsableOutput entries := by
  rw [← databaseIn_total_iff, ← thresholdIn_total_iff, ← outputIn_total_iff]
  constructor
  · rintro ⟨settings, passes⟩
    obtain ⟨database, told, passes⟩ := Except.bind_eq_ok.mp passes
    obtain ⟨rowThreshold, high, passes⟩ := Except.bind_eq_ok.mp passes
    obtain ⟨outputDir, leads, -⟩ := Except.bind_eq_ok.mp passes
    exact ⟨⟨database, told⟩, ⟨rowThreshold, high⟩, outputDir, leads⟩
  · rintro ⟨⟨database, told⟩, ⟨rowThreshold, high⟩, outputDir, leads⟩
    exact ⟨_, by rw [withQuery, told, high, leads]; rfl⟩

/-- Where a part cannot be used, this is told in a message, unless the database or the directory is of the wrong
    type. -/
inductive FailsUntold (entries : List (String × Datum)) : Fault → Prop where
  | database {described : Datum} {fault : Fault} (given : entries.lookup "database" = some described)
    (counts : described.truthy = true) (misdescribes : Misdescribes described fault) : FailsUntold entries fault
  | output {value : Datum} (database : HasUsableDatabase entries) (threshold : HasUsableThreshold entries)
    (given : entries.lookup "output_dir" = some value) (odd : ∀ written, value ≠ .text written) :
    FailsUntold entries .wrongType

theorem withQuery_eq_error {query : FilePath} (fails : withQuery entries query = .error fault) :
    (∃ message, fault = .invalid message) ∨ FailsUntold entries fault := by
  rcases Except.bind_eq_error.mp fails with noDatabase | ⟨database, told, fails⟩
  · obtain ⟨described, given, counts, noDatabase⟩ := databaseIn_eq_error noDatabase
    exact (databaseOf_eq_error noDatabase).imp id (.database given counts)
  rcases Except.bind_eq_error.mp fails with noThreshold | ⟨rowThreshold, high, fails⟩
  · exact .inl (thresholdOf_eq_error noThreshold)
  rcases Except.bind_eq_error.mp fails with noOutput | ⟨outputDir, -, fails⟩
  · obtain ⟨odd, rfl⟩ := toPath_eq_error.mp noOutput
    cases given : entries.lookup "output_dir" with
    | none => exact absurd (entry_of_absent given) (odd defaultOutputDir)
    | some value =>
        rw [entry_of_lookup given] at odd
        exact .inr (.output (databaseIn_total_iff.mp ⟨database, told⟩) (thresholdIn_total_iff.mp ⟨rowThreshold, high⟩)
          given odd)
  · cases fails

theorem FailsUntold.withQuery_eq (fails : FailsUntold entries fault) (query : FilePath) :
    withQuery entries query = .error fault := by
  cases fails with
  | database given counts misdescribes =>
      rw [withQuery, databaseIn_given given counts, misdescribes.databaseOf_eq]
      rfl
  | output database threshold given odd =>
      obtain ⟨database, told⟩ := databaseIn_total_iff.mpr database
      obtain ⟨rowThreshold, high⟩ := thresholdIn_total_iff.mpr threshold
      rw [withQuery, told, high, entry_of_lookup given, toPath_eq_error.mpr ⟨odd, rfl⟩]
      rfl

/-! ## What is accepted -/

/-- What the entries of a configuration name by a text is a text. -/
structure HasTexts (entries : List (String × Datum)) : Prop where
  query : ∀ given, entries.lookup "query" = some given → ∃ written, given = .text written
  output : HasUsableOutput entries
  database : ∀ described, entries.lookup "database" = some described → described.truthy = true →
    ∃ fields, described = .table fields ∧ ∀ url, fields.lookup "url" = some url → ∃ written, url = .text written

/-- The settings can be used as they are: their database has a dialect, at whose default port it is looked for where no
    port is given, and which the parser is told where no dialect is given. -/
structure IsReady (settings : Settings) (entries : List (String × Datum)) : Prop where
  database : ∀ config, settings.database = some config → ∃ fields dialect port,
    entries.lookup "database" = some (.table fields) ∧ config.dialect = .ok dialect ∧
      dialect.defaultPort? = some port ∧ (fields.lookup "port" = none → config.port = .int port) ∧
      ((entry entries "dialect" .null).truthy = false → settings.dialect = .text dialect.name)
  bare : settings.database = none → (entry entries "dialect" .null).truthy = false → settings.dialect = .null
  given : (entry entries "dialect" .null).truthy = true → settings.dialect = entry entries "dialect" .null

theorem configOf_dialect {fields : List (String × Datum)} {vendor : String} {dialect : Dialect}
    (known : Dialect.ofVendor? vendor = some dialect) : (configOf fields vendor dialect).dialect = .ok dialect := by
  refine DatabaseConfig.dialect_of_vendor rfl ?_
  rw [Dialect.lower_of_mem_vendors (Dialect.ofVendor?_isSome.mp ⟨dialect, known⟩), known]

theorem isReady_of_withQuery {query : FilePath} (passes : withQuery entries query = .ok settings) :
    settings.IsReady entries := by
  obtain ⟨database, told, passes⟩ := Except.bind_eq_ok.mp passes
  obtain ⟨rowThreshold, -, passes⟩ := Except.bind_eq_ok.mp passes
  obtain ⟨outputDir, -, passes⟩ := Except.bind_eq_ok.mp passes
  cases passes
  refine ⟨?database, ?bare, fun counts => if_pos counts⟩
  case database =>
    rintro config rfl
    obtain ⟨fields, vendor, dialect, given, -, known, rfl⟩ := databaseIn_eq_some told
    obtain ⟨port, isDefault⟩ := Dialect.defaultPort?_ofVendor? known
    refine ⟨fields, dialect, port, given, configOf_dialect known, isDefault, fun absent => ?_, fun empty => ?_⟩
    · rw [configOf, entry_of_absent absent, isDefault]
      rfl
    · simp [dialectOf, empty, configOf_dialect known]
  case bare =>
    rintro rfl empty
    simp [dialectOf, empty]

theorem HasTexts.not_failsUntold (texts : HasTexts entries) : ¬FailsUntold entries fault := by
  rintro (⟨given, counts, misdescribes⟩ | ⟨-, -, given, odd⟩)
  · obtain ⟨fields, rfl, urls⟩ := texts.database _ given counts
    cases misdescribes with
    | unsearchable bare => simp [Datum.hasMember] at bare
    | unreadable untabled => exact untabled fields rfl
    | oddUrl _ _ _ given _ odd =>
        obtain ⟨written, rfl⟩ := urls _ given
        exact odd written rfl
  · obtain ⟨written, rfl⟩ := texts.output _ given
    exact odd written rfl

/-- A configuration whose names are texts is refused with a message if it names no script, and if the script's path
    leads nowhere, as long as the path is not too long to be followed. Where the script is found, the configuration is
    accepted exactly if it can be used, and otherwise refused with a message. Accepted settings are ready to be used. -/
theorem load_accepts_usable (reads : files.read path = .ok (.document (.table entries))) (texts : HasTexts entries) :
    (entries.lookup "query" = none →
      load files path = .error (.invalid "Missing required field in config: query")) ∧
    (∀ written, entries.lookup "query" = some (.text written) →
      (files.IsOverlong (.ofText written) → load files path = .error .nameTooLong) ∧
      (¬files.Leads (.ofText written) → ¬files.IsOverlong (.ofText written) → load files path =
        .error (.fileNotFound ("Query file not found: " ++ (FilePath.ofText written).display))) ∧
      (files.Leads (.ofText written) →
        ((∃ settings, load files path = .ok settings) ↔ HasUsableDatabase entries ∧ HasUsableThreshold entries) ∧
        ∀ fault, load files path = .error fault → ∃ message, fault = .invalid message)) ∧
    ∀ settings, load files path = .ok settings → settings.IsReady entries := by
  rw [load_eq reads, ofEntries_eq]
  refine ⟨fun missing => ?missing, fun written given => ?given, fun settings passes => ?ready⟩
  case missing =>
    rw [missing]
    rfl
  case given =>
    rw [given]
    simp only [Datum.toPath, bind, Except.bind]
    rcases files.holds_cases (.ofText written) with ⟨leads, holds⟩ | ⟨long, holds⟩ | ⟨nowhere, short, holds⟩
    · have found : ¬files.IsOverlong (.ofText written) := fun long => long.not_leads leads
      rw [holds]
      refine ⟨fun long => absurd long found, fun nowhere => absurd leads nowhere, fun _ => ⟨?_, fun fault fails => ?_⟩⟩
      · refine withQuery_total_iff.trans ?_
        rw [← and_assoc, and_iff_left texts.output]
      · exact (withQuery_eq_error fails).resolve_right texts.not_failsUntold
    · rw [holds]
      exact ⟨fun _ => rfl, fun _ short => absurd long short, fun leads => absurd leads long.not_leads⟩
    · rw [holds]
      exact ⟨fun long => absurd long short, fun _ _ => rfl, fun leads => absurd leads nowhere⟩
  case ready =>
    obtain ⟨query, -, passes⟩ := Except.bind_eq_ok.mp passes
    obtain ⟨found, -, passes⟩ := Except.bind_eq_ok.mp passes
    cases found with
    | false => cases passes
    | true => exact isReady_of_withQuery passes

/-- A configuration whose database is told by a connection URL. -/
def warehouse : List (String × Datum) :=
  [("query", .text "q.sql"),
   ("database", .table [("dbname", .text "shop"), ("user", .text "root"), ("url", .text "jdbc:mariadb://db/shop")])]

/-- A script, with a configuration beside it. -/
def besideScript (entries : List (String × Datum)) : FileTree :=
  ⟨[(.ofText "q.sql", .text "SELECT 1"), (.ofText "config.yml", .document (.table entries))]⟩

theorem besideScript_reads (entries : List (String × Datum)) :
    (besideScript entries).read (.ofText "config.yml") = .ok (.document (.table entries)) := by
  with_unfolding_all rfl

theorem besideScript_leads (entries : List (String × Datum)) : (besideScript entries).Leads (.ofText "q.sql") :=
  ⟨.ofText "q.sql", by with_unfolding_all rfl⟩

theorem load_accepts_usable_warehouse : ∃ settings,
    load (besideScript warehouse) (.ofText "config.yml") = .ok settings ∧ settings.IsReady warehouse ∧
      settings.dialect = .text "mysql" := by
  let fields : List (String × Datum) :=
    [("dbname", .text "shop"), ("user", .text "root"), ("url", .text "jdbc:mariadb://db/shop")]
  have described : ∀ value, warehouse.lookup "database" = some value → value = .table fields := by
    rintro _ ⟨⟩
    rfl
  have texts : HasTexts warehouse := {
    query := by
      rintro _ ⟨⟩
      exact ⟨_, rfl⟩
    output := by rintro _ ⟨⟩
    database := by
      intro value given _
      refine ⟨fields, described value given, ?_⟩
      rintro _ ⟨⟩
      exact ⟨_, rfl⟩ }
  have complete : IsComplete fields :=
    ⟨rfl, rfl, "mysql", by decide, .ofUrl rfl rfl (by decide) (by with_unfolding_all rfl : _ = some Dialect.mysql)⟩
  obtain ⟨-, given, ready⟩ := load_accepts_usable (besideScript_reads warehouse) texts
  obtain ⟨-, -, found⟩ := given "q.sql" rfl
  obtain ⟨settings, loads⟩ := (found (besideScript_leads warehouse)).1.mpr
    ⟨fun value given _ => ⟨fields, described value given, complete⟩, by rintro _ ⟨⟩⟩
  have dialect : (load (besideScript warehouse) (.ofText "config.yml")).map (·.dialect) = .ok (.text "mysql") := by
    with_unfolding_all rfl
  rw [loads] at dialect
  exact ⟨settings, loads, ready settings loads, Except.ok.inj dialect⟩

/-- A name of so many bytes. -/
def nameOfLength (length : Nat) : String := String.ofList (List.replicate length 'q')

theorem mem_nameOfLength {length : Nat} {c : Char} (mem : c ∈ (nameOfLength length).toList) : c = 'q' := by
  rw [nameOfLength, String.toList_ofList] at mem
  exact List.eq_of_mem_replicate mem

theorem utf8ByteSize_nameOfLength (length : Nat) : (nameOfLength length).utf8ByteSize = length := by
  induction length with
  | zero => rfl
  | succ length ih =>
      rw [nameOfLength] at ih
      rw [nameOfLength, List.replicate_succ', String.ofList_append, String.utf8ByteSize_append, ih]
      rfl

theorem load_of_overlong {name : String} (long : (besideScript [("query", .text name)]).IsOverlong (.ofText name)) :
    load (besideScript [("query", .text name)]) (.ofText "config.yml") = .error .nameTooLong := by
  rw [load_eq (besideScript_reads _), ofEntries_eq, List.lookup_cons_self]
  simp only [Datum.toPath, bind, Except.bind]
  rw [long.holds_eq]

theorem hasTexts_of_query (name : String) : HasTexts [("query", .text name)] where
  query := by
    rintro _ ⟨⟩
    exact ⟨name, rfl⟩
  output := by rintro _ ⟨⟩
  database := by rintro _ ⟨⟩

/-- The path leads nowhere, but it is not told as the path of a missing file. -/
theorem overlong_query_untold :
    let entries := [("query", .text (nameOfLength 256))]
    let files := besideScript entries
    files.read (.ofText "config.yml") = .ok (.document (.table entries)) ∧ HasTexts entries ∧
      ¬files.Leads (.ofText (nameOfLength 256)) ∧ load files (.ofText "config.yml") = .error .nameTooLong ∧
      ∀ message, load files (.ofText "config.yml") ≠ .error (.fileNotFound message) := by
  have long : (besideScript [("query", .text (nameOfLength 256))]).IsOverlong (.ofText (nameOfLength 256)) :=
    .of_name (fun mem => nomatch mem_nameOfLength mem) (fun mem => nomatch mem_nameOfLength mem)
      (by rw [utf8ByteSize_nameOfLength]; decide) rfl
  have fails := load_of_overlong long
  exact ⟨besideScript_reads _, hasTexts_of_query _, long.not_leads, fails,
    fun message told => nomatch fails.symm.trans told⟩

end Settings

end SqlAdvisor
