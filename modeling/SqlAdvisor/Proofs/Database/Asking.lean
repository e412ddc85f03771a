import SqlAdvisor.Database.Connection

/-! # What a database is asked and answers

A question to a database of a known vendor is answered with its rows or refused with the driver's message. The
connection is closed again after every question that opens it.
-/

namespace SqlAdvisor

namespace DatabaseConfig

/-- The database is of a vendor that can be asked for an EXPLAIN. -/
def IsSupported (config : DatabaseConfig) : Prop :=
  ∃ vendor, config.vendor = .text vendor ∧
    Text.lower vendor ∈ ["postgres", "postgresql", "mysql", "mariadb"]

/-- The database answers an EXPLAIN with a table of rows. -/
def IsTabular (config : DatabaseConfig) : Prop :=
  ∃ vendor, config.vendor = .text vendor ∧ Text.lower vendor ∈ ["mysql", "mariadb"]

variable {config : DatabaseConfig}

theorem dialect_of_vendor {vendor : String} {dialect : Dialect} (text : config.vendor = .text vendor)
    (known : Dialect.ofVendor? (Text.lower vendor) = some dialect) : config.dialect = .ok dialect := by
  simp only [DatabaseConfig.dialect, text, known]

theorem dialect_of_supported (supported : config.IsSupported) : ∃ dialect, config.dialect = .ok dialect := by
  obtain ⟨vendor, text, known⟩ := supported
  have named : ∃ dialect, Dialect.ofVendor? (Text.lower vendor) = some dialect := by
    simp only [List.mem_cons, List.not_mem_nil, or_false] at known
    rcases known with eq | eq | eq | eq <;> rw [eq] <;> exact ⟨_, rfl⟩
  obtain ⟨dialect, named⟩ := named
  exact ⟨dialect, dialect_of_vendor text named⟩

theorem dialect_of_tabular (tabular : config.IsTabular) : config.dialect = .ok .mysql := by
  obtain ⟨vendor, text, known⟩ := tabular
  refine dialect_of_vendor text ?_
  simp only [List.mem_cons, List.not_mem_nil, or_false] at known
  rcases known with eq | eq <;> rw [eq] <;> rfl

end DatabaseConfig

theorem Text.contains_iff {s needle : String} : Text.contains s needle = true ↔ needle.toList <:+: s.toList := by
  rw [contains, occursIn_iff]
  exact exists_congr fun before => exists_congr fun after => eq_comm

namespace ExplainFailure

/-- The message, in lower case, tells of a column or variable that the server does not know. -/
def TellsUnresolved (message : String) : Prop :=
  let tells (words : String) := words.toList <:+: (Text.lower message).toList
  tells "unknown column" ∨ tells "unknown variable" ∨ tells "column" ∧ tells "does not exist"

theorem kind_ofDriverError {contents : List Datum} :
    (ofDriverError contents).kind = .unresolvedVariable ↔
      TellsUnresolved (Text.strip (errorText contents)) := by
  have tells : tellsUnresolved (Text.strip (errorText contents)) = true ↔
      TellsUnresolved (Text.strip (errorText contents)) := by
    simp only [tellsUnresolved, TellsUnresolved, Bool.or_eq_true, Bool.and_eq_true, Text.contains_iff, or_assoc]
  rw [← tells]
  cases told : tellsUnresolved (Text.strip (errorText contents)) <;> simp [ofDriverError, told]

end ExplainFailure

/-! ## Answers -/

section

variable {config : DatabaseConfig} {server : Server} (query : String)

theorem runExplain_failed {stage : FailureStage} {contents : List Datum} (supported : config.IsSupported)
    (failure : server.failure = some (stage, contents)) :
    (runExplain config server query).outcome = .error (.explainFailed (.ofDriverError contents)) := by
  obtain ⟨dialect, known⟩ := DatabaseConfig.dialect_of_supported supported
  rw [runExplain, known]
  simp only [failure]
  cases stage <;> rfl

theorem runExplain_tabular (tabular : config.IsTabular) (answers : server.failure = none) :
    (runExplain config server query).outcome = .ok server.result.tabularRows := by
  rw [runExplain, DatabaseConfig.dialect_of_tabular tabular]
  simp only [answers]
  rfl

end

/-! ## The connection -/

namespace DatabaseCall

def isConnect : DatabaseCall → Bool
  | connect .. => true
  | _ => false

def isClose : DatabaseCall → Bool
  | close => true
  | _ => false

end DatabaseCall

/-- The server lets a driver connect to it. -/
def Server.Accepts (server : Server) : Prop :=
  ∀ contents, server.failure ≠ some (.connecting, contents)

/-- The connection that some calls open, if they do, is closed once, and no other is. -/
def Closed (server : Server) (calls : List DatabaseCall) : Prop :=
  (server.Accepts ∧ calls.any (·.isConnect) = true → calls.countP (·.isClose) = 1) ∧
  (¬(server.Accepts ∧ calls.any (·.isConnect) = true) → calls.countP (·.isClose) = 0)

theorem closed_nil (server : Server) : Closed server [] := by
  simp [Closed]

/-- Whatever the answer to a question, the connection is closed. -/
theorem closed_runExplain (config : DatabaseConfig) (server : Server) (query : String) :
    Closed server (runExplain config server query).calls := by
  rw [runExplain]
  cases config.dialect with
  | error fault => exact closed_nil server
  | ok dialect =>
      have connects : (config.connectCall dialect).isConnect = true := rfl
      have opens : (config.connectCall dialect).isClose = false := rfl
      have asks (sql : String) : (DatabaseCall.execute sql).isClose = false := rfl
      have closes : DatabaseCall.close.isClose = true := rfl
      cases failure : server.failure with
      | none =>
          have accepts : server.Accepts := fun contents h => nomatch failure.symm.trans h
          simp [Closed, accepts, connects, opens, asks, closes]
      | some failed =>
          obtain ⟨stage, contents⟩ := failed
          cases stage with
          | connecting =>
              have refuses : ¬server.Accepts := fun accepts => accepts contents failure
              simp [Closed, refuses, Explained.failed, opens]
          | executing =>
              have accepts : server.Accepts := fun contents h => nomatch failure.symm.trans h
              simp [Closed, accepts, Explained.failed, connects, opens, asks, closes]

end SqlAdvisor
