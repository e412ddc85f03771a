/-! # Log records

Operations that have something to tell return their records beside their value.
-/

namespace SqlAdvisor

/-- How serious a record is. -/
inductive LogLevel where
  | debug
  | info
  | warning
  | error
  deriving DecidableEq

namespace LogLevel

def name : LogLevel → String
  | debug => "DEBUG"
  | info => "INFO"
  | warning => "WARNING"
  | error => "ERROR"

def onConsole : LogLevel → Bool
  | debug => false
  | _ => true

end LogLevel

/-- The part of the program that a record comes from. -/
inductive LogSource where
  /-- The command line tool itself. -/
  | tool
  /-- The pipeline from script to report. -/
  | pipeline
  /-- The extraction of column usage. -/
  | usage
  /-- The hint rules. -/
  | hints
  /-- The correlation of EXPLAIN rows, and the ledger of its warnings. -/
  | correlation
  /-- The connection to the database. -/
  | database
  deriving DecidableEq

def LogSource.name : LogSource → String
  | tool => "qanalyzer"
  | pipeline => "qanalyzer.core.analyzer"
  | usage => "qanalyzer.core.extractor"
  | hints => "qanalyzer.core.hints"
  | correlation => "qanalyzer.core.correlator"
  | database => "qanalyzer.core.database"

structure LogRecord where
  level : LogLevel
  source : LogSource
  message : String
  deriving DecidableEq

/-- The record's line in the log file, without its time. -/
def LogRecord.line (record : LogRecord) : String :=
  record.source.name ++ " - " ++ record.level.name ++ " - " ++ record.message

/-- A value with the records that its computation left, in order. -/
structure Logged (α : Type) where
  value : α
  log : List LogRecord := []

namespace Logged

/-- The value changed, under the same log. -/
def map (f : α → β) (x : Logged α) : Logged β := ⟨f x.value, x.log⟩

/-- Two computations one after the other. -/
def andThen (x : Logged α) (f : α → Logged β) : Logged β :=
  let y := f x.value
  ⟨y.value, x.log ++ y.log⟩

end Logged

end SqlAdvisor
