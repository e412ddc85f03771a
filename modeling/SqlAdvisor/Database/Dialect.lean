import SqlAdvisor.Fault
import SqlAdvisor.Text.Blank
import SqlAdvisor.Text.Case
import SqlAdvisor.Text.Part

/-! # Dialects of SQL

A connection URL or the name of a vendor tells the dialect that a database speaks.
-/

namespace SqlAdvisor

/-- A dialect of SQL. -/
inductive Dialect where
  | mysql
  | postgres
  | oracle
  | tsql
  deriving DecidableEq

namespace Dialect

def name : Dialect → String
  | mysql => "mysql"
  | postgres => "postgres"
  | oracle => "oracle"
  | tsql => "tsql"

/-- The beginnings of connection URLs, with the dialect each stands for. -/
def urlStarts : List (String × Dialect) :=
  [("jdbc:mysql:", mysql), ("jdbc:mariadb:", mysql), ("mysql", mysql), ("mariadb", mysql),
   ("jdbc:postgresql:", postgres), ("postgres", postgres),
   ("jdbc:oracle:", oracle), ("oracle", oracle),
   ("jdbc:sqlserver:", tsql), ("mssql", tsql), ("sqlserver", tsql)]

/-- The dialect of a connection URL, whatever its letter case. -/
def ofUrl? (url : String) : Option Dialect :=
  let lowered := Text.lower (Text.strip url)
  (urlStarts.find? fun entry => Text.startsWith lowered entry.1).map Prod.snd

/-- The message about a URL without a dialect. -/
def unknownUrl (url : String) : String :=
  "Could not determine database vendor from URL: " ++ url

/-- The dialect of a connection URL; a URL without one is a fault. -/
def ofUrl (url : String) : Except Fault Dialect :=
  match ofUrl? url with
  | some dialect => .ok dialect
  | none => .error (.unsupportedVendor (unknownUrl url))

/-- The dialect of a vendor whose databases can be asked for an EXPLAIN. The name is in lower case. -/
def ofVendor? (vendor : String) : Option Dialect :=
  match vendor with
  | "postgres" | "postgresql" => some postgres
  | "mysql" | "mariadb" => some mysql
  | _ => none

/-- The port at which databases of the dialect listen, if it is one that can be connected to. -/
def defaultPort? : Dialect → Option Int
  | postgres => some 5432
  | mysql => some 3306
  | _ => none

end Dialect

end SqlAdvisor
