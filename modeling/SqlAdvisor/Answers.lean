import SqlAdvisor.Config.Document
import SqlAdvisor.Database.Connection
import SqlAdvisor.Script
import SqlAdvisor.Stopwatch
import SqlAdvisor.Tree.Exchange

/-! # The answers of other programs

The SQL parser and the database are other programs. What they answered is handed over as data: the syntax
trees or the errors of a script under `script`, the result or the failure of an EXPLAIN under `db`, and the
readings of the clock around it under `clock`. What is missing is empty.
-/

namespace SqlAdvisor

def SyntaxDetail.ofDatum (datum : Datum) : SyntaxDetail where
  line := (datum.entry? "line").getD .null
  column := (datum.entry? "col").getD .null
  highlight := (datum.entry? "highlight").getD .null
  description := (datum.entry? "description").getD .null

/-- The answer of a parser that a datum tells. An item that is no tree is an empty statement. -/
def ParseOutcome.ofDatum (datum : Datum) : ParseOutcome :=
  match datum.entry? "parse_error", datum.entry? "token_error" with
  | some error, _ =>
    .rejected (((error.entry? "message").map Datum.display).getD "")
      ((error.itemsAt "errors").map .ofDatum)
  | none, some message => .untokenizable message.display
  | none, none => .trees ((datum.itemsAt "trees").map Node.ofDatum?)

/-- The server whose answers a datum tells. -/
def Server.ofDatum (datum : Datum) : Server where
  failure :=
    match datum.textAt? "fail_at" with
    | some "connect" => some (.connecting, datum.itemsAt "fail_args")
    | some "execute" => some (.executing, datum.itemsAt "fail_args")
    | _ => none
  result :=
    match datum.entry? "plan" with
    | some plan => { rows := [[plan]] }
    | none =>
      { columns := (datum.itemsAt "columns").filterMap Datum.text?
        rows := (datum.itemsAt "fetch").map Datum.items }

/-- What the programs around a session answer. -/
structure Answers where
  outcome : ParseOutcome
  server : Server := {}
  clock : Stopwatch := {}

namespace Answers

def ofDatum (datum : Datum) : Answers :=
  let readings := (datum.itemsAt "clock").filterMap Datum.int?
  { outcome := .ofDatum ((datum.entry? "script").getD .null)
    server := .ofDatum ((datum.entry? "db").getD .null)
    clock := { started := readings.headD 0, stopped := readings.getD 1 0 } }

/-- Where the answers to the script at a path stand: beside it, under its name and `.json`. -/
def pathFor (script : FilePath) : FilePath :=
  match script.parts.getLast? with
  | some name => { script with parts := script.parts.dropLast ++ [name ++ ".json"] }
  | none => script

/-- The answers in a file; where there is none, the script counts as refused. -/
def ofFile (files : FileTree) (path : FilePath) : Answers :=
  match files.documentAt? path with
  | some datum => ofDatum datum
  | none => { outcome := .untokenizable ("No answer of a parser found: " ++ path.display) }

end Answers

end SqlAdvisor
