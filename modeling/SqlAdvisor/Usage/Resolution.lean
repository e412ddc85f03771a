import SqlAdvisor.Dictionary
import SqlAdvisor.Statement.Basic

/-! # Which table a qualifier means

An alias map gives each handle of a statement's tables, in lower case, the full name of its table. A
qualifier is looked up there first, then among the names of the known tables. A column without one belongs
to the only table in scope, or is ambiguous.
-/

namespace SqlAdvisor

/-- The table that a column is counted for. -/
inductive TableKey where
  /-- A table that the statement names. -/
  | known (name : String)
  /-- A qualifier that no table answers to. -/
  | unresolved (qualifier : String)
  /-- No qualifier, and not one table in scope. -/
  | ambiguous
  deriving DecidableEq

namespace TableKey

def display : TableKey → String
  | known name => name
  | unresolved qualifier => "?(" ++ qualifier ++ ")"
  | ambiguous => "?(Ambiguous)"

/-- The name of a known table. -/
def knownName? : TableKey → Option String
  | known name => some name
  | _ => none

end TableKey

/-- The full table names under the lower-cased handles of a statement's tables. -/
abbrev AliasMap := Dictionary String String

namespace AliasMap

/-- The alias map of some table references. Of equal handles the last counts. -/
def ofRefs (refs : List TableRef) : AliasMap :=
  .ofList (refs.map fun ref => (Text.lower ref.handle, ref.name))

end AliasMap

/-- Whether a known table's full or simple name is the given one, which is in lower case. -/
def answersTo (lowered known : String) : Bool :=
  Text.lower known = lowered || Text.lower (Text.lastSegment known) = lowered

/-- The table that a qualifier means; the empty qualifier stands for none. -/
def resolve (qualifier : String) (aliases : AliasMap) (known : List String) : TableKey :=
  if qualifier.isEmpty then
    match aliases.values with
    | [only] => .known only
    | _ => .ambiguous
  else
    let lowered := Text.lower qualifier
    match aliases.find? lowered with
    | some name => .known name
    | none =>
      match known.find? (answersTo lowered) with
      | some name => .known name
      | none => .unresolved qualifier

end SqlAdvisor
