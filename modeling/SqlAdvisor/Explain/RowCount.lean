import SqlAdvisor.Fault
import SqlAdvisor.Log
import SqlAdvisor.Numeral.Decimal
import SqlAdvisor.Text.Blank

/-! # Row estimates

A row estimate is written as an integer or, with a point, as a decimal numeral, of which the whole part
counts. What is neither counts as zero.
-/

namespace SqlAdvisor

/-- The number that a text without white space around it writes, if it writes one. One too great to be
    stored is a fault. -/
def rowNumber? (text : List Char) : Except Fault (Option Int) :=
  if text.contains '.' then
    match Numeral.decimal? text with
    | some value =>
      match value.truncated? with
      | some whole => .ok (some whole)
      | none => .error .notFinite
    | none => .ok none
  else .ok (Numeral.integer? text)

/-- The row estimate that a text writes. No text and a blank one are zero; so is an unreadable one, which
    is told in the log. -/
def rowCount (text : Option String) : Except Fault (Logged Int) := do
  let written := Text.strip (text.getD "")
  if written.isEmpty then return ⟨0, []⟩
  match ← rowNumber? written.toList with
  | some n => return ⟨n, []⟩
  | none =>
    let message := "Could not parse row estimate: '" ++ written ++ "'"
    return ⟨0, [⟨.warning, .correlation, message⟩]⟩

end SqlAdvisor
