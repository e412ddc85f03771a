import SqlAdvisor.Explain.Correlation
import SqlAdvisor.Proofs.Numeral.Overflow

/-! # Which row estimates can be read

A cell for a row estimate counts as zero where it is blank or unreadable. One thing is not caught: a decimal
numeral may be too great to be stored.
-/

namespace SqlAdvisor

/-- What is written in a cell, without white space around it. -/
def writtenIn (cell : Option String) : List Char := (Text.strip (cell.getD "")).toList

/-- The cell holds a decimal numeral, with a point in it, that is too great to be stored. -/
def IsTooGreat (cell : Option String) : Prop :=
  '.' ∈ writtenIn cell ∧
    ∃ value, Numeral.decimal? (writtenIn cell) = some value ∧ Numeral.overflowBound ≤ value.magnitude

/-- The cell holds no number: with a point in it no decimal numeral, and otherwise no integer. -/
def IsUnreadable (cell : Option String) : Prop :=
  ('.' ∈ writtenIn cell → Numeral.decimal? (writtenIn cell) = none) ∧
    ('.' ∉ writtenIn cell → Numeral.integer? (writtenIn cell) = none)

variable {cell : Option String}

theorem rowNumber?_eq_error (text : List Char) (fault : Fault) :
    rowNumber? text = .error fault ↔ fault = .notFinite ∧ '.' ∈ text ∧
      ∃ value, Numeral.decimal? text = some value ∧ Numeral.overflowBound ≤ value.magnitude := by
  rw [rowNumber?]
  by_cases point : '.' ∈ text
  · rw [if_pos (List.contains_iff_mem.mpr point)]
    cases Numeral.decimal? text with
    | none => simp
    | some value =>
        have great : value.truncated? = none ↔ _ := Numeral.Decimal.truncated?_eq_none
        cases truncated : value.truncated? with
        | none => simp [point, ← great, truncated, eq_comm]
        | some whole => simp [← great, truncated]
  · rw [if_neg (mt List.contains_iff_mem.mp point)]
    simp [point]

theorem rowCount_eq_error {fault : Fault} : rowCount cell = .error fault ↔ fault = .notFinite ∧ IsTooGreat cell := by
  rw [rowCount, IsTooGreat, writtenIn]
  generalize Text.strip (cell.getD "") = written
  have numbers := rowNumber?_eq_error written.toList fault
  rw [← numbers]
  dsimp only
  split
  · rename_i blank
    rw [String.isEmpty_iff.mp blank]
    exact iff_of_false (fun h => nomatch h) fun h => nomatch h
  · cases rowNumber? written.toList with
    | error other => simp [bind, Except.bind]
    | ok number? =>
        refine iff_of_false (fun h => ?_) fun h => nomatch h
        cases number? with
        | none => exact nomatch h
        | some number => exact nomatch h

theorem rowCount_unreadable (unreadable : IsUnreadable cell) : ∃ log, rowCount cell = .ok ⟨0, log⟩ := by
  obtain ⟨noDecimal, noInteger⟩ := unreadable
  have noNumber : rowNumber? (writtenIn cell) = .ok none := by
    rw [rowNumber?]
    by_cases point : '.' ∈ writtenIn cell
    · rw [if_pos (List.contains_iff_mem.mpr point), noDecimal point]
    · rw [if_neg (mt List.contains_iff_mem.mp point), noInteger point]
  rw [writtenIn] at noNumber
  rw [rowCount]
  dsimp only
  split
  · exact ⟨[], rfl⟩
  · rw [noNumber]
    exact ⟨_, rfl⟩

end SqlAdvisor
