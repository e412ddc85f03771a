import Mathlib.Data.Finset.Card
import SqlAdvisor.Explain.Ledger
import SqlAdvisor.Proofs.Dictionary

/-! # What a ledger keeps

After any batches of warnings a ledger holds the first warning of every table and type among them, in the order in
which those came, and each batch was told which of its warnings were new. So the ledger depends on the warnings
alone, and not on how they were cut into batches.
-/

namespace SqlAdvisor

/-- The warnings that follow some earlier ones, without those whose table and type came before. -/
def firstsAfter (earlier : List TableWarning) : List TableWarning → List TableWarning
  | [] => []
  | warning :: rest =>
    if warning.key ∈ earlier.map TableWarning.key then firstsAfter (earlier ++ [warning]) rest
    else warning :: firstsAfter (earlier ++ [warning]) rest

section Firsts

variable {earlier warnings : List TableWarning} {key : String × WarningType}

theorem firstsAfter_append (earlier first second : List TableWarning) :
    firstsAfter earlier (first ++ second) = firstsAfter earlier first ++ firstsAfter (earlier ++ first) second := by
  induction first generalizing earlier with
  | nil => simp [firstsAfter]
  | cons warning rest ih =>
      rw [List.cons_append, firstsAfter, firstsAfter, ih, List.append_assoc, List.singleton_append]
      split
      · rfl
      · rw [List.cons_append]

theorem mem_keys_firstsAfter :
    key ∈ (firstsAfter earlier warnings).map TableWarning.key ↔
      key ∈ warnings.map TableWarning.key ∧ key ∉ earlier.map TableWarning.key := by
  induction warnings generalizing earlier with
  | nil => simp [firstsAfter]
  | cons warning rest ih =>
      rw [firstsAfter]
      by_cases same : key = warning.key
      · subst same
        split <;> rename_i old <;> simp [ih, old]
      · split <;> simp [ih, same]

theorem firstsAfter_eq_nil (known : ∀ warning ∈ warnings, warning.key ∈ earlier.map TableWarning.key) :
    firstsAfter earlier warnings = [] := by
  have none : (firstsAfter earlier warnings).map TableWarning.key = [] := by
    refine List.eq_nil_iff_forall_not_mem.mpr fun key mem => ?_
    obtain ⟨told, new⟩ := mem_keys_firstsAfter.mp mem
    obtain ⟨warning, among, rfl⟩ := List.mem_map.mp told
    exact new (known warning among)
  exact List.map_eq_nil_iff.mp none

theorem firstsAfter_subset : firstsAfter earlier warnings ⊆ warnings := by
  induction warnings generalizing earlier with
  | nil => exact List.Subset.refl _
  | cons warning rest ih =>
      rw [firstsAfter]
      split
      · exact List.subset_cons_of_subset warning ih
      · exact List.cons_subset_cons warning ih

theorem find?_firstsAfter (new : key ∉ earlier.map TableWarning.key) :
    (firstsAfter earlier warnings).find? (·.key = key) = warnings.find? (·.key = key) := by
  induction warnings generalizing earlier with
  | nil => rfl
  | cons warning rest ih =>
      rw [firstsAfter]
      by_cases same : warning.key = key
      · rw [if_neg (same ▸ new)]
        simp [same]
      · have still : key ∉ (earlier ++ [warning]).map TableWarning.key := by simpa [Ne.symm same] using new
        split <;> simp [same, ih still]

end Firsts

namespace Ledger

/-- The ledger keeps the first warning of every key among those told, each under its key and in order. -/
def Keeps (ledger : Ledger) (told : List TableWarning) : Prop :=
  ledger.kept.entries = (firstsAfter [] told).map fun warning => (warning.key, warning)

variable {ledger : Ledger} {told : List TableWarning}

theorem keeps_nil : Keeps {} [] := rfl

namespace Keeps

theorem eq {other : Ledger} (keeps : ledger.Keeps told) (same : other.Keeps told) : ledger = other := by
  cases ledger
  cases other
  congr 1
  exact Dictionary.ext (keeps.trans same.symm)

theorem warnings_eq (keeps : ledger.Keeps told) : ledger.warnings = firstsAfter [] told := by
  rw [warnings, Dictionary.values, keeps, List.map_map]
  exact List.map_id _

theorem keys_eq (keeps : ledger.Keeps told) : ledger.kept.keys = (firstsAfter [] told).map TableWarning.key := by
  rw [Dictionary.keys, keeps, List.map_map]
  rfl

theorem mem_keys (keeps : ledger.Keeps told) {key : String × WarningType} :
    key ∈ ledger.kept.keys ↔ key ∈ told.map TableWarning.key := by
  rw [keeps.keys_eq, mem_keys_firstsAfter]
  simp

theorem find?_eq (keeps : ledger.Keeps told) (key : String × WarningType) :
    ledger.kept.find? key = told.find? (·.key = key) := by
  rw [Dictionary.find?_keyed keeps, find?_firstsAfter List.not_mem_nil]

theorem size_eq (keeps : ledger.Keeps told) : ledger.size = (told.map TableWarning.key).toFinset.card := by
  have same : ledger.kept.keys.toFinset = (told.map TableWarning.key).toFinset := by
    ext key
    rw [List.mem_toFinset, List.mem_toFinset, keeps.mem_keys]
  have nodup : ledger.kept.keys.Nodup := ledger.kept.nodup
  rw [← same, List.toFinset_card_of_nodup nodup, Dictionary.keys, List.length_map, size, Dictionary.size]

theorem warningsFor_eq (keeps : ledger.Keeps told) (table : String) :
    ledger.warningsFor table = ledger.warnings.filter fun warning => Text.lower warning.table = Text.lower table := by
  rw [keeps.warnings_eq, warningsFor, keeps, List.filterMap_map, ← List.filterMap_eq_filter]
  refine List.filterMap_congr fun warning _ => ?_
  simp [TableWarning.key, Option.guard]

end Keeps

/-! ## One warning, and one batch -/

/-- One more warning is added exactly if its key is new. -/
theorem Recorded.add_keeps {state : Recorded} (keeps : state.ledger.Keeps told) (warning : TableWarning) :
    (state.add warning).ledger.Keeps (told ++ [warning]) ∧
      (state.add warning).added = state.added ++ firstsAfter told [warning] := by
  have known : state.ledger.kept.contains warning.key = true ↔ warning.key ∈ told.map TableWarning.key :=
    Dictionary.contains_iff.trans keeps.mem_keys
  have entries : state.ledger.kept.entries = _ := keeps
  rw [add, Keeps, firstsAfter_append, List.nil_append, firstsAfter]
  by_cases old : warning.key ∈ told.map TableWarning.key
  · rw [if_pos (known.mpr old), if_pos old]
    simp [firstsAfter, entries]
  · rw [if_neg (mt known.mp old), if_neg old]
    simp [firstsAfter, Dictionary.entries_insert_of_notMem (mt keeps.mem_keys.mp old), entries]

theorem record_keeps (keeps : ledger.Keeps told) (batch : List TableWarning) :
    (ledger.record batch).ledger.Keeps (told ++ batch) ∧
      (ledger.record batch).added = firstsAfter told batch := by
  induction batch using List.reverseRecOn with
  | nil => exact ⟨by rwa [List.append_nil], rfl⟩
  | append_singleton batch warning ih =>
      obtain ⟨kept, added⟩ := ih
      rw [record, List.foldl_append, List.foldl_cons, List.foldl_nil, ← record]
      obtain ⟨keptNext, addedNext⟩ := Recorded.add_keeps kept warning
      rw [addedNext, added, firstsAfter_append, ← List.append_assoc]
      exact ⟨keptNext, rfl⟩

/-! ## Any batches -/

/-- What some batches did to a ledger, one after the other: the ledger then, and what each of them added. -/
structure History where
  ledger : Ledger
  added : List (List TableWarning) := []

/-- Records batches one after the other. -/
def recordAll (ledger : Ledger) : List (List TableWarning) → History
  | [] => { ledger := ledger }
  | batch :: rest =>
    let recorded := ledger.record batch
    let history := recorded.ledger.recordAll rest
    { history with added := recorded.added :: history.added }

theorem recordAll_keeps (keeps : ledger.Keeps told) (batches : List (List TableWarning)) :
    (ledger.recordAll batches).ledger.Keeps (told ++ batches.flatten) ∧
      (ledger.recordAll batches).added.flatten = firstsAfter told batches.flatten := by
  induction batches generalizing ledger told with
  | nil => exact ⟨by simpa [recordAll] using keeps, rfl⟩
  | cons batch rest ih =>
      obtain ⟨kept, added⟩ := record_keeps keeps batch
      obtain ⟨keptRest, addedRest⟩ := ih kept
      rw [recordAll, List.flatten_cons, List.flatten_cons, firstsAfter_append, added, addedRest,
        ← List.append_assoc]
      exact ⟨keptRest, rfl⟩

/-- After any batches, what they added, one after the other, is what the ledger lists, and that is all warnings but
    those whose key came before. So the first warning of a key is kept as it came, there are as many as keys, and
    other batches of the same warnings lead to the same. Any of the batches again adds nothing. The warnings of a
    table are those listed whose table has that name, whatever its letter case. -/
theorem recordAll_keeps_firsts (batches : List (List TableWarning)) :
    let told := batches.flatten
    let ⟨ledger, added⟩ := recordAll {} batches
    added.flatten = ledger.warnings ∧ ledger.warnings = firstsAfter [] told ∧
      (∀ key, ledger.kept.find? key = told.find? (·.key = key)) ∧
      ledger.size = (told.map TableWarning.key).toFinset.card ∧
      (∀ others : List (List TableWarning), others.flatten = told →
        (recordAll {} others).ledger = ledger ∧ (recordAll {} others).added.flatten = added.flatten) ∧
      (∀ batch ∈ batches, (ledger.record batch).added = [] ∧ (ledger.record batch).ledger = ledger) ∧
      ∀ table, ledger.warningsFor table =
        ledger.warnings.filter fun warning => Text.lower warning.table = Text.lower table := by
  intro told
  have recorded := recordAll_keeps keeps_nil batches
  rw [List.nil_append] at recorded
  generalize recordAll {} batches = history at recorded ⊢
  obtain ⟨ledger, added⟩ := history
  obtain ⟨keeps, adds⟩ := recorded
  refine ⟨adds.trans keeps.warnings_eq.symm, keeps.warnings_eq, keeps.find?_eq, keeps.size_eq, ?_, ?_,
    keeps.warningsFor_eq⟩
  · intro others same
    obtain ⟨keepsOthers, addsOthers⟩ := recordAll_keeps keeps_nil others
    rw [List.nil_append, same] at keepsOthers
    rw [same] at addsOthers
    exact ⟨keepsOthers.eq keeps, addsOthers.trans adds.symm⟩
  · intro batch mem
    obtain ⟨keepsAgain, addsAgain⟩ := record_keeps keeps batch
    have known : ∀ warning ∈ batch, warning.key ∈ told.map TableWarning.key := fun warning among =>
      List.mem_map_of_mem (List.mem_flatten_of_mem mem among)
    refine ⟨addsAgain.trans (firstsAfter_eq_nil known), keepsAgain.eq ?_⟩
    rw [Keeps, firstsAfter_append, List.nil_append, firstsAfter_eq_nil known, List.append_nil]
    exact keeps

end Ledger

end SqlAdvisor
