import SqlAdvisor.Proofs.Dictionary
import SqlAdvisor.Usage.Extraction

/-! # Qualifiers mean tables of the statement

The alias map of some table references leads to none but their names. So does the resolution of a qualifier, as
long as the known tables are among those names.
-/

namespace SqlAdvisor

namespace AliasMap

theorem mem_names_of_mem_entries {refs : List TableRef} {entry : String × String}
    (h : entry ∈ (ofRefs refs).entries) : entry.2 ∈ refs.map (·.name) := by
  obtain ⟨ref, mem, rfl⟩ := List.mem_map.mp (Dictionary.mem_of_mem_ofList h)
  exact List.mem_map.mpr ⟨ref, mem, rfl⟩

theorem mem_names_of_mem_values {refs : List TableRef} {name : String} (h : name ∈ (ofRefs refs).values) :
    name ∈ refs.map (·.name) := by
  obtain ⟨entry, mem, rfl⟩ := List.mem_map.mp h
  exact mem_names_of_mem_entries mem

end AliasMap

theorem resolve_known {aliases : AliasMap} {known : List String} {qualifier name : String}
    (h : resolve qualifier aliases known = .known name) : name ∈ aliases.values ∨ name ∈ known := by
  rw [resolve] at h
  split at h
  · split at h
    · rename_i only values
      cases h
      exact .inl (by simp [values])
    · cases h
  · dsimp only at h
    split at h
    · rename_i found
      cases h
      exact .inl (List.mem_map_of_mem (Dictionary.mem_entries_of_find? found))
    · split at h
      · rename_i found
        cases h
        exact .inr (List.mem_of_find?_eq_some found)
      · cases h

theorem resolve_known_mem {refs : List TableRef} {known : List String} {qualifier name : String}
    (among : ∀ table ∈ known, table ∈ refs.map (·.name))
    (h : resolve qualifier (.ofRefs refs) known = .known name) : name ∈ refs.map (·.name) :=
  (resolve_known h).elim AliasMap.mem_names_of_mem_values (among name)

theorem resolve_aliased {aliases : AliasMap} {known : List String} {qualifier name : String} (given : qualifier ≠ "")
    (aliased : aliases.find? (Text.lower qualifier) = some name) :
    resolve qualifier aliases known = .known name := by
  rw [resolve, if_neg (by simpa using given)]
  simp only [aliased]

/-- A missing qualifier means a table if the alias map knows no other. -/
theorem resolve_unqualified {aliases : AliasMap} {known : List String} {table : String} :
    resolve "" aliases known = .known table ↔ aliases.values = [table] := by
  rw [resolve, if_pos (by decide)]
  split
  · rename_i only values
    simp [values]
  · rename_i several
    exact ⟨nofun, fun values => absurd values (several table)⟩

end SqlAdvisor
