import Mathlib.Data.List.Induction
import SqlAdvisor.Dictionary

/-! # Looking up what was written

The entries of a dictionary are those that were written to it, and its keys are what can be found in it.
-/

namespace SqlAdvisor

namespace Dictionary

theorem ext {κ : Type u} {α : Type v} {d other : Dictionary κ α} (h : d.entries = other.entries) : d = other := by
  cases d
  cases other
  cases h
  rfl

variable {κ : Type u} {α : Type v} [DecidableEq κ]

theorem mem_keys {d : Dictionary κ α} {key : κ} : key ∈ d.keys ↔ ∃ value, d.find? key = some value := by
  rw [keys, find?]
  induction d.entries with
  | nil => simp [List.lookup_nil]
  | cons entry rest ih =>
      rw [List.map_cons, List.mem_cons, ih, List.lookup_cons]
      by_cases same : key = entry.1
      · simp [same]
      · simp [same, beq_eq_false_iff_ne.mpr same]

theorem contains_iff {d : Dictionary κ α} {key : κ} : d.contains key = true ↔ key ∈ d.keys := by
  rw [contains, Option.isSome_iff_exists, mem_keys]

theorem find?_mapValues {β : Type w} (f : α → β) (d : Dictionary κ α) (key : κ) :
    (d.mapValues f).find? key = (d.find? key).map f := by
  simp only [find?, mapValues]
  induction d.entries with
  | nil => rfl
  | cons entry rest ih =>
      rw [List.map_cons, List.lookup_cons, List.lookup_cons]
      cases key == entry.1 with
      | true => rfl
      | false => exact ih

theorem find?_update (d : Dictionary κ α) (key other : κ) (default : α) (f : α → α) :
    (d.update key default f).find? other =
      if other = key then some (f ((d.find? key).getD default)) else d.find? other :=
  d.find?_insert key other _

theorem keys_update (d : Dictionary κ α) (key : κ) (default : α) (f : α → α) :
    (d.update key default f).keys = if key ∈ d.keys then d.keys else d.keys ++ [key] :=
  d.keys_insert key _

theorem mem_entries_of_find? {d : Dictionary κ α} {key : κ} {value : α} (h : d.find? key = some value) :
    (key, value) ∈ d.entries := by
  obtain ⟨before, after, eq, _⟩ := List.lookup_eq_some_iff.mp h
  simp [eq]

theorem find?_of_mem_entries {d : Dictionary κ α} {key : κ} {value : α} (mem : (key, value) ∈ d.entries) :
    d.find? key = some value := by
  obtain ⟨entries, nodup⟩ := d
  rw [find?]
  induction entries with
  | nil => cases mem
  | cons entry rest ih =>
      rw [List.map_cons, List.nodup_cons] at nodup
      rw [List.lookup_cons]
      rcases List.mem_cons.mp mem with rfl | mem
      · simp
      · have other : key ≠ entry.1 := fun same => nodup.1 (same ▸ List.mem_map_of_mem mem)
        rw [beq_eq_false_iff_ne.mpr other]
        exact ih nodup.2 mem

theorem entries_foldl_erase (d : Dictionary κ α) (keys : List κ) :
    (keys.foldl erase d).entries = d.entries.filter fun entry => entry.1 ∉ keys := by
  induction keys generalizing d with
  | nil => exact (List.filter_eq_self.mpr fun _ _ => by simp).symm
  | cons key rest ih =>
      rw [List.foldl_cons, ih, erase, List.filter_filter]
      refine List.filter_congr fun entry _ => ?_
      simp [Bool.and_comm]

/-- Where each value stands under its own key, looking a key up is looking for the first value that has it. -/
theorem find?_keyed {d : Dictionary κ α} {keyOf : α → κ} {values : List α}
    (keyed : d.entries = values.map fun value => (keyOf value, value)) (key : κ) :
    d.find? key = values.find? (keyOf · = key) := by
  rw [find?, keyed]
  clear keyed
  induction values with
  | nil => rfl
  | cons value rest ih =>
      rw [List.map_cons, List.lookup_cons, List.find?_cons, ih]
      by_cases same : key = keyOf value
      · simp [same]
      · rw [beq_eq_false_iff_ne.mpr same, decide_eq_false (Ne.symm same)]

theorem write_of_notMem {key : κ} {value : α} {entries : List (κ × α)} (absent : key ∉ entries.map Prod.fst) :
    write key value entries = entries ++ [(key, value)] := by
  induction entries with
  | nil => rfl
  | cons first rest ih =>
      rw [List.map_cons, List.mem_cons, not_or] at absent
      rw [write, if_neg (Ne.symm absent.1), ih absent.2, List.cons_append]

theorem entries_insert_of_notMem {d : Dictionary κ α} {key : κ} {value : α} (absent : key ∉ d.keys) :
    (d.insert key value).entries = d.entries ++ [(key, value)] :=
  write_of_notMem absent

theorem entries_ofList {entries : List (κ × α)} (distinct : (entries.map Prod.fst).Nodup) :
    (ofList entries).entries = entries := by
  induction entries using List.reverseRecOn with
  | nil => rfl
  | append_singleton earlier entry ih =>
      rw [List.map_append, List.nodup_append] at distinct
      obtain ⟨distinct, -, apart⟩ := distinct
      have written : (ofList earlier).entries = earlier := ih distinct
      have absent : entry.1 ∉ (ofList earlier).keys := by
        rw [keys, written]
        exact fun mem => apart _ mem _ (.head _) rfl
      rw [ofList, List.foldl_append, ← ofList]
      exact (entries_insert_of_notMem absent).trans (congrArg (· ++ [entry]) written)

theorem find?_ofList {entries : List (κ × α)} (distinct : (entries.map Prod.fst).Nodup) {key : κ} {value : α}
    (mem : (key, value) ∈ entries) : (ofList entries).find? key = some value :=
  find?_of_mem_entries (by rwa [entries_ofList distinct])

theorem ofList_concat (entries : List (κ × α)) (entry : κ × α) :
    ofList (entries ++ [entry]) = (ofList entries).insert entry.1 entry.2 := by
  rw [ofList, List.foldl_append]
  rfl

theorem mem_keys_ofList {entries : List (κ × α)} {key : κ} :
    key ∈ (ofList entries).keys ↔ key ∈ entries.map Prod.fst := by
  induction entries using List.reverseRecOn with
  | nil => exact .rfl
  | append_singleton earlier entry ih =>
      rw [ofList_concat, keys_insert, List.map_append, List.mem_append, ← ih]
      split
      · rename_i old
        refine ⟨.inl, fun h => h.elim id fun last => ?_⟩
        exact List.mem_singleton.mp last ▸ old
      · exact List.mem_append

private theorem mem_write {key : κ} {value : α} {entries : List (κ × α)} {entry : κ × α}
    (h : entry ∈ write key value entries) : entry = (key, value) ∨ entry ∈ entries := by
  induction entries with
  | nil => exact .inl (List.mem_singleton.mp h)
  | cons first rest ih =>
      rw [write] at h
      split at h
      · exact (List.mem_cons.mp h).imp_right (List.mem_cons_of_mem _)
      · rcases List.mem_cons.mp h with rfl | h
        · exact .inr List.mem_cons_self
        · exact (ih h).imp_right (List.mem_cons_of_mem _)

theorem mem_insert {d : Dictionary κ α} {key : κ} {value : α} {entry : κ × α}
    (h : entry ∈ (d.insert key value).entries) : entry = (key, value) ∨ entry ∈ d.entries :=
  mem_write h

theorem mem_of_mem_ofList {entries : List (κ × α)} {entry : κ × α} (h : entry ∈ (ofList entries).entries) :
    entry ∈ entries := by
  have among : ∀ written ∈ (ofList entries).entries, written ∈ entries := by
    refine List.foldlRecOn (motive := fun d : Dictionary κ α => ∀ written ∈ d.entries, written ∈ entries) entries _
      (fun _ none => absurd none List.not_mem_nil) ?_
    intro d among entry mem written h
    rcases mem_insert h with rfl | old
    · exact mem
    · exact among written old
  exact among entry h

end Dictionary

end SqlAdvisor
