import Mathlib.Data.List.Induction
import SqlAdvisor.Proofs.Usage.Record
import SqlAdvisor.Statement.OfNode

/-! # The records tell exactly what a tree uses

While a tree is walked, each column is counted for the table that its qualifier means among the records so far.
No known table is added on the way, so the meaning never changes, and the records of any prefix of the places
can be told from those places alone.
-/

namespace SqlAdvisor

/-- The names of a statement's tables, each once, in the order in which they first occur. -/
def Statement.tableNames (statement : Statement) : List String :=
  (statement.tables.map (·.name)).eraseDups

section Spec

variable (aliases : AliasMap) (names : List String)

namespace Place

/-- The node is a column of the name, and its qualifier means the table. -/
def IsColumnOf (place : Place) (key : TableKey) (name : String) : Prop :=
  place.IsColumn ∧ resolve place.qualifier aliases names = key ∧ place.node.columnName? = some name

/-- The node is a qualified star of a result list that is told by the marker, and its qualifier means the table. -/
def IsStarOf (place : Place) (key : TableKey) (marker : String) : Prop :=
  place.IsStar ∧ place.qualifier ≠ "" ∧ resolve place.qualifier aliases names = key ∧
    marker = "*(" ++ place.qualifier ++ ".*)"

end Place

/-- After the places, there is a record for the table: it is one of the statement's, or was met there. -/
def Recorded (places : List Place) (key : TableKey) : Prop :=
  key ∈ names.map .known ∨ ∃ place ∈ places, place.IsCounted ∧ resolve place.qualifier aliases names = key

/-- A bare star of a result list comes after the table has its record. -/
def Marked (places : List Place) (key : TableKey) : Prop :=
  ∃ before place after, places = before ++ place :: after ∧ place.IsStar ∧ place.qualifier = "" ∧
    Recorded aliases names before key

/-- The places call for the name in one of the sets of the table's record. -/
def Used (places : List Place) (set : UsageSet) (key : TableKey) (name : String) : Prop :=
  (∃ place ∈ places, place.IsColumnOf aliases names key name ∧ set.Covers place) ∨
  set = .all ∧ ((∃ place ∈ places, place.IsStarOf aliases names key name) ∨
    name = "*" ∧ Marked aliases names places key)

/-- The records are those that the places call for. -/
structure ExactUsage (places : List Place) (usages : TableUsages) : Prop where
  /-- The statement's tables come first, and none is added. -/
  keys : ∃ others, usages.keys = names.map .known ++ others ∧ ∀ key ∈ others, key.knownName? = none
  recorded : ∀ key, key ∈ usages.keys ↔ Recorded aliases names places key
  holds : ∀ set key name, usages.Holds set key name ↔ Used aliases names places set key name

end Spec

section Append

variable {aliases : AliasMap} {names : List String} {seen : List Place} {place : Place} {key : TableKey}

theorem recorded_append : Recorded aliases names (seen ++ [place]) key ↔
    Recorded aliases names seen key ∨ place.IsCounted ∧ resolve place.qualifier aliases names = key := by
  simp only [Recorded, List.mem_append, List.mem_singleton, or_and_right, exists_or, exists_eq_left, or_assoc]

theorem marked_append : Marked aliases names (seen ++ [place]) key ↔
    Marked aliases names seen key ∨
      place.IsStar ∧ place.qualifier = "" ∧ Recorded aliases names seen key := by
  constructor
  · rintro ⟨before, star, after, eq, marks⟩
    -- The star is the last place, or it was among the earlier ones.
    rcases List.eq_nil_or_concat after with rfl | ⟨after, last, rfl⟩
    · obtain ⟨rfl, same⟩ := List.append_inj' eq rfl
      cases same
      exact .inr marks
    · rw [List.concat_eq_append, ← List.cons_append, ← List.append_assoc] at eq
      obtain ⟨rfl, -⟩ := List.append_inj' eq rfl
      exact .inl ⟨before, star, after, rfl, marks⟩
  · rintro (⟨before, star, after, rfl, marks⟩ | marks)
    · exact ⟨before, star, after ++ [place], by simp, marks⟩
    · exact ⟨seen, place, [], rfl, marks⟩

theorem used_append {set : UsageSet} {name : String} : Used aliases names (seen ++ [place]) set key name ↔
    (place.IsColumnOf aliases names key name ∧ set.Covers place ∨
      set = .all ∧ (place.IsStarOf aliases names key name ∨
        name = "*" ∧ place.IsStar ∧ place.qualifier = "" ∧ Recorded aliases names seen key)) ∨
    Used aliases names seen set key name := by
  simp only [Used, marked_append, List.mem_append, List.mem_singleton, or_and_right, exists_or,
    exists_eq_left, and_or_left]
  apply iff_of_eq
  ac_rfl

/-- Only a bare star marks the tables that have a record, and no such star is counted for a table. -/
theorem used_append_counted {set : UsageSet} {name : String} (counted : place.IsCounted) :
    Used aliases names (seen ++ [place]) set key name ↔
      (place.IsColumnOf aliases names key name ∧ set.Covers place ∨
        set = .all ∧ place.IsStarOf aliases names key name) ∨
      Used aliases names seen set key name := by
  have notBare : ¬(place.IsStar ∧ place.qualifier = "" ∧ Recorded aliases names seen key) := by
    rintro ⟨star, bare, -⟩
    exact counted.elim (fun column => column.not_star star) fun qualified => qualified.2 bare
  rw [used_append]
  simp only [notBare, and_false, or_false]

end Append

/-- The known tables among some records are those whose keys come before all others. -/
theorem TableUsages.knownTables_eq {usages : TableUsages} {names : List String} {others : List TableKey}
    (keys : usages.keys = names.map .known ++ others) (unknown : ∀ key ∈ others, key.knownName? = none) :
    usages.knownTables = names := by
  rw [knownTables, keys, List.filterMap_append, List.filterMap_map, List.filterMap_eq_nil_iff.mpr unknown,
    List.append_nil]
  exact List.filterMap_some

/-! ## One more place -/

namespace ExactUsage

variable {aliases : AliasMap} {names : List String} {seen : List Place} {usages : TableUsages}

theorem keyOf_eq (exact : ExactUsage aliases names seen usages) (qualifier : String) :
    usages.keyOf aliases qualifier = resolve qualifier aliases names := by
  obtain ⟨others, keys, unknown⟩ := exact.keys
  rw [TableUsages.keyOf, TableUsages.knownTables_eq keys unknown]

/-- Every known table has a record, so that a qualifier means none of them if there is no record for it. -/
theorem knownName?_of_absent (exact : ExactUsage aliases names seen usages)
    (closed : ∀ qualifier name, resolve qualifier aliases names = .known name → name ∈ names) {qualifier : String}
    (absent : resolve qualifier aliases names ∉ usages.keys) :
    (resolve qualifier aliases names).knownName? = none := by
  obtain ⟨others, keys, -⟩ := exact.keys
  cases meant : resolve qualifier aliases names with
  | known name =>
      refine absurd ?_ absent
      rw [keys, meant]
      exact List.mem_append_left _ (List.mem_map_of_mem (closed _ _ meant))
  | unresolved => rfl
  | ambiguous => rfl

private theorem update (exact : ExactUsage aliases names seen usages)
    (closed : ∀ qualifier name, resolve qualifier aliases names = .known name → name ∈ names)
    {place : Place} (counted : place.IsCounted) {f : TableUsage → TableUsage}
    (adds : ∀ (set : UsageSet) name usage, name ∈ set.columns (f usage) ↔
      ((place.IsColumn ∧ place.node.columnName? = some name) ∧ set.Covers place ∨
        set = .all ∧ place.IsStar ∧ place.qualifier ≠ "" ∧ name = "*(" ++ place.qualifier ++ ".*)") ∨
      name ∈ set.columns usage) :
    ExactUsage aliases names (seen ++ [place]) (usages.update (usages.keyOf aliases place.qualifier) {} f) := by
  rw [exact.keyOf_eq]
  constructor
  case keys =>
    obtain ⟨others, keys, unknown⟩ := exact.keys
    rw [Dictionary.keys_update]
    split
    · exact ⟨others, keys, unknown⟩
    · rename_i absent
      refine ⟨others ++ [resolve place.qualifier aliases names], by rw [keys, List.append_assoc], ?_⟩
      intro key mem
      rcases List.mem_append.mp mem with mem | mem
      · exact unknown key mem
      · obtain rfl := List.mem_singleton.mp mem
        exact exact.knownName?_of_absent closed absent
  case recorded =>
    intro key
    rw [recorded_append, ← exact.recorded, Dictionary.keys_update]
    simp only [counted, true_and]
    split
    · rename_i present
      exact ⟨.inl, fun h => h.elim id fun eq => eq ▸ present⟩
    · rw [List.mem_append, List.mem_singleton, eq_comm (a := key)]
  case holds =>
    intro set key name
    rw [TableUsages.holds_update fun usage => adds set name usage, exact.holds, used_append_counted counted]
    refine or_congr_left ?_
    simp only [Place.IsColumnOf, Place.IsStarOf]
    constructor
    · rintro ⟨rfl, ⟨⟨column, called⟩, covers⟩ | ⟨all, star, qualified, marker⟩⟩
      · exact .inl ⟨⟨column, rfl, called⟩, covers⟩
      · exact .inr ⟨all, star, qualified, rfl, marker⟩
    · rintro (⟨⟨column, rfl, called⟩, covers⟩ | ⟨all, star, qualified, rfl, marker⟩)
      · exact ⟨rfl, .inl ⟨⟨column, called⟩, covers⟩⟩
      · exact ⟨rfl, .inr ⟨all, star, qualified, marker⟩⟩

private theorem mark (exact : ExactUsage aliases names seen usages) {place : Place} (star : place.IsStar)
    (bare : place.qualifier = "") :
    ExactUsage aliases names (seen ++ [place]) (usages.mapValues (·.addMarker "*")) := by
  have column : ¬place.IsColumn := fun column => column.not_star star
  constructor
  case keys =>
    rw [Dictionary.keys_mapValues]
    exact exact.keys
  case recorded =>
    intro key
    rw [Dictionary.keys_mapValues, exact.recorded, recorded_append]
    simp [Place.IsCounted, column, bare]
  case holds =>
    intro set key name
    rw [TableUsages.holds_mapValues fun usage => TableUsage.mem_addMarker, exact.holds, exact.recorded,
      used_append]
    refine or_congr_left ?_
    simp only [Place.IsColumnOf, Place.IsStarOf, column, star, bare, ne_eq, not_true, false_and, and_false,
      false_or, true_and]
    exact ⟨fun ⟨recorded, all, marker⟩ => ⟨all, marker, recorded⟩,
      fun ⟨all, marker, recorded⟩ => ⟨recorded, all, marker⟩⟩

private theorem skip (exact : ExactUsage aliases names seen usages) {place : Place}
    (column : ¬place.IsColumn) (star : ¬place.IsStar) :
    ExactUsage aliases names (seen ++ [place]) usages where
  keys := exact.keys
  recorded key := by
    rw [exact.recorded, recorded_append]
    simp [Place.IsCounted, column, star]
  holds set key name := by
    rw [exact.holds, used_append]
    simp [Place.IsColumnOf, Place.IsStarOf, column, star]

theorem observe (exact : ExactUsage aliases names seen usages)
    (closed : ∀ qualifier name, resolve qualifier aliases names = .known name → name ∈ names) (place : Place) :
    ExactUsage aliases names (seen ++ [place]) (place.observe aliases usages) := by
  by_cases column : place.IsColumn
  · rw [Place.observe_column column]
    refine exact.update closed (.inl column) fun set name usage => ?_
    rw [TableUsage.mem_addColumn, Place.columnLabel_eq_text]
    simp [column, column.not_star]
  · by_cases star : place.IsStar
    · rw [Place.observe_star star]
      by_cases bare : place.qualifier = ""
      · rw [if_pos bare]
        exact exact.mark star bare
      · rw [if_neg bare]
        refine exact.update closed (.inr ⟨star, bare⟩) fun set name usage => ?_
        rw [TableUsage.mem_addMarker]
        simp [column, star, bare]
    · rw [Place.observe_neither column star]
      exact exact.skip column star

theorem foldl_observe (exact : ExactUsage aliases names [] usages)
    (closed : ∀ qualifier name, resolve qualifier aliases names = .known name → name ∈ names)
    (places : List Place) :
    ExactUsage aliases names places (places.foldl (fun usages place => place.observe aliases usages) usages) := by
  induction places using List.reverseRecOn with
  | nil => exact exact
  | append_singleton places place ih =>
      rw [List.foldl_append]
      exact ih.observe closed place

theorem holdsNameless_foldl (exact : ExactUsage aliases names [] usages)
    (closed : ∀ qualifier name, resolve qualifier aliases names = .known name → name ∈ names)
    {set : UsageSet} {key : TableKey} (named : ¬usages.HoldsNameless set key) (places : List Place) :
    (places.foldl (fun usages place => place.observe aliases usages) usages).HoldsNameless set key ↔
      ∃ place ∈ places, place.IsColumn ∧ resolve place.qualifier aliases names = key ∧
        place.node.columnName? = none ∧ set.Covers place := by
  induction places using List.reverseRecOn with
  | nil => simpa using named
  | append_singleton places place ih =>
      rw [List.foldl_append, List.foldl_cons, List.foldl_nil, Place.holdsNameless_observe, ih,
        (exact.foldl_observe closed places).keyOf_eq]
      simp only [List.mem_append, List.mem_singleton, or_and_right, exists_or, exists_eq_left]
      exact or_comm

end ExactUsage

end SqlAdvisor
