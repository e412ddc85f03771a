import SqlAdvisor.Proofs.Traversal.Observing
import SqlAdvisor.Proofs.Usage.Resolution

/-! # What one place adds to the records

A column is counted for one table, under its name and in the sets of the clauses around it. A qualified star of a
result list is counted for one table too, as a marker. A bare star marks every record there is.
-/

namespace SqlAdvisor

/-- The sets of columns that a record keeps. -/
inductive UsageSet where
  | all
  | filtering
  | wrapped
  | grouping
  | sorting

namespace UsageSet

def columns : UsageSet → TableUsage → ColumnSet
  | all => TableUsage.all
  | filtering => TableUsage.filtering
  | wrapped => TableUsage.wrapped
  | grouping => TableUsage.grouping
  | sorting => TableUsage.sorting

/-- The clauses around the place are those that the set stands for. -/
def Covers : UsageSet → Place → Prop
  | all, _ => True
  | filtering, place => place.IsBelow (· = .whereClause)
  | wrapped, place => place.IsBelow (· = .whereClause) ∧ place.IsBelow (·.isCall)
  | grouping, place => place.IsBelow (· = .group)
  | sorting, place => place.IsBelow (·.isOrdering)

theorem not_mem_columns_empty {set : UsageSet} {name : String} : name ∉ set.columns {} := by
  cases set <;> exact ColumnSet.not_mem_empty

end UsageSet

theorem ColumnSet.isEmpty_iff {columns : ColumnSet} :
    columns.isEmpty = true ↔ columns.isNamed = true ∧ ∀ name, name ∉ columns := by
  rw [isEmpty, NameSet.isEmpty, Bool.and_eq_true, List.isEmpty_iff, List.eq_nil_iff_forall_not_mem, and_comm]
  rfl

theorem ColumnSet.mem_ite_insert {condition : Bool} {s : ColumnSet} {label : Label} {name : String} :
    name ∈ (if condition then s.insert label else s) ↔ label = .text name ∧ condition = true ∨ name ∈ s := by
  cases condition <;> simp

theorem ColumnSet.isNamed_insert {s : ColumnSet} {label : Label} :
    (s.insert label).isNamed = false ↔ label.text? = none ∨ s.isNamed = false := by
  cases label with
  | text name => simp [insert, isNamed, Label.text?]
  | _ =>
      simp only [insert, isNamed, Label.text?, true_or, iff_true]
      split
      · rename_i old
        obtain ⟨other, mem, -⟩ := List.any_eq_true.mp old
        exact List.isEmpty_eq_false_iff.mpr (List.ne_nil_of_mem mem)
      · simp

theorem ColumnSet.isNamed_ite_insert {condition : Bool} {s : ColumnSet} {label : Label} :
    (if condition then s.insert label else s).isNamed = false ↔
      label.text? = none ∧ condition = true ∨ s.isNamed = false := by
  cases condition <;> simp [isNamed_insert]

namespace TableUsage

variable {usage : TableUsage} {set : UsageSet} {name : String}

theorem columns_addColumn (usage : TableUsage) (set : UsageSet) (label : Label) (place : Place) :
    ∃ covered : Bool, (covered = true ↔ set.Covers place) ∧
      set.columns (usage.addColumn label (place.context .root)) =
        if covered then (set.columns usage).insert label else set.columns usage := by
  cases set with
  | all => exact ⟨true, by simp [UsageSet.Covers], rfl⟩
  | filtering => exact ⟨_, Place.inWhere_context, rfl⟩
  | wrapped => exact ⟨_, by rw [Bool.and_eq_true, Place.inWhere_context, Place.inFunction_context]; rfl, rfl⟩
  | grouping => exact ⟨_, Place.inGroupBy_context, rfl⟩
  | sorting => exact ⟨_, Place.inOrderBy_context, rfl⟩

theorem mem_addColumn {label : Label} {place : Place} :
    name ∈ set.columns (usage.addColumn label (place.context .root)) ↔
      label = .text name ∧ set.Covers place ∨ name ∈ set.columns usage := by
  obtain ⟨covered, covers, columns⟩ := usage.columns_addColumn set label place
  rw [columns, ColumnSet.mem_ite_insert, covers]

theorem mem_addMarker {marker : String} :
    name ∈ set.columns (usage.addMarker marker) ↔ set = .all ∧ name = marker ∨ name ∈ set.columns usage := by
  cases set <;> simp [UsageSet.columns, addMarker, eq_comm]

theorem isNamed_addColumn {label : Label} {place : Place} :
    (set.columns (usage.addColumn label (place.context .root))).isNamed = false ↔
      label.text? = none ∧ set.Covers place ∨ (set.columns usage).isNamed = false := by
  obtain ⟨covered, covers, columns⟩ := usage.columns_addColumn set label place
  rw [columns, ColumnSet.isNamed_ite_insert, covers]

theorem isNamed_addMarker {marker : String} :
    (set.columns (usage.addMarker marker)).isNamed = (set.columns usage).isNamed := by
  cases set <;> rfl

end TableUsage

namespace TableUsages

/-- The table has a record with the property. -/
def HasRecord (usages : TableUsages) (key : TableKey) (property : TableUsage → Prop) : Prop :=
  ∃ usage, usages.find? key = some usage ∧ property usage

/-- A record's set has the column. -/
def Holds (usages : TableUsages) (set : UsageSet) (key : TableKey) (name : String) : Prop :=
  ∃ usage, usages.find? key = some usage ∧ name ∈ set.columns usage

/-- A record's set has a column without a name. -/
def HoldsNameless (usages : TableUsages) (set : UsageSet) (key : TableKey) : Prop :=
  usages.HasRecord key fun usage => (set.columns usage).isNamed = false

section Write

variable {usages : TableUsages} {set : UsageSet} {key : TableKey} {name : String} {property : TableUsage → Prop}
  {f : TableUsage → TableUsage} {added : Prop}

theorem hasRecord_update {target : TableKey} (blank : ¬property {})
    (adds : ∀ usage, property (f usage) ↔ added ∨ property usage) :
    HasRecord (usages.update target {} f) key property ↔ key = target ∧ added ∨ usages.HasRecord key property := by
  simp only [HasRecord, Dictionary.find?_update]
  by_cases same : key = target
  · subst same
    cases usages.find? key with
    | none => simp [adds, blank]
    | some usage => simp [adds]
  · simp [same]

theorem hasRecord_mapValues (adds : ∀ usage, property (f usage) ↔ added ∨ property usage) :
    HasRecord (usages.mapValues f) key property ↔ key ∈ usages.keys ∧ added ∨ usages.HasRecord key property := by
  simp only [HasRecord, Dictionary.find?_mapValues, Dictionary.mem_keys]
  cases usages.find? key with
  | none => simp
  | some usage => simp [adds]

theorem holds_update {target : TableKey}
    (adds : ∀ usage, name ∈ set.columns (f usage) ↔ added ∨ name ∈ set.columns usage) :
    Holds (usages.update target {} f) set key name ↔ key = target ∧ added ∨ usages.Holds set key name :=
  hasRecord_update UsageSet.not_mem_columns_empty adds

theorem holds_mapValues (adds : ∀ usage, name ∈ set.columns (f usage) ↔ added ∨ name ∈ set.columns usage) :
    Holds (usages.mapValues f) set key name ↔ key ∈ usages.keys ∧ added ∨ usages.Holds set key name :=
  hasRecord_mapValues adds

end Write

theorem observe_own_kind (aliases : AliasMap) (o : Occurrence) (context : Context) (usages : TableUsages) :
    observe aliases o o.node.cls.kind (context.entering o.node.cls.kind) usages =
      if o.node.isPlainColumn then usages.recordColumn aliases o.node context else usages := by
  by_cases column : o.node.cls = .column
  · rw [NodeClass.kind_eq_columnRef.mpr column]
    cases star : o.node.isStar <;> simp [observe, Context.entering, Node.isPlainColumn, column, star]
  · rw [if_neg (by simp [Node.isPlainColumn, column])]
    cases seen : o.node.cls.kind with
    | columnRef => exact absurd (NodeClass.kind_eq_columnRef.mp seen) column
    | resultColumn => exact absurd seen NodeClass.kind_ne_resultColumn
    | _ => rfl

end TableUsages

namespace Place

/-- The node is a column that is counted under its name. -/
def IsColumn (place : Place) : Prop := place.node.isPlainColumn = true

/-- The node is a star of a result list. -/
def IsStar (place : Place) : Prop := place.occurrence.isResultColumn = true ∧ place.node.isStar = true

/-- The qualifier of a column, or of the star in its place. -/
def qualifier (place : Place) : String := if place.node.cls = .column then place.node.qualifier else ""

/-- The node is counted for the table of its qualifier. -/
def IsCounted (place : Place) : Prop := place.IsColumn ∨ place.IsStar ∧ place.qualifier ≠ ""

theorem IsColumn.cls_eq {place : Place} (h : place.IsColumn) : place.node.cls = .column := by
  rw [IsColumn, Node.isPlainColumn, Bool.and_eq_true, decide_eq_true_eq] at h
  exact h.1

theorem IsColumn.not_star {place : Place} (h : place.IsColumn) : ¬place.IsStar := by
  rintro ⟨_, star⟩
  simp [IsColumn, Node.isPlainColumn, star] at h

theorem IsColumn.qualifier_eq {place : Place} (h : place.IsColumn) : place.qualifier = place.node.qualifier := by
  simp only [IsColumn, Node.isPlainColumn, Bool.and_eq_true, decide_eq_true_eq] at h
  rw [qualifier, if_pos h.1]

theorem text?_columnLabel (n : Node) : n.columnLabel.text? = n.columnName? := by
  rw [Node.columnLabel, Node.columnName?]
  cases n.named "this" <;> rfl

theorem columnLabel_eq_text {n : Node} {name : String} :
    n.columnLabel = .text name ↔ n.columnName? = some name := by
  rw [← text?_columnLabel]
  cases n.columnLabel <;> simp [Label.text?]

/-! ## Observing a place -/

variable (place : Place) (aliases : AliasMap) (usages : TableUsages)

/-- The records after a node at the place is observed. -/
def observe : TableUsages :=
  place.occurrence.observe (TableUsages.observe aliases) (place.context .root) usages

private theorem observe_eq_ite :
    place.observe aliases usages =
      let starred :=
        if place.occurrence.isResultColumn && place.node.isStar then usages.recordStar aliases place.node
        else usages
      if place.node.isPlainColumn then starred.recordColumn aliases place.node (place.context .root)
      else starred := by
  rw [observe, Occurrence.observe_eq, TableUsages.observe_own_kind]
  cases place.occurrence.isResultColumn <;> rfl

variable {place aliases usages}

theorem observe_column (h : place.IsColumn) :
    place.observe aliases usages =
      usages.update (usages.keyOf aliases place.qualifier) {} fun usage =>
        usage.addColumn place.node.columnLabel (place.context .root) := by
  have star : ¬(place.occurrence.isResultColumn && place.node.isStar) = true :=
    fun both => h.not_star (Bool.and_eq_true_iff.mp both)
  have column : place.node.isPlainColumn = true := h
  rw [observe_eq_ite, if_neg star]
  dsimp only
  rw [if_pos column, TableUsages.recordColumn, h.qualifier_eq]

theorem observe_star (h : place.IsStar) :
    place.observe aliases usages =
      if place.qualifier = "" then usages.mapValues (·.addMarker "*")
      else usages.update (usages.keyOf aliases place.qualifier) {}
        (·.addMarker ("*(" ++ place.qualifier ++ ".*)")) := by
  have column : ¬place.node.isPlainColumn = true := fun column => IsColumn.not_star column h
  have star : (place.occurrence.isResultColumn && place.node.isStar) = true := Bool.and_eq_true_iff.mpr h
  rw [observe_eq_ite, if_pos star]
  dsimp only
  rw [if_neg column, TableUsages.recordStar]
  simp only [String.isEmpty_iff]
  rfl

theorem observe_neither (column : ¬place.IsColumn) (star : ¬place.IsStar) :
    place.observe aliases usages = usages := by
  have plain : ¬place.node.isPlainColumn = true := column
  have starred : ¬(place.occurrence.isResultColumn && place.node.isStar) = true :=
    fun both => star (Bool.and_eq_true_iff.mp both)
  rw [observe_eq_ite, if_neg starred]
  dsimp only
  rw [if_neg plain]

theorem holdsNameless_observe {set : UsageSet} {key : TableKey} :
    (place.observe aliases usages).HoldsNameless set key ↔
      (place.IsColumn ∧ usages.keyOf aliases place.qualifier = key ∧ place.node.columnName? = none ∧ set.Covers place) ∨
        usages.HoldsNameless set key := by
  have blank : ¬(set.columns {}).isNamed = false := by cases set <;> decide
  have marked (marker : String) (usage : TableUsage) :
      (set.columns (usage.addMarker marker)).isNamed = false ↔ False ∨ (set.columns usage).isNamed = false := by
    rw [TableUsage.isNamed_addMarker, false_or]
  by_cases column : place.IsColumn
  · rw [observe_column column, TableUsages.HoldsNameless,
      TableUsages.hasRecord_update blank fun usage => TableUsage.isNamed_addColumn, text?_columnLabel,
      eq_comm (a := key)]
    simp only [column, true_and]
    rfl
  · by_cases star : place.IsStar
    · rw [observe_star star]
      split
      · rw [TableUsages.HoldsNameless, TableUsages.hasRecord_mapValues (marked _)]
        simp [column, TableUsages.HoldsNameless]
      · rw [TableUsages.HoldsNameless, TableUsages.hasRecord_update blank (marked _)]
        simp [column, TableUsages.HoldsNameless]
    · rw [observe_neither column star]
      simp [column]

end Place

end SqlAdvisor
