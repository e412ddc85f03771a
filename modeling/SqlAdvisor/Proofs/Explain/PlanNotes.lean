import SqlAdvisor.Proofs.Explain.PlanListing

/-! # Where the notes of a plan fall

From the node that calls for it a note is due until the next table is read, in pre-order. That is the first table read
beneath the node if one is read there at all. Otherwise the note leaves the node's tree and falls to a table beside it.
-/

namespace SqlAdvisor

namespace PlanNote

open Plan

/-- One of the trees calls for the note, and from it on none reads a table. -/
def IsDue (note : PlanNote) (earlier : List Datum) : Prop :=
  ∃ before caller passed, earlier = before ++ caller :: passed ∧ note.isCalledFor caller = true ∧
    ∀ tree ∈ caller :: passed, readsTable tree = false

/-- The tree that follows the earlier ones calls for the note itself, or it meets the note while that is due. -/
def FallsTo (note : PlanNote) (earlier : List Datum) (reader : Datum) : Prop :=
  note.isCalledFor reader = true ∨ note.IsDue earlier

/-- The tree between the earlier and the later ones is the first that reads a table among the trees of a node that
    calls for the note. -/
def IsFirstBeneath (note : PlanNote) (earlier : List Datum) (reader : Datum) (later : List Datum) : Prop :=
  ∃ caller before passed rest after, note.isCalledFor caller = true ∧ trees caller = passed ++ reader :: rest ∧
    earlier = before ++ passed ∧ later = rest ++ after ∧ ∀ tree ∈ passed, readsTable tree = false

variable {note : PlanNote} {earlier later : List Datum} {reader tree : Datum}

theorem isDue_nil : ¬note.IsDue [] := by
  rintro ⟨before, caller, passed, split, -⟩
  simp at split

/-- After one more tree a note is due if that reads no table, and calls for the note or met it while it was due. -/
theorem isDue_concat : note.IsDue (earlier ++ [tree]) ↔ readsTable tree = false ∧ note.FallsTo earlier tree := by
  constructor
  · rintro ⟨before, caller, passed, split, called, idle⟩
    rcases List.eq_nil_or_concat passed with rfl | ⟨passed, last, rfl⟩
    · obtain ⟨-, same⟩ := List.append_inj' split rfl
      obtain rfl := List.singleton_inj.mp same
      exact ⟨idle tree List.mem_cons_self, .inl called⟩
    · rw [List.concat_eq_append, ← List.cons_append, ← List.append_assoc] at split
      rw [List.concat_eq_append, ← List.cons_append] at idle
      obtain ⟨rfl, same⟩ := List.append_inj' split rfl
      obtain rfl := List.singleton_inj.mp same
      obtain ⟨others, ofTree⟩ := List.forall_mem_append.mp idle
      exact ⟨ofTree tree List.mem_cons_self, .inr ⟨before, caller, passed, rfl, called, others⟩⟩
  · rintro ⟨idle, called | ⟨before, caller, passed, rfl, called, others⟩⟩
    · exact ⟨earlier, tree, [], rfl, called, List.forall_mem_singleton.mpr idle⟩
    · refine ⟨before, caller, passed ++ [tree], by simp, called, ?_⟩
      rw [← List.cons_append]
      exact List.forall_mem_append.mpr ⟨others, List.forall_mem_singleton.mpr idle⟩

theorem IsFirstBeneath.fallsTo (first : note.IsFirstBeneath earlier reader later) : note.FallsTo earlier reader := by
  obtain ⟨caller, before, passed, rest, after, called, isTree, rfl, -, idle⟩ := first
  rw [trees_eq] at isTree
  cases passed with
  | nil =>
      obtain ⟨rfl, -⟩ := List.cons.inj isTree
      exact .inl called
  | cons top passed =>
      obtain ⟨rfl, -⟩ := List.cons.inj isTree
      exact .inr ⟨before, _, passed, rfl, called, idle⟩

theorem IsFirstBeneath.exists_caller (first : note.IsFirstBeneath earlier reader later) :
    ∃ caller ∈ earlier ++ [reader], note.isCalledFor caller = true ∧ reader ∈ trees caller := by
  obtain ⟨caller, before, passed, rest, after, called, isTree, rfl, -, -⟩ := first
  refine ⟨caller, ?_, called, by simp [isTree]⟩
  rw [trees_eq] at isTree
  cases passed with
  | nil => simp [(List.cons.inj isTree).1]
  | cons top passed => simp [(List.cons.inj isTree).1]

theorem FallsTo.isFirstBeneath {root : Datum} (falls : note.FallsTo earlier reader)
    (split : trees root = earlier ++ reader :: later)
    (reads : ∀ caller ∈ trees root, note.isCalledFor caller = true → ∃ tree ∈ trees caller, readsTable tree = true) :
    note.IsFirstBeneath earlier reader later := by
  rcases falls with called | ⟨before, caller, passed, rfl, called, idle⟩
  · obtain ⟨after, rfl⟩ := trees_at split
    exact ⟨reader, earlier, [], _, after, called, trees_eq reader, by simp, rfl, List.forall_mem_nil _⟩
  · rw [List.append_assoc, List.cons_append] at split
    obtain ⟨after, isRest⟩ := trees_at split
    obtain ⟨tree, mem, isReader⟩ := reads caller (by simp [split]) called
    rcases List.append_eq_append_iff.mp isRest with ⟨begun, beneath, isLater⟩ | ⟨skipped, isPassed, -⟩
    case inr =>
      -- The note cannot be due past the trees of its caller, since one of them reads a table.
      rw [trees_eq] at mem
      have passes : tree ∈ caller :: passed := by
        rw [isPassed]
        exact List.mem_cons.mpr ((List.mem_cons.mp mem).imp_right (List.mem_append_left _))
      exact absurd isReader (by simp [idle tree passes])
    case inl =>
      cases begun with
      | nil =>
          rw [List.append_nil] at beneath
          rw [trees_eq, beneath] at mem
          exact absurd isReader (by simp [idle tree mem])
      | cons first rest =>
          obtain ⟨rfl, rfl⟩ := List.cons.inj isLater
          exact ⟨caller, before, caller :: passed, rest, after, called, by rw [trees_eq, beneath]; simp, rfl, rfl, idle⟩

end PlanNote

namespace Plan

/-- The notes that are due after one more tree was met. -/
def passing (due : PlanNotes) (tree : Datum) : PlanNotes := if readsTable tree then {} else due.met tree

theorem has_nothing (note : PlanNote) : ({} : PlanNotes).has note = false := by
  cases note <;> rfl

theorem readings_append (due : PlanNotes) (first second : List Datum) :
    readings due (first ++ second) = readings due first ++ readings (first.foldl passing due) second := by
  induction first generalizing due with
  | nil => rfl
  | cons tree rest ih =>
      rw [List.cons_append, readings, readings, ih, ih, List.foldl_cons, passing]
      cases readsTable tree <;> rfl

theorem has_met_iff {due : PlanNotes} {note : PlanNote} {earlier : List Datum} (tree : Datum)
    (isDue : due.has note = true ↔ note.IsDue earlier) :
    (due.met tree).has note = true ↔ note.FallsTo earlier tree := by
  rw [PlanNotes.has_met, Bool.or_eq_true, isDue, or_comm, PlanNote.FallsTo]

theorem has_foldl_passing (note : PlanNote) (earlier : List Datum) :
    (earlier.foldl passing {}).has note = true ↔ note.IsDue earlier := by
  induction earlier using List.reverseRecOn with
  | nil => exact iff_of_false (by simp [has_nothing]) PlanNote.isDue_nil
  | append_singleton earlier tree ih =>
      rw [PlanNote.isDue_concat, ← has_met_iff tree ih, List.foldl_append, List.foldl_cons, List.foldl_nil, passing]
      cases readsTable tree with
      | true => simp [has_nothing]
      | false => simp

theorem AreRowsOf.exists_row {rows : List ExplainRow} {earlier later : List Datum} {reader : Datum}
    (each : AreRowsOf (readings {} (earlier ++ reader :: later)) 0 rows) (isReader : readsTable reader = true) :
    ∃ row, rows[earlier.countP readsTable]? = some row ∧
      IsRowOf reader ((earlier.foldl passing {}).met reader) (earlier.countP readsTable + 1) row := by
  have length : (readings {} earlier).length = earlier.countP readsTable := by
    rw [List.countP_eq_length_filter, ← map_fst_readings {}, List.length_map]
  rw [readings_append, readings, if_pos isReader, AreRowsOf, List.zipIdx_append] at each
  have others := List.forall₂_drop (earlier.countP readsTable) each
  rw [List.drop_left' (by rw [List.length_zipIdx, length]), List.zipIdx_cons] at others
  obtain ⟨row, rest, isRow, -, dropped⟩ := List.forall₂_cons_left_iff.mp others
  refine ⟨row, by rw [← List.head?_drop, dropped]; rfl, ?_⟩
  rw [length, Nat.add_comm (0 + 1), Nat.zero_add] at isRow
  exact isRow

/-- The rows of a document tell the notes that fall to the trees which they show. -/
theorem rows_tell_notes {document tree : Datum} (describes : rootDatum document = .ok tree)
    (isTextual : IsTextual tree) :
    ∃ rows, Plan.rows document = .ok rows ∧ rows.length = (trees tree).countP readsTable ∧
      ∀ earlier reader later, trees tree = earlier ++ reader :: later → readsTable reader = true →
        ∃ row extra, rows[earlier.countP readsTable]? = some row ∧ row.get? "Extra" = some (.text extra) ∧
          ∀ note : PlanNote, Text.contains extra note.words = true ↔ note.FallsTo earlier reader := by
  obtain ⟨rows, listed, each⟩ := rows_readings describes isTextual
  refine ⟨rows, listed, ?_, fun earlier reader later split isReader => ?_⟩
  · rw [← each.length_eq, List.length_zipIdx, List.countP_eq_length_filter, ← map_fst_readings {}, List.length_map]
  · rw [split] at each
    obtain ⟨row, found, isRow⟩ := each.exists_row isReader
    refine ⟨row, _, found, isRow.extra, fun note => ?_⟩
    rw [contains_extraText_words]
    exact has_met_iff reader (has_foldl_passing note earlier)

end Plan

/-- Whatever the shape of a plan, a note is told in the row of a table exactly if the note is called for by the node
    that reads the table, or by an earlier one from which on no table is read before. So it is told at the first table
    that is read beneath each node that calls for it, and where beneath all of these a table is read, only there. -/
theorem notes_fall_to_next_reader {document tree : Datum} (describes : Plan.rootDatum document = .ok tree)
    (isTextual : Plan.IsTextual tree) :
    ∃ rows, Plan.rows document = .ok rows ∧ rows.length = (Plan.trees tree).countP Plan.readsTable ∧
      ∀ earlier reader later, Plan.trees tree = earlier ++ reader :: later → Plan.readsTable reader = true →
        ∃ row extra, rows[earlier.countP Plan.readsTable]? = some row ∧ row.get? "Extra" = some (.text extra) ∧
          ∀ note : PlanNote,
            (Text.contains extra note.words = true ↔ note.FallsTo earlier reader) ∧
            (note.IsFirstBeneath earlier reader later → Text.contains extra note.words = true) ∧
            ((∀ caller ∈ Plan.trees tree, note.isCalledFor caller = true →
                ∃ beneath ∈ Plan.trees caller, Plan.readsTable beneath = true) →
              (Text.contains extra note.words = true ↔ note.IsFirstBeneath earlier reader later)) := by
  obtain ⟨rows, listed, length, each⟩ := Plan.rows_tell_notes describes isTextual
  refine ⟨rows, listed, length, fun earlier reader later split isReader => ?_⟩
  obtain ⟨row, extra, found, cell, falls⟩ := each earlier reader later split isReader
  refine ⟨row, extra, found, cell, fun note => ?_⟩
  have toldBeneath : note.IsFirstBeneath earlier reader later → Text.contains extra note.words = true :=
    fun first => (falls note).mpr first.fallsTo
  exact ⟨falls note, toldBeneath, fun reads =>
    ⟨fun told => ((falls note).mp told).isFirstBeneath split reads, toldBeneath⟩⟩

/-- A scan of a table without any condition. -/
def plainScan (table : String) : Datum := .table [("Node Type", .text "Seq Scan"), ("Relation Name", .text table)]

/-- A plan that sorts what another one gives. -/
def sortOf (sorted : Datum) : Datum := .table [("Node Type", .text "Sort"), ("Plans", .list [sorted])]

/-- A plan that merges what it sorts with the rows of a table. -/
def mergePlan (sorted : Datum) : Datum :=
  .table [("Node Type", .text "Merge Join"), ("Plans", .list [sortOf sorted, plainScan "orders"])]

theorem plainScan_isTextual (table : String) : Plan.IsTextual (plainScan table) :=
  .node (by simp [Plan.textFields, Plan.conditionFields, List.lookup_cons]) rfl (List.forall_mem_nil _)

theorem mergePlan_isTextual {sorted : Datum} (isTextual : Plan.IsTextual sorted) :
    Plan.IsTextual (mergePlan sorted) := by
  have sort : Plan.IsTextual (sortOf sorted) :=
    .node (by simp [Plan.textFields, Plan.conditionFields, List.lookup_cons]) rfl
      (List.forall_mem_singleton.mpr isTextual)
  exact .node (by simp [Plan.textFields, Plan.conditionFields, List.lookup_cons]) rfl
    (List.forall_mem_cons.mpr ⟨sort, List.forall_mem_singleton.mpr (plainScan_isTextual "orders")⟩)

theorem trees_mergePlan (sorted : Datum) : Plan.trees (mergePlan sorted) =
    [mergePlan sorted, sortOf sorted] ++ Plan.trees sorted ++ [plainScan "orders"] := by
  have beneath : Plan.below (mergePlan sorted) = [sortOf sorted, plainScan "orders"] := rfl
  have beneathSort : Plan.below (sortOf sorted) = [sorted] := rfl
  have beneathScan : Plan.below (plainScan "orders") = [] := rfl
  rw [Plan.trees_eq, beneath, List.flatMap_cons, List.flatMap_singleton, Plan.trees_eq (sortOf sorted), beneathSort,
    List.flatMap_singleton, Plan.trees_eq (plainScan "orders"), beneathScan]
  simp

/-- A sort is noted at the table beneath it, and not at the one beside it. -/
theorem notes_mergePlan_plainScan :
    ∃ sorted merged, Plan.rows (.list [.table [("Plan", mergePlan (plainScan "users"))]]) = .ok [sorted, merged] ∧
      (∃ extra, sorted.get? "Extra" = some (.text extra) ∧ Text.contains extra "Using filesort" = true) ∧
      ∃ extra, merged.get? "Extra" = some (.text extra) ∧ ¬Text.contains extra "Using filesort" = true := by
  have described : Plan.rootDatum (.list [.table [("Plan", mergePlan (plainScan "users"))]]) =
      .ok (mergePlan (plainScan "users")) := rfl
  obtain ⟨rows, listed, length, each⟩ :=
    notes_fall_to_next_reader described (mergePlan_isTextual (plainScan_isTextual "users"))
  have trees : Plan.trees (mergePlan (plainScan "users")) =
      [mergePlan (plainScan "users"), sortOf (plainScan "users"), plainScan "users", plainScan "orders"] := by
    rw [trees_mergePlan, Plan.trees_eq (plainScan "users")]
    rfl
  rw [trees] at length each
  obtain ⟨sorted, ofSorted, first, cell, notes⟩ :=
    each [mergePlan (plainScan "users"), sortOf (plainScan "users")] (plainScan "users") [plainScan "orders"] rfl rfl
  obtain ⟨merged, ofMerged, second, otherCell, otherNotes⟩ :=
    each [mergePlan (plainScan "users"), sortOf (plainScan "users"), plainScan "users"] (plainScan "orders") [] rfl rfl
  have both : rows = [sorted, merged] := by
    have two : rows.length = 2 := length
    obtain ⟨x, y, rfl⟩ := List.length_eq_two.mp two
    obtain rfl : x = sorted := Option.some.inj first
    obtain rfl : y = merged := Option.some.inj second
    rfl
  have idle : ∀ tree ∈ [sortOf (plainScan "users")], Plan.readsTable tree = false := List.forall_mem_singleton.mpr rfl
  refine ⟨sorted, merged, both ▸ listed, ⟨ofSorted, cell, ?falls⟩, ofMerged, otherCell, ?none⟩
  case falls => exact (notes .filesort).1.mpr (.inr ⟨[mergePlan (plainScan "users")], _, [], rfl, rfl, idle⟩)
  case none =>
    rintro told
    rcases (otherNotes .filesort).1.mp told with called | isDue
    · cases called
    · cases ((@PlanNote.isDue_concat .filesort [_, _] _).mp isDue).1

/-- A scan of what the statement names itself, which is no table. -/
def cteScan : Datum := .table [("Node Type", .text "CTE Scan"), ("CTE Name", .text "recent")]

/-- Where no table is read beneath a sort, the sort is noted at a table that is not sorted. -/
theorem note_told_beside_sort :
    ∃ row extra, Plan.rows (.list [.table [("Plan", mergePlan cteScan)]]) = .ok [row] ∧
      row.get? "Extra" = some (.text extra) ∧ Text.contains extra "Using filesort" = true ∧
      Plan.trees (mergePlan cteScan) = [mergePlan cteScan, sortOf cteScan, cteScan, plainScan "orders"] ∧
      ¬PlanNote.filesort.IsFirstBeneath [mergePlan cteScan, sortOf cteScan, cteScan] (plainScan "orders") [] := by
  have textual : Plan.IsTextual cteScan :=
    .node (by simp [Plan.textFields, Plan.conditionFields, List.lookup_cons]) rfl (List.forall_mem_nil _)
  have described : Plan.rootDatum (.list [.table [("Plan", mergePlan cteScan)]]) = .ok (mergePlan cteScan) := rfl
  have trees : Plan.trees (mergePlan cteScan) =
      [mergePlan cteScan, sortOf cteScan, cteScan, plainScan "orders"] := by
    rw [trees_mergePlan, Plan.trees_eq cteScan]
    rfl
  have idle : ∀ tree ∈ [sortOf cteScan, cteScan], Plan.readsTable tree = false :=
    List.forall_mem_cons.mpr ⟨rfl, List.forall_mem_singleton.mpr rfl⟩
  obtain ⟨rows, listed, length, each⟩ := Plan.rows_tell_notes described (mergePlan_isTextual textual)
  rw [trees] at length each
  obtain ⟨row, extra, first, cell, notes⟩ :=
    each [mergePlan cteScan, sortOf cteScan, cteScan] (plainScan "orders") [] rfl rfl
  obtain ⟨only, rfl⟩ := List.length_eq_one_iff.mp (show rows.length = 1 from length)
  obtain rfl : only = row := Option.some.inj first
  refine ⟨only, extra, listed, cell, ?falls, trees, fun beneath => ?beside⟩
  case falls => exact (notes .filesort).mpr (.inr ⟨[mergePlan cteScan], _, [cteScan], rfl, rfl, idle⟩)
  case beside =>
    obtain ⟨caller, among, called, mem⟩ := beneath.exists_caller
    have isSort : caller = sortOf cteScan := by
      simp only [List.mem_append, List.mem_cons, List.not_mem_nil, or_false] at among
      rcases among with (rfl | rfl | rfl) | rfl
      case inl.inr.inl => rfl
      all_goals cases called
    have sorted : Plan.trees (sortOf cteScan) = [sortOf cteScan, cteScan] := by with_unfolding_all rfl
    rw [isSort, sorted] at mem
    cases idle _ mem

end SqlAdvisor
