import SqlAdvisor.Proofs.Explain.PlanTrees

/-! # The rows of a plan document

A tree that reads a table has one row, in pre-order, and any other one none. The row shows what the tree tells about its
node, and in its last cell the notes that fall to it: those that are due when the tree is met, and none of which is due
any more after it.
-/

namespace SqlAdvisor

/-- What may be noted at a table that is read. -/
inductive PlanNote where
  | filesort
  | temporary

namespace PlanNote

/-- The note in the words of a tabular EXPLAIN. -/
def words : PlanNote → String
  | filesort => "Using filesort"
  | temporary => "Using temporary"

/-- The types of the nodes that call for the note. -/
def nodeTypes : PlanNote → List String
  | filesort => ["Sort", "Incremental Sort"]
  | temporary => ["HashAggregate", "Materialize", "SetOp"]

/-- Whether the node at the root of a tree calls for the note. -/
def isCalledFor (note : PlanNote) (tree : Datum) : Bool :=
  note.nodeTypes.contains (Plan.fieldText tree "Node Type")

end PlanNote

namespace PlanNotes

def has (notes : PlanNotes) : PlanNote → Bool
  | .filesort => notes.filesort
  | .temporary => notes.temporary

/-- The notes after the node at the root of a tree was met. -/
def met (notes : PlanNotes) (tree : Datum) : PlanNotes where
  filesort := notes.filesort || PlanNote.filesort.isCalledFor tree
  temporary := notes.temporary || PlanNote.temporary.isCalledFor tree

theorem has_met (notes : PlanNotes) (tree : Datum) (note : PlanNote) :
    (notes.met tree).has note = (notes.has note || note.isCalledFor tree) := by
  cases note <;> rfl

theorem meeting_eq (notes : PlanNotes) (tree : Datum) :
    notes.meeting (.text (Plan.fieldText tree "Node Type")) = .ok (notes.met tree) := by
  rw [met, PlanNote.isCalledFor, PlanNote.isCalledFor]
  generalize Plan.fieldText tree "Node Type" = type
  unfold meeting
  split
  case h_1 | h_2 | h_3 | h_4 | h_5 =>
    rename_i isType
    obtain rfl := Datum.text.inj isType
    simp [PlanNote.nodeTypes]
  case h_6 | h_7 => contradiction
  case h_8 _ sort incremental hash materialize setOp _ _ =>
    simp only [Datum.text.injEq, imp_false] at sort incremental hash materialize setOp
    simp [PlanNote.nodeTypes, sort, incremental, hash, materialize, setOp]

end PlanNotes

namespace Plan

/-- What the last cell of a row tells about the node at the root of a tree, with the notes that fall to it. -/
def extraText (tree : Datum) (notes : PlanNotes) : String :=
  "; ".intercalate ((if condition tree = "" then [] else ["Using where"]) ++ notes.texts)

theorem contains_extraText_words (tree : Datum) (notes : PlanNotes) (note : PlanNote) :
    Text.contains (extraText tree notes) note.words = notes.has note := by
  obtain ⟨filesort, temporary⟩ := notes
  rw [extraText]
  by_cases empty : condition tree = ""
  · rw [if_pos empty]
    cases filesort <;> cases temporary <;> cases note <;> rfl
  · rw [if_neg empty]
    cases filesort <;> cases temporary <;> cases note <;> rfl

theorem contains_extraText_where (tree : Datum) (notes : PlanNotes) :
    Text.contains (extraText tree notes) "Using where" = true ↔ condition tree ≠ "" := by
  obtain ⟨filesort, temporary⟩ := notes
  rw [extraText]
  by_cases empty : condition tree = ""
  · rw [if_pos empty]
    refine iff_of_false ?_ (absurd empty)
    cases filesort <;> cases temporary <;> decide
  · rw [if_neg empty]
    refine iff_of_true ?_ empty
    cases filesort <;> cases temporary <;> decide

/-- The row shows the fields of the node at the root of a tree, under a number. -/
structure Shows (tree : Datum) (id : Nat) (row : ExplainRow) : Prop where
  id : row.get? "id" = some (.int id)
  table : row.get? "table" = some (.text (tableName tree))
  type : row.get? "type" = some (.text (PlanNode.accessType (fieldText tree "Node Type")))
  possibleKeys : row.get? "possible_keys" = some (.text (indexUsed tree))
  key : row.get? "key" = some (.text (indexUsed tree))
  rows : row.get? "rows" = some ((tree.entry? "Plan Rows").getD (.int 0))

/-- The row shows the node at the root of a tree, and the notes that fall to it. -/
structure IsRowOf (tree : Datum) (notes : PlanNotes) (id : Nat) (row : ExplainRow) : Prop extends
    Shows tree id row where
  extra : row.get? "Extra" = some (.text (extraText tree notes))

variable {tree : Datum} {n : PlanNode}

theorem IsReadAs.toRow (reads : IsReadAs tree n) (id : Nat) (notes : PlanNotes) :
    ∃ row, n.toRow id notes = .ok row ∧ IsRowOf tree notes id row := by
  have named : n.metrics.aliasName.orElse n.metrics.relationName = .text (tableName tree) := by
    rw [reads.aliased, reads.relation, ← firstGiven_singleton (fieldText tree "Relation Name"), orElse_firstGiven,
      tableName]
  have extra : "; ".intercalate ((if n.metrics.filter.truthy then ["Using where"] else []) ++ notes.texts) =
      extraText tree notes := by
    rw [reads.filter, truthy_text, extraText]
    simp
  obtain ⟨row, made⟩ : ∃ row, n.toRow id notes = .ok row := ⟨_, by rw [PlanNode.toRow, reads.nodeType]; rfl⟩
  obtain ⟨number, table, type, possibleKeys, key, rows, noted⟩ := PlanNode.cells_of_toRow reads.nodeType made
  rw [named] at table
  rw [reads.used] at possibleKeys key
  rw [reads.rows] at rows
  rw [extra] at noted
  exact ⟨row, made, ⟨number, table, type, possibleKeys, key, rows⟩, noted⟩

theorem IsReadAs.add (reads : IsReadAs tree n) (state : Flattening) :
    (readsTable tree = true → ∃ row, state.add n = .ok { rows := state.rows ++ [row] } ∧
      IsRowOf tree (state.notes.met tree) (state.rows.length + 1) row) ∧
    (readsTable tree = false → state.add n = .ok { state with notes := state.notes.met tree }) := by
  have met : state.notes.meeting n.metrics.nodeType = .ok (state.notes.met tree) := by
    rw [reads.nodeType, PlanNotes.meeting_eq]
  obtain ⟨row, made, isRow⟩ := reads.toRow (state.rows.length + 1) (state.notes.met tree)
  constructor
  · intro isReader
    refine ⟨row, ?_, isRow⟩
    rw [Flattening.add, met]
    simp only [bind, Except.bind, reads.readsTable_eq, isReader, if_true, made]
    rfl
  · intro noReader
    rw [Flattening.add, met]
    simp only [bind, Except.bind, reads.readsTable_eq, noReader]
    rfl

/-! ## Readings -/

/-- The trees among some that read a table, each with the notes that fall to it, where some notes are due already. -/
def readings (due : PlanNotes) : List Datum → List (Datum × PlanNotes)
  | [] => []
  | tree :: rest => if readsTable tree then (tree, due.met tree) :: readings {} rest else readings (due.met tree) rest

theorem map_fst_readings (due : PlanNotes) (ts : List Datum) :
    (readings due ts).map Prod.fst = ts.filter readsTable := by
  induction ts generalizing due with
  | nil => rfl
  | cons tree rest ih =>
      rw [readings, List.filter_cons]
      split
      · rw [List.map_cons, ih]
      · exact ih _

/-- The rows show the readings one by one, with the numbers that follow `start`. -/
def AreRowsOf (read : List (Datum × PlanNotes)) (start : Nat) (rows : List ExplainRow) : Prop :=
  List.Forall₂ (fun reading row => IsRowOf reading.1.1 reading.1.2 reading.2 row) (read.zipIdx (start + 1)) rows

theorem foldlM_add {ts : List Datum} {ns : List PlanNode} (reads : List.Forall₂ IsReadAs ts ns) (state : Flattening) :
    ∃ final shown, ns.foldlM Flattening.add state = .ok final ∧ final.rows = state.rows ++ shown ∧
      AreRowsOf (readings state.notes ts) state.rows.length shown := by
  induction reads generalizing state with
  | nil => exact ⟨state, [], rfl, (List.append_nil _).symm, .nil⟩
  | @cons tree n ts ns first _ ih =>
      obtain ⟨added, passed⟩ := first.add state
      rw [List.foldlM_cons, readings]
      cases isReader : readsTable tree with
      | true =>
          obtain ⟨row, adds, isRow⟩ := added isReader
          obtain ⟨final, shown, folded, rows, each⟩ := ih { rows := state.rows ++ [row] }
          rw [List.length_append, List.length_singleton] at each
          refine ⟨final, row :: shown, by rw [adds]; exact folded, by rw [rows]; simp, ?_⟩
          exact .cons isRow each
      | false =>
          obtain ⟨final, shown, folded, rows, each⟩ := ih { state with notes := state.notes.met tree }
          exact ⟨final, shown, by rw [passed isReader]; exact folded, rows, each⟩

/-- The rows of a document show the readings of its trees. -/
theorem rows_readings {document : Datum} (describes : rootDatum document = .ok tree) (isTextual : IsTextual tree) :
    ∃ rows, Plan.rows document = .ok rows ∧ AreRowsOf (readings {} (trees tree)) 0 rows := by
  obtain ⟨n, read, -, reads⟩ := node_reads isTextual
  obtain ⟨final, shown, folded, rows, each⟩ := foldlM_add reads {}
  have isRoot : root document = .ok n := by
    rw [root, describes]
    exact read
  refine ⟨shown, ?_, each⟩
  rw [Plan.rows, isRoot]
  simp only [bind, Except.bind]
  rw [rowsOf, folded, ← List.nil_append shown, ← rows]
  rfl

end Plan

/-- Whatever the shape of a plan, its trees that read a table have a row each, in pre-order and numbered from one, and
    no other tree has any. The row shows the name that the table goes by, the kind of the scan, the index that is used
    and the estimate, and it tells of a condition exactly if the node has one. -/
theorem plan_rows_show_readers {document tree : Datum} (describes : Plan.rootDatum document = .ok tree)
    (isTextual : Plan.IsTextual tree) :
    ∃ rows, Plan.rows document = .ok rows ∧
      List.Forall₂ (fun reader row => Plan.Shows reader.1 reader.2 row ∧
          ∃ extra, row.get? "Extra" = some (.text extra) ∧ (Text.contains extra "Using where" = true ↔
            ∃ field ∈ Plan.conditionFields, Plan.fieldText reader.1 field ≠ ""))
        (((Plan.trees tree).filter Plan.readsTable).zipIdx 1) rows := by
  obtain ⟨rows, listed, each⟩ := Plan.rows_readings describes isTextual
  refine ⟨rows, listed, ?_⟩
  rw [← Plan.map_fst_readings {}, List.zipIdx_map, List.forall₂_map_left_iff]
  refine each.imp fun reading row isRow => ⟨isRow.toShows, _, isRow.extra, ?_⟩
  exact (Plan.contains_extraText_where _ _).trans Plan.condition_ne_empty

/-- A plan that joins what the bitmap of an index finds in one table with another table. -/
def bitmapJoin : Datum :=
  .table [("Node Type", .text "Nested Loop"), ("Plans", .list [
    .table [("Node Type", .text "Bitmap Heap Scan"), ("Relation Name", .text "events"), ("Alias", .text "e"),
      ("Recheck Cond", .text "(kind = 1)"), ("Plan Rows", .int 20), ("Plans", .list [
        .table [("Node Type", .text "Bitmap Index Scan"), ("Index Name", .text "events_kind_idx")]])],
    .table [("Node Type", .text "Seq Scan"), ("Relation Name", .text "users")]])]

theorem bitmapJoin_isTextual : Plan.IsTextual bitmapJoin := by
  have index : Plan.IsTextual
      (.table [("Node Type", .text "Bitmap Index Scan"), ("Index Name", .text "events_kind_idx")]) :=
    .node (by simp [Plan.textFields, Plan.conditionFields, List.lookup_cons]) rfl (List.forall_mem_nil _)
  refine .node (by simp [Plan.textFields, Plan.conditionFields, List.lookup_cons]) rfl ?_
  refine List.forall_mem_cons.mpr ⟨?events, List.forall_mem_singleton.mpr ?users⟩
  case events =>
    exact .node (by simp [Plan.textFields, Plan.conditionFields, List.lookup_cons]) rfl
      (List.forall_mem_singleton.mpr index)
  case users =>
    exact .node (by simp [Plan.textFields, Plan.conditionFields, List.lookup_cons]) rfl (List.forall_mem_nil _)

/-- The row of a bitmap scan reports the index of its child, which has no row of its own. -/
theorem plan_rows_bitmapJoin :
    ∃ events users, Plan.rows (.list [.table [("Plan", bitmapJoin)]]) = .ok [events, users] ∧
      events.get? "key" = some (.text "events_kind_idx") ∧
      (∃ extra, events.get? "Extra" = some (.text extra) ∧ Text.contains extra "Using where" = true) ∧
      users.get? "id" = some (.int 2) ∧ users.get? "table" = some (.text "users") ∧
      users.get? "rows" = some (.int 0) := by
  have described : Plan.rootDatum (.list [.table [("Plan", bitmapJoin)]]) = .ok bitmapJoin := rfl
  obtain ⟨rows, listed, each⟩ := plan_rows_show_readers described bitmapJoin_isTextual
  have readers : ((Plan.trees bitmapJoin).filter Plan.readsTable).zipIdx 1 =
      (Plan.below bitmapJoin).zipIdx 1 := by with_unfolding_all rfl
  rw [readers] at each
  obtain ⟨events, _, ⟨ofEvents, extra, cell, tells⟩, others, rfl⟩ := List.forall₂_cons_left_iff.mp each
  obtain ⟨users, _, ⟨ofUsers, -⟩, none, rfl⟩ := List.forall₂_cons_left_iff.mp others
  cases none
  refine ⟨events, users, listed, ofEvents.key, ⟨extra, cell, tells.mpr ⟨"Recheck Cond", ?_, ?_⟩⟩, ofUsers.id, ofUsers.table,
    ofUsers.rows⟩
  · decide
  · decide

end SqlAdvisor
