import SqlAdvisor.Proofs.Hint.Completeness
import SqlAdvisor.Proofs.Statement.Sources

/-! # A statement that is no query has one hint

An update or a deletion of a named table has no condition, or one with columns of that table in calls, or one without.
The record that tells is always there, as the statistics give the target the name that the records have it under.
The hint on an insertion depends on where its rows come from, and the one on any other statement names its kind.
-/

namespace SqlAdvisor

/-! ## Modifications -/

/-- What the rules say of an update or a deletion without a condition. -/
def Hint.withoutCondition (c : NodeClass) : String → Hint := if c = .update then updateAll else deleteAll

/-- The hint warns that the update or the deletion is of all rows of the table. -/
structure Hint.WarnsOfAllRows (c : NodeClass) (table : String) (hint : Hint) : Prop where
  update : c = .update → hint.IsTitled .severe "UPDATE Without WHERE" ∧
    hint.explanation = "This statement will update *all* rows in the table '" ++ table ++ "'."
  delete : c = .delete → hint.IsTitled .severe "DELETE Without WHERE" ∧
    hint.explanation = "This statement will delete *all* rows from the table '" ++ table ++ "'."

/-- The place is a column of the table, in a `WHERE` clause and in a call. -/
def Statement.Wraps (statement : Statement) (table : String) (place : Place) : Prop :=
  place.IsColumn ∧ resolve place.qualifier (.ofRefs statement.tables) statement.tableNames = .known table ∧
    place.IsBelow (· = .whereClause) ∧ place.IsBelow (·.isCall)

/-- The hint is the one that the condition of an update or a deletion of a named table calls for. -/
structure Hint.OnModification (tree : Node) (statement : Statement) (table : String) (hint : Hint) : Prop where
  unfiltered : hint.severity = .severe ↔ tree.whereCondition = .ok .null
  target : tree.whereCondition = .ok .null → hint.WarnsOfAllRows tree.cls table
  wrapped : hint.IsTitled .warn "Function on WHERE Column(s)" ↔
    tree.whereCondition ≠ .ok .null ∧ ∃ place ∈ tree.places, statement.Wraps table place
  /-- Each of the columns has a name, and those are listed in increasing order. -/
  lists : hint.IsTitled .warn "Function on WHERE Column(s)" → ∃ names, hint.ListsColumns names ∧
    names.Pairwise (· < ·) ∧
    (∀ name, name ∈ names ↔ ∃ place ∈ tree.places, statement.Wraps table place ∧ place.node.columnName? = some name) ∧
    ∀ place ∈ tree.places, statement.Wraps table place → ∃ name ∈ names, place.node.columnName? = some name
  basic : hint.IsTitled .info "Basic Analysis Complete" ↔
    tree.whereCondition ≠ .ok .null ∧ ¬∃ place ∈ tree.places, statement.Wraps table place

section Modification

variable {tree : Node} {statement : Statement} {table : String}

/-- An update and a deletion are read alike, and the hint on each is made alike. -/
theorem Statement.ofNode_modifies (modifies : tree.cls.Modifies) (read : ofNode tree = .ok statement) :
    ∃ target condition, Node.targetName? (tree.arg "this") = .ok target ∧ tree.whereCondition = .ok condition ∧
      ("target_table", .text (targetText target)) ∈ statement.structural ∧
      ∀ usages stats, Hint.ofStatement statement usages stats = (do
        let hint ← Hint.ofModification statement.typeName condition (Hint.withoutCondition tree.cls) usages stats
        return hint.map ([·])) := by
  cases isMadeOf read with
  | update cls made =>
      simp only [Node.toUpdate, Except.bind_eq_ok] at made
      obtain ⟨_, _, _, _, target, isTarget, _, _, condition, isCondition, made⟩ := made
      cases made
      rw [cls]
      exact ⟨target, condition, isTarget, isCondition, .head _, fun _ _ => rfl⟩
  | delete cls made =>
      simp only [Node.toDelete, Except.bind_eq_ok] at made
      obtain ⟨_, _, _, _, target, isTarget, condition, isCondition, made⟩ := made
      cases made
      rw [cls]
      exact ⟨target, condition, isTarget, isCondition, .head _, fun _ _ => rfl⟩
  | select query => rcases modifies with cls | cls <;> simp [NodeClass.IsQuery, cls, NodeClass.isSetOperation] at query
  | insert cls => simp [NodeClass.Modifies, cls] at modifies
  | other _ _ notUpdate notDelete => exact absurd modifies (not_or.mpr ⟨notUpdate, notDelete⟩)

theorem Statement.wrapped_exact (reads : statement.readsColumns = true) (among : table ∈ statement.tableNames) :
    ∃ usage, (statement.usages (.ofRefs statement.tables)).find? (.known table) = some usage ∧
      (∀ name, name ∈ usage.wrapped ↔
        ∃ place ∈ statement.node.places, statement.Wraps table place ∧ place.node.columnName? = some name) ∧
      (usage.wrapped.isNamed = true →
        ∀ place ∈ statement.node.places, statement.Wraps table place → ∃ name, place.node.columnName? = some name) := by
  obtain ⟨usage, found⟩ := Dictionary.mem_keys.mp (known_mem_keys_usages.mpr among)
  refine ⟨usage, found, fun name => ?names, fun named place mem wraps => ?named⟩
  case names =>
    have holds := (usages_exact reads).holds .wrapped (.known table) name
    simp only [TableUsages.Holds, found, Option.some.injEq, exists_eq_left', Used, reduceCtorEq, false_and,
      or_false] at holds
    refine holds.trans (exists_congr fun place => and_congr_right fun _ => ?_)
    simp only [Place.IsColumnOf, Wraps, UsageSet.Covers]
    tauto
  case named =>
    obtain ⟨column, means, covered⟩ := wraps
    refine Option.ne_none_iff_exists'.mp fun unnamed => ?_
    have nameless : (statement.usages (.ofRefs statement.tables)).HoldsNameless .wrapped (.known table) :=
      (holdsNameless_usages reads).mpr ⟨place, mem, column, means, unnamed, covered⟩
    obtain ⟨_, same, nameless⟩ := nameless
    cases found.symm.trans same
    exact Bool.eq_false_iff.mp nameless named

/-- With a record of the target, the hint tells of the condition or of what the record says of it, and nothing is
    logged. -/
theorem Hint.ofModification_value {verb : String} {condition : Argument} {withoutCondition : String → Hint}
    {usages : TableUsages} {stats : Statistics} {usage : TableUsage} {hint : Logged Hint}
    (told : stats.find? "target_table" = some (.text table)) (found : usages.find? (.known table) = some usage)
    (h : ofModification verb condition withoutCondition usages stats = .ok hint) :
    hint.log = [] ∧
      (condition = .null ∧ hint.value = withoutCondition table ∨
        condition ≠ .null ∧
          (usage.wrapped.isEmpty = true ∧ hint.value = basicAnalysis verb ∨
            usage.wrapped.isEmpty = false ∧
              ∃ names, usage.wrapped.Lists names ∧ hint.value = wrappedInModification names verb)) := by
  rw [ofModification, told] at h
  dsimp only [Option.getD_some] at h
  split at h
  · rename_i unfiltered
    cases h
    exact ⟨rfl, .inl ⟨Argument.isNull_iff.mp unfiltered, rfl⟩⟩
  · rename_i filtered
    have hasRecord : targetUsage? (.text table) usages = .ok (some usage) := by
      rw [targetUsage?, found]
      rfl
    rw [hasRecord] at h
    have given : condition ≠ .null := mt Argument.isNull_iff.mpr filtered
    cases empty : usage.wrapped.isEmpty with
    | true =>
        simp only [bind, Except.bind, empty, if_true] at h
        cases h
        exact ⟨rfl, .inr ⟨given, .inl ⟨rfl, rfl⟩⟩⟩
    | false =>
        simp only [bind, Except.bind, empty] at h
        obtain ⟨names, listed, h⟩ := Except.bind_eq_ok.mp h
        cases h
        exact ⟨rfl, .inr ⟨given, .inr ⟨rfl, names, ColumnSet.lists_of_namesInOrder listed, rfl⟩⟩⟩

theorem Hint.withoutCondition_severity (c : NodeClass) (table : String) :
    (withoutCondition c table).severity = .severe := by
  rw [withoutCondition]
  split <;> rfl

theorem Hint.withoutCondition_warns (c : NodeClass) (table : String) :
    (withoutCondition c table).WarnsOfAllRows c table where
  update isUpdate := by
    rw [withoutCondition, if_pos isUpdate]
    exact ⟨⟨rfl, rfl⟩, rfl⟩
  delete isDelete := by
    rw [withoutCondition, if_neg (by simp [isDelete])]
    exact ⟨⟨rfl, rfl⟩, rfl⟩

theorem Hint.wrappedInModification_lists (names : List String) (verb : String) :
    (wrappedInModification names verb).ListsColumns names :=
  .append_right (.append_right (.append_right (.append_left (Text.includes_self _) _) _) _) _

theorem Hint.not_isTitled {hint : Hint} {severity : Severity} {title : String} (apart : hint.severity ≠ severity) :
    ¬hint.IsTitled severity title :=
  fun isTitled => apart isTitled.1

namespace Hint.OnModification

theorem of_unfiltered (none : tree.whereCondition = .ok .null) :
    (withoutCondition tree.cls table).OnModification tree statement table := by
  have apart {severity : Severity} {title : String} (other : severity ≠ .severe) :
      ¬(withoutCondition tree.cls table).IsTitled severity title :=
    not_isTitled (by rw [withoutCondition_severity]; exact other.symm)
  exact {
    unfiltered := iff_of_true (withoutCondition_severity _ _) none
    target := fun _ => withoutCondition_warns _ _
    wrapped := iff_of_false (apart nofun) fun h => h.1 none
    lists := fun h => absurd h (apart nofun)
    basic := iff_of_false (apart nofun) fun h => h.1 none }

theorem of_not_wrapped (given : tree.whereCondition ≠ .ok .null)
    (noneWrapped : ¬∃ place ∈ tree.places, statement.Wraps table place) :
    (basicAnalysis statement.typeName).OnModification tree statement table where
  unfiltered := iff_of_false nofun given
  target none := absurd none given
  wrapped := iff_of_false (not_isTitled nofun) fun h => noneWrapped h.2
  lists h := absurd h (not_isTitled nofun)
  basic := iff_of_true ⟨rfl, rfl⟩ ⟨given, noneWrapped⟩

theorem of_wrapped {names : List String} (given : tree.whereCondition ≠ .ok .null)
    (someWrapped : ∃ place ∈ tree.places, statement.Wraps table place) (sorted : names.Pairwise (· < ·))
    (listed : ∀ name, name ∈ names ↔
      ∃ place ∈ tree.places, statement.Wraps table place ∧ place.node.columnName? = some name)
    (allNamed : ∀ place ∈ tree.places, statement.Wraps table place → ∃ name, place.node.columnName? = some name) :
    (wrappedInModification names statement.typeName).OnModification tree statement table where
  unfiltered := iff_of_false nofun given
  target none := absurd none given
  wrapped := iff_of_true ⟨rfl, rfl⟩ ⟨given, someWrapped⟩
  lists _ := by
    refine ⟨names, wrappedInModification_lists _ _, sorted, listed, fun place mem wraps => ?_⟩
    obtain ⟨name, isName⟩ := allNamed place mem wraps
    exact ⟨name, (listed name).mpr ⟨place, mem, wraps, isName⟩, isName⟩
  basic := iff_of_false (not_isTitled nofun) fun h => h.2 someWrapped

end Hint.OnModification

theorem Statement.exists_wraps_iff {usage : TableUsage} (named : usage.wrapped.isNamed = true)
    (exact : ∀ name, name ∈ usage.wrapped ↔
      ∃ place ∈ tree.places, statement.Wraps table place ∧ place.node.columnName? = some name)
    (allNamed : ∀ place ∈ tree.places, statement.Wraps table place → ∃ name, place.node.columnName? = some name) :
    (∃ place ∈ tree.places, statement.Wraps table place) ↔ usage.wrapped.isEmpty = false := by
  rw [Bool.eq_false_iff, ne_eq, ColumnSet.isEmpty_iff]
  constructor
  · rintro ⟨place, mem, wraps⟩ ⟨-, noNames⟩
    obtain ⟨name, isName⟩ := allNamed place mem wraps
    exact noNames name ((exact name).mpr ⟨place, mem, wraps, isName⟩)
  · intro nonempty
    by_contra noneWrapped
    refine nonempty ⟨named, fun name mem => ?_⟩
    obtain ⟨place, mem, wraps, -⟩ := (exact name).mp mem
    exact noneWrapped ⟨place, mem, wraps⟩

theorem Hint.onModification {condition : Argument} {usage : TableUsage} {hint : Hint}
    (isCondition : tree.whereCondition = .ok condition)
    (exact : ∀ name, name ∈ usage.wrapped ↔
      ∃ place ∈ tree.places, statement.Wraps table place ∧ place.node.columnName? = some name)
    (allNamed : usage.wrapped.isNamed = true →
      ∀ place ∈ tree.places, statement.Wraps table place → ∃ name, place.node.columnName? = some name)
    (value : condition = .null ∧ hint = withoutCondition tree.cls table ∨
      condition ≠ .null ∧
        (usage.wrapped.isEmpty = true ∧ hint = basicAnalysis statement.typeName ∨
          usage.wrapped.isEmpty = false ∧
            ∃ names, usage.wrapped.Lists names ∧ hint = wrappedInModification names statement.typeName)) :
    hint.OnModification tree statement table := by
  have filters : tree.whereCondition = .ok .null ↔ condition = .null := by rw [isCondition, Except.ok.injEq]
  obtain ⟨unfiltered, rfl⟩ | ⟨filtered, outcome⟩ := value
  · exact .of_unfiltered (filters.mpr unfiltered)
  · have given : tree.whereCondition ≠ .ok .null := mt filters.mp filtered
    obtain ⟨empty, rfl⟩ | ⟨nonempty, names, ⟨named, lists, sorted⟩, rfl⟩ := outcome
    · have named : usage.wrapped.isNamed = true := (ColumnSet.isEmpty_iff.mp empty).1
      refine .of_not_wrapped given fun someWrapped => ?_
      rw [(Statement.exists_wraps_iff named exact (allNamed named)).mp someWrapped] at empty
      cases empty
    · have someWrapped := (Statement.exists_wraps_iff named exact (allNamed named)).mpr nonempty
      exact .of_wrapped given someWrapped sorted (fun name => (lists name).trans (exact name)) (allNamed named)

end Modification

/-! ## Insertions -/

/-- The rows of the insertion are those of a query. -/
def Node.TakesQuery (n : Node) : Prop :=
  ∃ source, n.child? "expression" = some source ∧ (source.cls.IsQuery ∨ source.cls = .subquery)

/-- The insertion lists that many rows after `VALUES`. -/
def Node.ListsRows (n : Node) (rows : Nat) : Prop :=
  ∃ source items, n.child? "expression" = some source ∧ source.cls = .values ∧
    source.items "expressions" = .ok items ∧ items.length = rows

theorem Node.ListsRows.not_takesQuery {n : Node} {rows : Nat} (lists : n.ListsRows rows) : ¬n.TakesQuery := by
  rintro ⟨source, held, query⟩
  obtain ⟨_, _, same, cls, -, -⟩ := lists
  cases held.symm.trans same
  simp [NodeClass.IsQuery, cls, NodeClass.isSetOperation] at query

theorem Node.ListsRows.unique {n : Node} {rows other : Nat} (lists : n.ListsRows rows) (again : n.ListsRows other) :
    rows = other := by
  obtain ⟨source, items, held, -, listed, rfl⟩ := lists
  obtain ⟨_, _, same, -, listed', rfl⟩ := again
  cases held.symm.trans same
  cases listed.symm.trans listed'
  rfl

theorem Node.toInsert_source {n : Node} {s : InsertStatement} (made : n.toInsert = .ok s) :
    (s.source.isSome = true ↔ n.TakesQuery) ∧ ∀ rows, s.valuesRowCount = some rows ↔ n.ListsRows rows := by
  simp only [toInsert_eq, Except.bind_eq_ok] at made
  obtain ⟨_, _, ⟨_, _⟩, _, rowCount, counted, _, _, _, _, made⟩ := made
  cases made
  rw [listedRowCount] at counted
  cases held : n.child? "expression" with
  | none =>
      rw [held] at counted
      cases counted
      simp [TakesQuery, ListsRows, held]
  | some source =>
      rw [held] at counted
      refine ⟨?_, fun rows => ?_⟩
      · simp only [TakesQuery, held, NodeClass.IsQuery, Option.isSome_filter, Option.any_some, Option.some.injEq,
          exists_eq_left', Bool.or_eq_true, decide_eq_true_eq]
        tauto
      · by_cases isValues : source.cls = .values
        · dsimp only at counted
          rw [if_pos isValues] at counted
          obtain ⟨items, listed, counted⟩ := Except.bind_eq_ok.mp counted
          cases counted
          simp [ListsRows, held, isValues, listed]
        · dsimp only at counted
          rw [if_neg isValues] at counted
          cases counted
          simp [ListsRows, held, isValues]

/-- The hint is the one that the source of an insertion calls for. -/
structure Hint.OnInsertion (tree : Node) (hint : Hint) : Prop where
  info : hint.severity = .info
  query : hint.title = "INSERT...SELECT" ↔ tree.TakesQuery
  many : hint.title = "Large VALUES List" ↔ ∃ rows, tree.ListsRows rows ∧ 50 < rows
  counted : ∀ rows, tree.ListsRows rows → 50 < rows →
    hint.explanation = "INSERT uses many VALUES clauses (" ++ toString rows ++ ")."
  basic : hint.title = "Basic Analysis Complete" ↔ ¬tree.TakesQuery ∧ ¬∃ rows, tree.ListsRows rows ∧ 50 < rows

theorem Hint.onInsertion {tree : Node} {s : InsertStatement} (made : tree.toInsert = .ok s) :
    (ofInsert s).OnInsertion tree := by
  obtain ⟨takesQuery, listsRows⟩ := Node.toInsert_source made
  by_cases query : tree.TakesQuery
  · have value : ofInsert s = insertSelect := if_pos (takesQuery.mpr query)
    have none : ¬∃ rows, tree.ListsRows rows ∧ 50 < rows := fun ⟨rows, lists, _⟩ => lists.not_takesQuery query
    rw [value]
    exact {
      info := rfl
      query := iff_of_true rfl query
      many := iff_of_false (by simp [insertSelect]) none
      counted := fun rows lists _ => absurd query lists.not_takesQuery
      basic := iff_of_false (by simp [insertSelect]) fun h => h.1 query }
  · have noQuery : ¬s.source.isSome = true := mt takesQuery.mp query
    by_cases many : ∃ rows, tree.ListsRows rows ∧ 50 < rows
    · obtain ⟨rows, lists, large⟩ := many
      have value : ofInsert s = largeValues rows := by
        rw [ofInsert, if_neg noQuery, (listsRows rows).mpr lists]
        exact if_pos large
      rw [value]
      exact {
        info := rfl
        query := iff_of_false (by simp [largeValues]) query
        many := iff_of_true rfl ⟨rows, lists, large⟩
        counted := fun other again _ => by rw [lists.unique again]; rfl
        basic := iff_of_false (by simp [largeValues]) fun h => h.2 ⟨rows, lists, large⟩ }
    · have value : ofInsert s = basicAnalysis "INSERT" := by
        rw [ofInsert, if_neg noQuery]
        cases counted : s.valuesRowCount with
        | none => rfl
        | some rows => exact if_neg fun large => many ⟨rows, (listsRows rows).mp counted, large⟩
      rw [value]
      exact {
        info := rfl
        query := iff_of_false (by simp [basicAnalysis]) query
        many := iff_of_false (by simp [basicAnalysis]) many
        counted := fun rows lists large => absurd ⟨rows, lists, large⟩ many
        basic := iff_of_true rfl ⟨query, many⟩ }

/-! ## All other statements -/

/-- The name of the statement's kind: the keyword of a command, or else the name of the class. -/
def Node.IsOfKind (n : Node) (kind : String) : Prop :=
  (n.cls = .command → ∃ keyword, (n.arg "this").display = .ok keyword ∧ kind = Text.upper keyword) ∧
  (n.cls ≠ .command → kind = Text.upper n.cls.name)

theorem Node.toOther_kindName {n : Node} {s : OtherStatement} (made : n.toOther = .ok s) : n.IsOfKind s.kindName := by
  simp only [toOther, kindName, Except.bind_eq_ok] at made
  obtain ⟨_, _, kind, isKind, _, _, made⟩ := made
  cases made
  by_cases command : n.cls = .command
  · rw [if_pos command] at isKind
    obtain ⟨keyword, shown, isKind⟩ := Except.bind_eq_ok.mp isKind
    cases isKind
    exact ⟨fun _ => ⟨keyword, shown, rfl⟩, fun other => absurd command other⟩
  · rw [if_neg command] at isKind
    cases isKind
    exact ⟨fun isCommand => absurd isCommand command, fun _ => rfl⟩

/-! ## The analysis -/

theorem Analysis.hints_ofStatement {statement : Statement} {analysed : Logged Analysis}
    (h : ofStatement statement = .ok analysed) :
    let usages := statement.usages (.ofRefs statement.tables)
    ∃ hints, Hint.ofStatement statement usages (statement.statistics (some usages)) = .ok hints ∧
      analysed.value.hints = hints.value ∧ ∀ record ∈ analysed.log, record.source = .hints → record ∈ hints.log := by
  intro usages
  obtain ⟨aliases, built, h⟩ := Except.bind_eq_ok.mp h
  obtain ⟨rfl, -⟩ := Statement.aliasMap_eq_ok built
  obtain ⟨extracted, extracts, h⟩ := Except.bind_eq_ok.mp h
  obtain ⟨hints, given, h⟩ := Except.bind_eq_ok.mp h
  cases h
  rw [Statement.extractUsages_value extracts] at given
  refine ⟨hints, given, rfl, fun record mem ofHints => ?_⟩
  rcases List.mem_append.mp mem with early | mem
  · rw [Statement.extractUsages] at extracts
    split at extracts <;> cases extracts
    rw [List.mem_singleton.mp early] at ofHints
    cases ofHints
  · exact mem

/-- The hint on a modification of a named table is the one that its condition calls for, as the table has a record. -/
theorem Analysis.onModification {tree target : Node} {statement : Statement} {table : String}
    {analysed : Logged Analysis} {hint : Hint} (modifies : tree.cls.Modifies) (read : Statement.ofNode tree = .ok statement)
    (held : tree.arg "this" = .node target) (called : target.IsTableCalled table)
    (analyses : ofStatement statement = .ok analysed) (hints : analysed.value.hints = [hint]) :
    hint.OnModification tree statement table ∧ ∀ record ∈ analysed.log, record.source ≠ .hints := by
  obtain ⟨given, value, same, logged⟩ := hints_ofStatement analyses
  obtain ⟨target?, condition, isTarget, isCondition, told, made⟩ := Statement.ofNode_modifies modifies read
  have refs := Statement.ofNode_modification modifies read
  obtain ⟨rfl, reads⟩ := Statement.ofNode_reads (.inr (.inr modifies)) read
  have among : table ∈ statement.tableNames := by
    refine Statement.mem_tableNames.mpr ((Node.names_modificationTables refs (ofStatement_value analyses).1).mpr ?_)
    exact ⟨target, Node.mem_nodes_of_mem_children (Node.mem_children_of_arg held), .inl held.symm, .inl called⟩
  obtain ⟨usage, found, exact, allNamed⟩ := Statement.wrapped_exact reads among
  have named : target? = some table := by
    rw [held, Node.targetName?, if_pos called.1, called.2.2] at isTarget
    exact (Except.ok.inj isTarget).symm
  have text : Statement.targetText target? = table := by
    rw [named]
    exact if_neg (by simpa using called.ne_empty)
  rw [text] at told
  rw [made] at value
  obtain ⟨sole, ofRecord, mapped⟩ := Except.bind_eq_ok.mp value
  cases mapped
  obtain ⟨silent, outcome⟩ := Hint.ofModification_value (statement.structural_eq _ told) found ofRecord
  have isHint : hint = sole.value := List.singleton_inj.mp (hints.symm.trans same)
  refine ⟨isHint ▸ Hint.onModification isCondition exact allNamed outcome, fun record mem ofHints => ?_⟩
  have inLog : record ∈ sole.log := logged record mem ofHints
  rw [silent] at inLog
  cases inLog

/-- The analysis of a regular statement that is no query succeeds, and whenever that of a statement that is no query
    does, it has one hint. On an update or a deletion of a named table, this is the hint that the condition calls for;
    no search for the record of the target fails, which the hint rules would log. On an insertion it is the one that
    its source calls for. On anything else it names the kind of the statement. -/
theorem one_hint_unless_query {tree : Node} {statement : Statement} (notQuery : ¬tree.cls.IsQuery)
    (read : Statement.ofNode tree = .ok statement) :
    (statement.IsRegular → ∃ analysed, Analysis.ofStatement statement = .ok analysed) ∧
    ∀ analysed, Analysis.ofStatement statement = .ok analysed →
      ∃ hint, analysed.value.hints = [hint] ∧
        (tree.cls.Modifies → ∀ target table, tree.arg "this" = .node target → target.IsTableCalled table →
          hint.OnModification tree statement table ∧ ∀ record ∈ analysed.log, record.source ≠ .hints) ∧
        (tree.cls = .insert → hint.OnInsertion tree) ∧
        (¬tree.cls.Modifies → tree.cls ≠ .insert → ∃ kind, tree.IsOfKind kind ∧
          hint.IsTitled .info "DDL/Custom Statement" ∧ hint.explanation = "Statement type: " ++ kind) := by
  refine ⟨fun regular => ?total, fun analysed analyses => ?hint⟩
  case total =>
    obtain ⟨analysed, analyses, -⟩ := Analysis.ofStatement_total regular
    exact ⟨analysed, analyses⟩
  case hint =>
    obtain ⟨hints, given, same, -⟩ := Analysis.hints_ofStatement analyses
    by_cases modifies : tree.cls.Modifies
    · obtain ⟨_, condition, -, -, -, made⟩ := Statement.ofNode_modifies modifies read
      rw [made] at given
      obtain ⟨hint, -, mapped⟩ := Except.bind_eq_ok.mp given
      cases mapped
      refine ⟨hint.value, same, fun _ target table held called => ?_, fun insert => ?_,
        fun other => absurd modifies other⟩
      · exact Analysis.onModification modifies read held called analyses same
      · simp [NodeClass.Modifies, insert] at modifies
    · cases Statement.isMadeOf read with
      | insert cls made =>
          cases given
          exact ⟨_, same, fun h => absurd h modifies, fun _ => Hint.onInsertion made, fun _ other => absurd cls other⟩
      | other _ notInsert _ _ made =>
          cases given
          refine ⟨_, same, fun h => absurd h modifies, fun insert => absurd insert notInsert, fun _ _ => ?_⟩
          exact ⟨_, Node.toOther_kindName made, ⟨rfl, rfl⟩, rfl⟩
      | select query => exact absurd query notQuery
      | update cls => exact absurd (.inl cls) modifies
      | delete cls => exact absurd (.inr cls) modifies

/-- `DELETE FROM users WHERE LOWER(name) = 'ann'` -/
def callingDelete : Node :=
  let column : Node := .mk .column [("this", .node (.mk .identifier [("this", .text "name")] none))] none
  let text : Node := .mk .literal [("this", .text "ann"), ("is_string", .flag true)] none
  let condition : Node :=
    .mk .eq [("this", .node (.mk .lower [("this", .node column)] none)), ("expression", .node text)] none
  .mk .delete
    [("this", .node (plainTable "users")), ("where", .node (.mk .whereClause [("this", .node condition)] none))]
    (some "DELETE FROM users WHERE LOWER(name) = 'ann'")

theorem callingDelete_read :
    ∃ statement, Statement.ofNode callingDelete = .ok statement ∧ statement.tables = [⟨"users", none⟩] := by
  have reads : (Statement.ofNode callingDelete).map (·.tables) = .ok [⟨"users", none⟩] := by with_unfolding_all rfl
  exact Except.map_eq_ok.mp reads

theorem callingDelete_wraps {statement : Statement} (tables : statement.tables = [⟨"users", none⟩]) :
    ∃ place ∈ callingDelete.places, statement.Wraps "users" place ∧ place.node.columnName? = some "name" := by
  have found : callingDelete.places.any (fun place =>
      place.above.map (·.node.cls) = [.delete, .whereClause, .eq, .lower] && place.node.isPlainColumn &&
        place.qualifier = "" && place.node.columnName? = some "name") = true := by with_unfolding_all rfl
  obtain ⟨place, mem, facts⟩ := List.any_eq_true.mp found
  simp only [Bool.and_eq_true, decide_eq_true_eq] at facts
  obtain ⟨⟨⟨above, column⟩, unqualified⟩, named⟩ := facts
  have below {property : NodeClass → Prop} (h : ∃ c ∈ [NodeClass.delete, .whereClause, .eq, .lower], property c) :
      place.IsBelow property := by
    rw [← above] at h
    simpa [Place.IsBelow] using h
  refine ⟨place, mem, ⟨column, ?_, below ⟨_, .tail _ (.head _), rfl⟩, below ⟨.lower, by simp, by decide⟩⟩, named⟩
  rw [unqualified, resolve_unqualified, tables]
  rfl

theorem one_hint_unless_query_callingDelete : ∃ statement analysed hint names,
    Statement.ofNode callingDelete = .ok statement ∧ Analysis.ofStatement statement = .ok analysed ∧
      analysed.value.hints = [hint] ∧ hint.IsTitled .warn "Function on WHERE Column(s)" ∧
      hint.ListsColumns names ∧ "name" ∈ names := by
  obtain ⟨statement, read, tables⟩ := callingDelete_read
  obtain ⟨total, sole⟩ := one_hint_unless_query (by decide) read
  obtain ⟨node, -⟩ := Statement.ofNode_reads (.inr (.inr (.inr rfl))) read
  have plain : ∀ ref ∈ statement.tables, ref.hasOddAlias = false := by
    rw [tables]
    decide
  have bare : ∀ part ∈ statement.clauseParts, part = .null := by
    cases Statement.isMadeOf read with
    | select query => exact absurd query (by decide)
    | _ => exact fun _ mem => nomatch mem
  obtain ⟨analysed, analyses⟩ := total (Statement.isRegular_of_bare node (by with_unfolding_all rfl) plain bare)
  obtain ⟨hint, only, onModification, -⟩ := sole analysed analyses
  have called : (plainTable "users").IsTableCalled "users" := isPlainTable_plainTable.isTableCalled (by decide)
  obtain ⟨modification, -⟩ := onModification (.inr rfl) _ _ rfl called
  obtain ⟨place, mem, wraps, named⟩ := callingDelete_wraps tables
  have given : callingDelete.whereCondition ≠ .ok .null := nofun
  have isTitled := modification.wrapped.mpr ⟨given, place, mem, wraps⟩
  obtain ⟨names, told, -, lists, -⟩ := modification.lists isTitled
  have isListed := (lists "name").mpr ⟨place, mem, wraps, named⟩
  exact ⟨statement, analysed, hint, names, read, analyses, only, isTitled, told, isListed⟩

end SqlAdvisor
