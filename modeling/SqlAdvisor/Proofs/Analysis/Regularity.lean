import SqlAdvisor.Analysis
import SqlAdvisor.Proofs.Usage.Extraction

/-! # Regular statements

A parser puts texts where a node names or quotes something, and nodes where a clause has parts. A statement of
that shape can be analysed, and each column in its records has a name.
-/

namespace SqlAdvisor

/-- Whether what the node names or quotes is a text. -/
def Node.isRegular (n : Node) : Bool :=
  (n.cls ≠ .column || (n.named "table").text?.isSome) &&
  (!n.isPlainColumn || (n.named "this").text?.isSome) &&
  (!n.isStringLiteral || (n.arg "this").text?.isSome)

namespace Statement

/-- The parts of the clauses that are looked into by themselves. -/
def clauseParts : Statement → List Argument
  | select s => s.condition :: (s.groupBy ++ s.orderBy)
  | _ => []

/-- The statement is one that a parser makes. -/
structure IsRegular (statement : Statement) : Prop where
  nodes : ∀ n ∈ statement.node.nodes, n.isRegular = true
  aliases : ∀ ref ∈ statement.tables, ref.hasOddAlias = false
  parts : ∀ part ∈ statement.clauseParts, part = .null ∨ ∃ n ∈ statement.node.nodes, part = .node n

/-- A statement of regular nodes whose clauses have nodes of its tree for parts is regular. -/
theorem isRegular_of_nodes {tree : Node} {statement : Statement} (node : statement.node = tree)
    (nodes : tree.nodes.all Node.isRegular = true) (named : ∀ ref ∈ statement.tables, ref.hasOddAlias = false)
    (parts : ∀ part ∈ statement.clauseParts, part = .null ∨ ∃ n ∈ tree.nodes, part = .node n) :
    statement.IsRegular where
  nodes := by
    rw [node]
    exact fun n mem => List.all_eq_true.mp nodes n mem
  aliases := named
  parts := node ▸ parts

theorem isRegular_of_bare {tree : Node} {statement : Statement} (node : statement.node = tree)
    (nodes : tree.nodes.all Node.isRegular = true) (named : ∀ ref ∈ statement.tables, ref.hasOddAlias = false)
    (bare : ∀ part ∈ statement.clauseParts, part = .null) : statement.IsRegular :=
  isRegular_of_nodes node nodes named fun part mem => .inl (bare part mem)

end Statement

theorem Argument.text?_eq_some {argument : Argument} {text : String} :
    argument.text? = some text ↔ argument = .text text := by
  cases argument <;> simp [text?]

theorem Argument.text?_isSome {argument : Argument} :
    argument.text?.isSome = true ↔ ∃ text, argument = .text text := by
  cases argument <;> simp [text?]

namespace Node

variable {n : Node}

theorem isRegular_iff : n.isRegular = true ↔
    (n.cls = .column → ∃ text, n.named "table" = .text text) ∧
    (n.isPlainColumn = true → ∃ text, n.named "this" = .text text) ∧
    (n.isStringLiteral = true → ∃ text, n.arg "this" = .text text) := by
  simp only [isRegular, Bool.and_eq_true, Bool.or_eq_true, Bool.not_eq_true', decide_eq_true_eq,
    Argument.text?_isSome, ← imp_iff_not_or, ← Bool.not_eq_true, ne_eq, and_assoc]

theorem columnFault?_eq_none (regular : n.isRegular = true) (column : n.cls = .column) :
    n.columnFault? = none := by
  obtain ⟨qualified, named, -⟩ := isRegular_iff.mp regular
  obtain ⟨qualifier, isText⟩ := qualified column
  rw [columnFault?]
  cases plain : n.isPlainColumn with
  | false => simp [isText, Argument.text?]
  | true =>
      obtain ⟨name, isName⟩ := named plain
      simp [isText, isName, Argument.text?, Argument.label?]

theorem columnName?_eq_some (regular : n.isRegular = true) (plain : n.isPlainColumn = true) :
    ∃ name, n.columnName? = some name := by
  obtain ⟨-, named, -⟩ := isRegular_iff.mp regular
  obtain ⟨name, isName⟩ := named plain
  exact ⟨name, by rw [columnName?, isName]; rfl⟩

theorem sql_total (regular : n.isRegular = true) : ∃ written, n.sql = .ok written := by
  obtain ⟨-, -, quoted⟩ := isRegular_iff.mp regular
  rw [sql]
  cases n.sql? with
  | some written => exact ⟨written, rfl⟩
  | none =>
      cases literal : n.isStringLiteral with
      | false => exact ⟨"", rfl⟩
      | true =>
          obtain ⟨text, held⟩ := quoted literal
          exact ⟨quotedLiteral text, by rw [held]; rfl⟩

end Node

/-! ## Records of named columns -/

/-- Every column of the record has a name. -/
def TableUsage.IsNamed (usage : TableUsage) : Prop :=
  ∀ set : UsageSet, (set.columns usage).isNamed = true

/-- Every column of the records has a name. -/
def TableUsages.AreNamed (usages : TableUsages) : Prop :=
  ∀ entry ∈ usages.entries, entry.2.IsNamed

namespace TableUsage

theorem isNamed_empty (aliasUsed : Option Label) : IsNamed { aliasUsed := aliasUsed } := by
  intro set
  cases set <;> rfl

end TableUsage

namespace TableUsages

variable {usages : TableUsages}

theorem AreNamed.insert (named : usages.AreNamed) (key : TableKey) {usage : TableUsage} (h : usage.IsNamed) :
    AreNamed (Dictionary.insert usages key usage) := by
  intro entry mem
  rcases Dictionary.mem_insert mem with rfl | mem
  · exact h
  · exact named entry mem

theorem areNamed_iff : usages.AreNamed ↔ ∀ set key, ¬usages.HoldsNameless set key := by
  constructor
  · rintro named set key ⟨usage, found, nameless⟩
    have isNamed : (set.columns usage).isNamed = true := named _ (Dictionary.mem_entries_of_find? found) set
    exact nomatch isNamed.symm.trans nameless
  · intro named entry mem set
    rw [← Bool.not_eq_false]
    exact fun nameless => named set entry.1 ⟨_, Dictionary.find?_of_mem_entries mem, nameless⟩

end TableUsages

namespace Statement

theorem areNamed_namedTables (statement : Statement) : statement.namedTables.AreNamed := by
  refine List.foldlRecOn (motive := TableUsages.AreNamed) statement.tables _ (fun entry mem => nomatch mem) ?_
  intro usages named ref _
  dsimp only
  split
  · exact named
  · exact named.insert _ (TableUsage.isNamed_empty _)

variable {statement : Statement}

theorem holdsNameless_usages (reads : statement.readsColumns = true) {set : UsageSet} {key : TableKey} :
    (statement.usages (.ofRefs statement.tables)).HoldsNameless set key ↔
      ∃ place ∈ statement.node.places, place.IsColumn ∧
        resolve place.qualifier (.ofRefs statement.tables) statement.tableNames = key ∧
        place.node.columnName? = none ∧ set.Covers place := by
  rw [usages, if_pos reads, walk_observing]
  exact (exactUsage_namedTables statement _).holdsNameless_foldl resolve_mem_tableNames
    (TableUsages.areNamed_iff.mp statement.areNamed_namedTables set key) _

theorem IsRegular.areNamed_usages (regular : statement.IsRegular) :
    (statement.usages (.ofRefs statement.tables)).AreNamed := by
  by_cases reads : statement.readsColumns = true
  · refine TableUsages.areNamed_iff.mpr fun set key nameless => ?_
    obtain ⟨place, mem, column, -, unnamed, -⟩ := (holdsNameless_usages reads).mp nameless
    obtain ⟨name, named⟩ := Node.columnName?_eq_some (regular.nodes _ (List.mem_map_of_mem mem)) column
    exact nomatch unnamed.symm.trans named
  · rw [usages, if_neg reads]
    exact statement.areNamed_namedTables

theorem IsRegular.extractUsages_total (regular : statement.IsRegular) :
    ∃ log, statement.extractUsages (.ofRefs statement.tables) =
      .ok ⟨statement.usages (.ofRefs statement.tables), log⟩ := by
  have noFault : statement.usageFault? (.ofRefs statement.tables) = none := by
    by_cases reads : statement.readsColumns = true
    · refine (usageFault?_eq_none reads regular.aliases).mpr fun place mem counted => ?_
      refine Node.columnFault?_eq_none (regular.nodes _ (List.mem_map_of_mem mem)) ?_
      rcases counted with plain | ⟨_, column⟩
      · simp only [Place.IsColumn, Node.isPlainColumn, Bool.and_eq_true, decide_eq_true_eq] at plain
        exact plain.1
      · exact column
    · rw [usageFault?, if_neg reads, if_neg (not_any_isNameless regular.aliases)]
      rfl
  exact ⟨_, by rw [extractUsages, noFault]⟩

end Statement

/-! ## Hints -/

theorem Statistics.mem_of_find? {entries : List (String × Datum)} {name : String} {value : Datum}
    (found : Dictionary.find? (Dictionary.ofList entries) name = some value) : (name, value) ∈ entries :=
  Dictionary.mem_of_mem_ofList (Dictionary.mem_entries_of_find? found)

theorem SelectStatement.tableCount_isNumber (s : SelectStatement) (usages : TableUsages) :
    ∃ n, ((Statement.statistics (.select s) (some usages)).find? "table_count").getD (.int 0) = .int n := by
  cases found : (Statement.statistics (.select s) (some usages)).find? "table_count" with
  | none => exact ⟨0, rfl⟩
  | some value =>
      have mem := Statistics.mem_of_find? found
      simp [Statement.structural, SelectStatement.statistics] at mem
      exact ⟨_, mem⟩

end SqlAdvisor
