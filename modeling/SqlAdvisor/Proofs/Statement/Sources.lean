import Mathlib.Data.List.Induction
import SqlAdvisor.Proofs.Statement.Query
import SqlAdvisor.Proofs.Traversal.Place
import SqlAdvisor.Usage.Extraction

/-! # Which tables a statement refers to

An insertion refers to every table with a name in its tree, and so does a statement of no kind of its own. An update or
a deletion refers to its sources only: its target, and what stands in its `FROM` clause, its joins and after `USING`.
Those may be derived tables, too.
-/

namespace SqlAdvisor

/-- The classes of the trees that modify rows in place. -/
def NodeClass.Modifies (c : NodeClass) : Prop := c = .update ∨ c = .delete

namespace Node

/-- The node is a table that has a name, and goes by the full one. -/
def IsTableCalled (n : Node) (table : String) : Prop :=
  n.cls = .table ∧ (∃ given, n.name = .ok given ∧ given.truthy = true) ∧ n.tableName = .ok table

theorem IsPlainTable.isTableCalled {n : Node} {table : String} (plain : n.IsPlainTable table) (named : table ≠ "") :
    n.IsTableCalled table :=
  ⟨plain.cls, ⟨_, plain.name_eq, by simp [Argument.truthy, named]⟩, plain.tableName_eq named⟩

theorem namePart?_truthy {part : Argument} {part? : Option String} (read : namePart? part = .ok part?)
    (truthy : part.truthy = true) : ∃ value, value ≠ "" ∧ part? = some value := by
  cases part with
  | text value =>
      cases read
      have given : value ≠ "" := by simpa [Argument.truthy] using truthy
      exact ⟨value, given, by simp [nonEmpty?, given]⟩
  | _ => simp [namePart?, truthy] at read

theorem IsTableCalled.ne_empty {n : Node} {table : String} (called : n.IsTableCalled table) : table ≠ "" := by
  obtain ⟨-, ⟨given, named, truthy⟩, isName⟩ := called
  obtain ⟨_, same, isName⟩ := Except.bind_eq_ok.mp isName
  cases named.symm.trans same
  obtain ⟨parts, listed, isName⟩ := Except.bind_eq_ok.mp isName
  cases isName
  simp only [Except.mapM_eq_ok, List.forall₂_cons_left_iff, List.forall₂_nil_left_iff] at listed
  obtain ⟨catalog?, _, -, ⟨schema?, _, -, ⟨name?, _, last, rfl, rfl⟩, rfl⟩, rfl⟩ := listed
  obtain ⟨name, nonempty, rfl⟩ := namePart?_truthy last truthy
  cases catalog? <;> cases schema? <;> simp [String.intercalate_cons_cons, nonempty]

/-- The node is a derived table of the alias. -/
def IsDerivedCalled (n : Node) (table : String) : Prop :=
  n.cls = .subquery ∧ n.givenAlias? = .ok (some (.text table))

/-- The argument stands in the `FROM` clause. -/
def IsListed (root : Node) (source : Argument) : Prop :=
  ∃ listing, root.clause "from" = .node listing ∧
    (source = listing.arg "this" ∨ ∃ items, listing.items "expressions" = .ok items ∧ source ∈ items)

/-- The argument is what a join adds. -/
def IsJoined (root : Node) (source : Argument) : Prop :=
  ∃ items join, root.items "joins" = .ok items ∧ .node join ∈ items ∧ source = join.arg "this"

/-- The argument stands in the list after `USING`. -/
def IsUsed (root : Node) (source : Argument) : Prop := ∃ items, root.items "using" = .ok items ∧ source ∈ items

/-- The argument is a source of a modification. -/
def IsSource (root : Node) (source : Argument) : Prop :=
  source = root.arg "this" ∨ (root.IsListed source ∨ root.IsJoined source) ∨ root.IsUsed source

/-- A table goes by the name somewhere in the tree. -/
def Mentions (root : Node) (table : String) : Prop := ∃ n ∈ root.nodes, n.IsTableCalled table

theorem IsTableCalled.mentions {n : Node} {table : String} (called : n.IsTableCalled table) : n.Mentions table :=
  ⟨n, n.self_mem_nodes, called⟩

theorem Mentions.of_mem_children {n child : Node} {table : String} (mentions : child.Mentions table)
    (isChild : child ∈ n.children) : n.Mentions table := by
  obtain ⟨inner, below, called⟩ := mentions
  exact ⟨inner, mem_nodes_trans (mem_nodes_of_mem_children isChild) below, called⟩

/-- A source of the modification is a table of the name, or a derived table with it as the alias. -/
def Draws (root : Node) (table : String) : Prop :=
  ∃ n ∈ root.nodes, root.IsSource (.node n) ∧ (n.IsTableCalled table ∨ n.IsDerivedCalled table)

theorem mem_children_of_mem_arg {n child : Node} {name : String} (h : child ∈ (n.arg name).children) :
    child ∈ n.children := by
  rw [arg] at h
  cases found : n.arguments.lookup name with
  | none =>
      rw [found] at h
      cases h
  | some argument =>
      rw [found] at h
      obtain ⟨before, after, eq, -⟩ := List.lookup_eq_some_iff.mp found
      have held : (name, argument) ∈ n.arguments := by simp [eq]
      exact List.mem_map.mpr ⟨(name, child), List.mem_flatMap.mpr ⟨_, held, List.mem_map_of_mem h⟩, rfl⟩

theorem mem_children_of_arg {n child : Node} {name : String} (held : n.arg name = .node child) :
    child ∈ n.children := by
  have only : child ∈ (n.arg name).children := by
    rw [held]
    exact List.mem_singleton_self child
  exact mem_children_of_mem_arg only

/-! ## The tables of a tree -/

/-- Level by level, every node of the trees is met, and no other. -/
theorem mem_levelOrder {level : List Node} {n : Node} : n ∈ levelOrder level ↔ ∃ root ∈ level, n ∈ root.nodes := by
  fun_induction levelOrder level with
  | case1 => simp
  | case2 level nonempty ih =>
      rw [List.mem_append, ih]
      simp only [nextLevel, List.mem_flatMap]
      constructor
      · rintro (mem | ⟨child, ⟨root, mem, isChild⟩, below⟩)
        · exact ⟨n, mem, n.self_mem_nodes⟩
        · exact ⟨root, mem, mem_nodes_trans (mem_nodes_of_mem_children isChild) below⟩
      · rintro ⟨root, mem, below⟩
        rw [nodes_eq] at below
        rcases List.mem_cons.mp below with rfl | below
        · exact .inl mem
        · obtain ⟨child, isChild, below⟩ := List.mem_flatMap.mp below
          exact .inr ⟨child, ⟨root, mem, isChild⟩, below⟩

theorem mem_names_distinctRefs {refs : List TableRef} {table : String} :
    table ∈ (distinctRefs refs).map (·.name) ↔ table ∈ refs.map (·.name) := by
  rw [distinctRefs]
  induction refs using List.reverseRecOn with
  | nil => rfl
  | append_singleton refs ref ih =>
      rw [List.foldl_append, List.map_append, List.mem_append, ← ih]
      simp only [List.foldl_cons, List.foldl_nil, List.map_cons, List.map_nil, List.mem_singleton]
      generalize List.foldl _ [] refs = kept
      split
      · rename_i old
        obtain ⟨earlier, mem, same⟩ := List.any_eq_true.mp old
        refine ⟨.inl, fun h => h.elim id ?_⟩
        rintro rfl
        exact List.mem_map.mpr ⟨earlier, mem, of_decide_eq_true same⟩
      · simp

/-! ## One source -/

section Source

variable {n : Node} {found : Option TableRef} {table : String}

theorem sourceRef?_table (isTable : n.cls = .table) (read : sourceRef? (.node n) = .ok found) :
    (∃ ref, found = some ref ∧ ref.name = table) ↔ n.IsTableCalled table := by
  simp only [sourceRef?, isTable, if_true] at read
  obtain ⟨given, named, read⟩ := Except.bind_eq_ok.mp read
  rw [IsTableCalled, named]
  split at read
  · rename_i missing
    cases read
    simp only [Bool.not_eq_true'] at missing
    simp [missing]
  · rename_i present
    obtain ⟨name, isName, read⟩ := Except.bind_eq_ok.mp read
    obtain ⟨given?, -, read⟩ := Except.bind_eq_ok.mp read
    cases read
    rw [isName]
    simp only [Bool.not_eq_true', Bool.not_eq_false] at present
    simp [isTable, present]

theorem givenAlias?_truthy {label : Label} (given : n.givenAlias? = .ok (some label)) : label.truthy = true := by
  obtain ⟨argument, -, given⟩ := Except.bind_eq_ok.mp given
  split at given
  · cases given
  · rename_i truthy
    simp only [Bool.not_eq_true', Bool.not_eq_false] at truthy
    cases argument <;> simp only [Argument.label?, pure, Except.pure, Except.ok.injEq, Option.some.injEq] at given
    case node => cases given
    case list => cases given
    all_goals
      subst given
      exact truthy

theorem IsDerivedCalled.ne_empty (called : n.IsDerivedCalled table) : table ≠ "" := by
  rintro rfl
  exact nomatch givenAlias?_truthy called.2

theorem sourceRef?_derived (derived : n.cls = .subquery) (read : sourceRef? (.node n) = .ok found)
    (plain : ∀ ref ∈ found, ref.hasOddAlias = false) :
    (∃ ref, found = some ref ∧ ref.name = table) ↔ n.IsDerivedCalled table := by
  simp only [sourceRef?, derived, reduceCtorEq, if_false, if_true] at read
  obtain ⟨alias?, given, read⟩ := Except.bind_eq_ok.mp read
  cases read
  rw [IsDerivedCalled, given]
  cases alias? with
  | none => simp
  | some label =>
      have truthy := givenAlias?_truthy given
      have isText := plain _ rfl
      simp only [TableRef.hasOddAlias, truthy, Bool.true_and] at isText
      cases label with
      | text name => simp [derived, Label.text?]
      | _ => simp [Label.text?] at isText

/-- What a source refers to is a table with a name, or a derived table with an alias. -/
theorem sourceRef?_name (read : sourceRef? (.node n) = .ok found) (plain : ∀ ref ∈ found, ref.hasOddAlias = false) :
    (∃ ref, found = some ref ∧ ref.name = table) ↔ n.IsTableCalled table ∨ n.IsDerivedCalled table := by
  by_cases isTable : n.cls = .table
  · rw [sourceRef?_table isTable read]
    exact ⟨.inl, fun h => h.elim id fun derived => by simp [isTable, IsDerivedCalled] at derived⟩
  · have notTable : ¬n.IsTableCalled table := fun h => isTable h.1
    by_cases derived : n.cls = .subquery
    · rw [sourceRef?_derived derived read plain]
      exact ⟨.inr, fun h => h.resolve_left notTable⟩
    · simp only [sourceRef?, isTable, derived, if_false] at read
      cases read
      simp [notTable, IsDerivedCalled, derived]

end Source

/-! ## Several sources -/

/-- The references are those of the sources with the property, which can all be read. -/
structure RefsOf (property : Argument → Prop) (refs : List TableRef) : Prop where
  exists_source : ∀ ref ∈ refs, ∃ source, property source ∧ sourceRef? source = .ok (some ref)
  reads : ∀ source, property source → ∃ found, sourceRef? source = .ok found ∧ ∀ ref ∈ found, ref ∈ refs

namespace RefsOf

variable {property other : Argument → Prop} {refs more : List TableRef} {table : String}

theorem append (first : RefsOf property refs) (second : RefsOf other more) :
    RefsOf (fun source => property source ∨ other source) (refs ++ more) where
  exists_source ref mem := by
    rcases List.mem_append.mp mem with mem | mem
    · obtain ⟨source, holds, read⟩ := first.exists_source ref mem
      exact ⟨source, .inl holds, read⟩
    · obtain ⟨source, holds, read⟩ := second.exists_source ref mem
      exact ⟨source, .inr holds, read⟩
  reads source holds := by
    rcases holds with holds | holds
    · obtain ⟨found, read, among⟩ := first.reads source holds
      exact ⟨found, read, fun ref mem => List.mem_append_left _ (among ref mem)⟩
    · obtain ⟨found, read, among⟩ := second.reads source holds
      exact ⟨found, read, fun ref mem => List.mem_append_right _ (among ref mem)⟩

theorem congr (refsOf : RefsOf property refs) (same : ∀ source, other source ↔ property source) :
    RefsOf other refs := by
  rwa [funext fun source => propext (same source)]

theorem nil (never : ∀ source, ¬property source) : RefsOf property [] :=
  ⟨fun _ mem => (nomatch mem), fun source holds => absurd holds (never source)⟩

theorem singleton {source : Argument} {found : Option TableRef} (read : sourceRef? source = .ok found) :
    RefsOf (· = source) found.toList where
  exists_source _ mem := ⟨source, rfl, Option.mem_toList.mp mem ▸ read⟩
  reads _ same := ⟨found, same ▸ read, fun _ => Option.mem_toList.mpr⟩

theorem sourceRefs {sources : List Argument} (read : Node.sourceRefs sources = .ok refs) :
    RefsOf (· ∈ sources) refs := by
  obtain ⟨found, mapped, read⟩ := Except.bind_eq_ok.mp read
  cases read
  obtain ⟨ofSources, ofFound⟩ := Except.mem_mapM mapped
  refine ⟨fun ref mem => ?_, fun source mem => ?_⟩
  · obtain ⟨_, mem, rfl⟩ := List.mem_filterMap.mp mem
    exact ofFound _ mem
  · obtain ⟨found?, held, read⟩ := ofSources source mem
    exact ⟨found?, read, fun ref isRef => List.mem_filterMap.mpr ⟨found?, held, isRef⟩⟩

theorem mem_names (refsOf : RefsOf property refs) (plain : ∀ ref ∈ refs, ref.hasOddAlias = false) :
    table ∈ refs.map (·.name) ↔ ∃ n, property (.node n) ∧ (n.IsTableCalled table ∨ n.IsDerivedCalled table) := by
  rw [List.mem_map]
  constructor
  · rintro ⟨ref, mem, named⟩
    obtain ⟨source, holds, read⟩ := refsOf.exists_source ref mem
    cases source with
    | node n =>
        refine ⟨n, holds, (sourceRef?_name read ?_).mp ⟨ref, rfl, named⟩⟩
        exact fun _ same => Option.some.inj same ▸ plain ref mem
    | _ => cases read
  · rintro ⟨n, holds, called⟩
    obtain ⟨found, read, among⟩ := refsOf.reads _ holds
    obtain ⟨ref, rfl, named⟩ := (sourceRef?_name read fun ref mem => plain ref (among ref mem)).mpr called
    exact ⟨ref, among ref rfl, named⟩

end RefsOf

/-! ## The sources of a modification -/

theorem requireNode_eq_ok {argument : Argument} {n : Node} : requireNode argument = .ok n ↔ argument = .node n := by
  cases argument <;> simp [requireNode]

/-- The tables of the `FROM` clause. -/
def listedTables (n : Node) : Except Fault (List TableRef) := do
  match n.clause "from" with
  | .null => return []
  | given =>
    let listing ← requireNode given
    sourceRefs (listing.arg "this" :: (← listing.items "expressions"))

/-- The tables of the joins. -/
def joinedTables (n : Node) : Except Fault (List TableRef) := do
  let joins ← (← n.items "joins").mapM requireNode
  sourceRefs (joins.map fun join => join.arg "this")

section Modification

variable {root : Node} {refs : List TableRef} {table : String}

theorem fromTables_eq : root.fromTables = do
    let listed ← root.listedTables
    let joined ← root.joinedTables
    return listed ++ joined := by
  rw [fromTables, listedTables]
  cases root.clause "from" <;> simp only [joinedTables, bind_assoc, pure_bind]

theorem refsOf_listedTables (read : root.listedTables = .ok refs) : RefsOf root.IsListed refs := by
  rw [listedTables] at read
  split at read
  · rename_i missing
    cases read
    exact .nil fun source ⟨listing, isNode, _⟩ => nomatch missing.symm.trans isNode
  · obtain ⟨listing, isNode, read⟩ := Except.bind_eq_ok.mp read
    obtain ⟨items, isItems, read⟩ := Except.bind_eq_ok.mp read
    refine (RefsOf.sourceRefs read).congr fun source => ?_
    simp [IsListed, requireNode_eq_ok.mp isNode, isItems]

theorem refsOf_joinedTables (read : root.joinedTables = .ok refs) : RefsOf root.IsJoined refs := by
  obtain ⟨items, isItems, read⟩ := Except.bind_eq_ok.mp read
  obtain ⟨joins, isJoins, read⟩ := Except.bind_eq_ok.mp read
  obtain ⟨ofItems, ofJoins⟩ := Except.mem_mapM isJoins
  refine (RefsOf.sourceRefs read).congr fun source => ?_
  rw [List.mem_map]
  constructor
  · rintro ⟨items', join, isItems', held, rfl⟩
    cases isItems.symm.trans isItems'
    obtain ⟨join', mem, isNode⟩ := ofItems _ held
    cases requireNode_eq_ok.mp isNode
    exact ⟨_, mem, rfl⟩
  · rintro ⟨join, mem, rfl⟩
    obtain ⟨item, held, isNode⟩ := ofJoins join mem
    exact ⟨items, join, isItems, requireNode_eq_ok.mp isNode ▸ held, rfl⟩

theorem refsOf_fromTables (read : root.fromTables = .ok refs) :
    RefsOf (fun source => root.IsListed source ∨ root.IsJoined source) refs := by
  rw [fromTables_eq] at read
  obtain ⟨listed, ofListed, read⟩ := Except.bind_eq_ok.mp read
  obtain ⟨joined, ofJoined, read⟩ := Except.bind_eq_ok.mp read
  cases read
  exact (refsOf_listedTables ofListed).append (refsOf_joinedTables ofJoined)

theorem refsOf_modificationTables (read : root.modificationTables = .ok refs) : RefsOf root.IsSource refs := by
  obtain ⟨target?, ofTarget, read⟩ := Except.bind_eq_ok.mp read
  obtain ⟨others, ofOthers, read⟩ := Except.bind_eq_ok.mp read
  obtain ⟨items, isUsing, read⟩ := Except.bind_eq_ok.mp read
  obtain ⟨used, ofUsed, read⟩ := Except.bind_eq_ok.mp read
  cases read
  have ofFrom := refsOf_fromTables ofOthers
  refine (((RefsOf.singleton ofTarget).append ofFrom).append (.sourceRefs ofUsed)).congr fun source => ?_
  simp [IsSource, IsUsed, isUsing, or_assoc]

theorem mem_children_of_mem_items {n child : Node} {items : List Argument} {name : String}
    (isItems : n.items name = .ok items) (mem : .node child ∈ items) : child ∈ n.children := by
  rw [Node.items] at isItems
  split at isItems
  case h_1 held =>
      cases isItems
      have inList : child ∈ (n.arg name).children := by
        rw [held]
        exact List.mem_filterMap.mpr ⟨_, mem, rfl⟩
      exact mem_children_of_mem_arg inList
  case h_2 =>
      cases isItems
      simp at mem
  case h_3 =>
      split at isItems <;> cases isItems
      cases mem

theorem mem_children_of_clause {n child : Node} {name : String} (held : n.clause name = .node child) :
    child ∈ n.children := by
  rw [clause] at held
  split at held <;> exact mem_children_of_arg held

theorem mem_nodes_of_isSource {n : Node} (source : root.IsSource (.node n)) : n ∈ root.nodes := by
  have ofArg {parent : Node} {name : String} (held : .node n = parent.arg name) : n ∈ parent.nodes :=
    mem_nodes_of_mem_children (mem_children_of_arg held.symm)
  rcases source with target | (⟨listing, isFrom, source⟩ | ⟨items, join, isItems, mem, source⟩) | ⟨items, isItems, mem⟩
  · exact ofArg target
  · refine mem_nodes_trans (mem_nodes_of_mem_children (mem_children_of_clause isFrom)) ?_
    rcases source with first | ⟨items, isItems, mem⟩
    · exact ofArg first
    · exact mem_nodes_of_mem_children (mem_children_of_mem_items isItems mem)
  · exact mem_nodes_trans (mem_nodes_of_mem_children (mem_children_of_mem_items isItems mem)) (ofArg source)
  · exact mem_nodes_of_mem_children (mem_children_of_mem_items isItems mem)

/-- The names of the tables that a modification refers to are those of its sources. -/
theorem names_modificationTables (read : root.modificationTables = .ok refs)
    (plain : ∀ ref ∈ refs, ref.hasOddAlias = false) : table ∈ refs.map (·.name) ↔ root.Draws table := by
  rw [(refsOf_modificationTables read).mem_names plain, Draws]
  exact exists_congr fun n => (and_iff_right_of_imp fun source => mem_nodes_of_isSource source.1).symm

/-- The names of the tables that a tree has are those that its tables go by. -/
theorem names_allTables (read : root.allTables = .ok refs) : table ∈ refs.map (·.name) ↔ root.Mentions table := by
  obtain ⟨found, ofTables, read⟩ := Except.bind_eq_ok.mp read
  cases read
  obtain ⟨ofNodes, ofFound⟩ := Except.mem_mapM ofTables
  have isTable {n : Node} :
      n ∈ (levelOrder [root]).filter (fun m => m.cls = .table) ↔ n ∈ root.nodes ∧ n.cls = .table := by
    simp [mem_levelOrder]
  rw [mem_names_distinctRefs, List.mem_map, Mentions]
  simp only [List.mem_filterMap, id]
  constructor
  · rintro ⟨ref, ⟨_, mem, rfl⟩, called⟩
    obtain ⟨n, held, read⟩ := ofFound _ mem
    obtain ⟨inTree, cls⟩ := isTable.mp held
    exact ⟨n, inTree, (sourceRef?_table cls read).mp ⟨ref, rfl, called⟩⟩
  · rintro ⟨n, inTree, called⟩
    obtain ⟨found?, mem, read⟩ := ofNodes n (isTable.mpr ⟨inTree, called.1⟩)
    obtain ⟨ref, rfl, named⟩ := (sourceRef?_table called.1 read).mpr called
    exact ⟨ref, ⟨_, mem, rfl⟩, named⟩

end Modification

end Node

/-! ## The tables of a statement -/

namespace Node

variable {n : Node}

/-- What an insertion fills, and in how many columns if they are listed. -/
def insertionTarget (n : Node) : Except Fault (Argument × Nat) :=
  match n.child? "this" with
  | some schema =>
    if schema.cls = .schema then return (schema.arg "this", (← schema.items "expressions").length)
    else return (n.arg "this", 0)
  | none => return (n.arg "this", 0)

/-- The number of rows that an insertion lists. -/
def listedRowCount (n : Node) : Except Fault (Option Nat) :=
  match n.child? "expression" with
  | some source =>
    if source.cls = .values then return some (← source.items "expressions").length else return none
  | none => return none

theorem toInsert_eq : n.toInsert = do
    let sql ← n.sql
    let (target, columnCount) ← n.insertionTarget
    let valuesRowCount ← n.listedRowCount
    let query? := (n.child? "expression").filter fun source =>
      source.cls = .select || source.cls = .subquery || source.cls.isSetOperation
    return {
      node := n
      sql := sql
      tables := ← n.allTables
      target := ← targetName? target
      columnCount := columnCount
      source := query?
      valuesRowCount := valuesRowCount } := by
  rw [toInsert, insertionTarget, listedRowCount]
  rcases n.child? "this" with _ | schema <;> rcases n.child? "expression" with _ | source
  · simp
  · by_cases isValues : source.cls = .values <;> simp [isValues]
  · by_cases isSchema : schema.cls = .schema <;> simp [isSchema]
  · by_cases isSchema : schema.cls = .schema <;> by_cases isValues : source.cls = .values <;> simp [isSchema, isValues]

theorem toInsert_tables {statement : InsertStatement} (h : n.toInsert = .ok statement) :
    n.allTables = .ok statement.tables := by
  simp only [toInsert_eq, Except.bind_eq_ok] at h
  obtain ⟨_, _, _, _, _, _, tables, isTables, _, _, h⟩ := h
  cases h
  exact isTables

theorem toUpdate_tables {statement : UpdateStatement} (h : n.toUpdate = .ok statement) :
    n.modificationTables = .ok statement.tables := by
  simp only [toUpdate, Except.bind_eq_ok] at h
  obtain ⟨_, _, tables, isTables, _, _, _, _, _, _, h⟩ := h
  cases h
  exact isTables

theorem toDelete_tables {statement : DeleteStatement} (h : n.toDelete = .ok statement) :
    n.modificationTables = .ok statement.tables := by
  simp only [toDelete, Except.bind_eq_ok] at h
  obtain ⟨_, _, tables, isTables, _, _, _, _, h⟩ := h
  cases h
  exact isTables

theorem toOther_tables {statement : OtherStatement} (h : n.toOther = .ok statement) :
    n.allTables = .ok statement.tables := by
  simp only [toOther, Except.bind_eq_ok] at h
  obtain ⟨_, _, _, _, tables, isTables, h⟩ := h
  cases h
  exact isTables

end Node

namespace Statement

variable {tree : Node} {statement : Statement}

theorem ofNode_modification (modifies : tree.cls.Modifies) (read : ofNode tree = .ok statement) :
    tree.modificationTables = .ok statement.tables := by
  cases isMadeOf read with
  | update _ made => exact Node.toUpdate_tables made
  | delete _ made => exact Node.toDelete_tables made
  | select query => rcases modifies with cls | cls <;> simp [NodeClass.IsQuery, cls, NodeClass.isSetOperation] at query
  | insert cls => simp [NodeClass.Modifies, cls] at modifies
  | other _ _ notUpdate notDelete => exact absurd modifies (not_or.mpr ⟨notUpdate, notDelete⟩)

theorem ofNode_whole (notQuery : ¬tree.cls.IsQuery) (notModification : ¬tree.cls.Modifies)
    (read : ofNode tree = .ok statement) :
    tree.allTables = .ok statement.tables ∧ statement.readsColumns = false := by
  cases isMadeOf read with
  | insert _ made => exact ⟨Node.toInsert_tables made, rfl⟩
  | other _ _ _ _ made => exact ⟨Node.toOther_tables made, rfl⟩
  | select query => exact absurd query notQuery
  | update cls => exact absurd (.inl cls) notModification
  | delete cls => exact absurd (.inr cls) notModification

theorem ne_empty_of_mem_names (read : ofNode tree = .ok statement)
    (plain : ∀ ref ∈ statement.tables, ref.hasOddAlias = false) {table : String}
    (mem : table ∈ statement.tables.map (·.name)) : table ≠ "" := by
  by_cases query : tree.cls.IsQuery
  · obtain ⟨s, rfl, made⟩ := ofNode_query query read
    obtain ⟨leftmost, -, shows⟩ := Node.toSelect_shows made
    obtain ⟨n, -, called⟩ := ((Node.refsOf_fromTables shows.tables).mem_names plain).mp mem
    exact called.elim Node.IsTableCalled.ne_empty Node.IsDerivedCalled.ne_empty
  · by_cases modifies : tree.cls.Modifies
    · obtain ⟨n, -, -, called⟩ := (Node.names_modificationTables (ofNode_modification modifies read) plain).mp mem
      exact called.elim Node.IsTableCalled.ne_empty Node.IsDerivedCalled.ne_empty
    · obtain ⟨n, -, called⟩ := (Node.names_allTables (ofNode_whole query modifies read).1).mp mem
      exact called.ne_empty

end Statement

end SqlAdvisor
