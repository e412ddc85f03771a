import SqlAdvisor.Statement.Basic

/-! # The tables that a tree refers to

Queries and modifications name their tables in certain clauses; for other statements every table of the
tree counts, the upper levels first.
-/

namespace SqlAdvisor

def nonEmpty? (s : String) : Option String :=
  if s.isEmpty then none else some s

namespace Node

/-- A part of a dotted name, or nothing if it is not given. Only texts can be joined. -/
def namePart? (part : Argument) : Except Fault (Option String) :=
  match part with
  | .text value => .ok (nonEmpty? value)
  | other => if other.truthy then .error .wrongType else .ok none

/-- The dotted name of a table: catalog, schema and name, as far as they are given. -/
def tableName (n : Node) : Except Fault String := do
  let name ← n.name
  let parts ← [n.named "catalog", n.named "db", name].mapM namePart?
  return ".".intercalate (parts.filterMap id)

def givenAlias? (n : Node) : Except Fault (Option Label) := do
  let given ← n.aliasName
  if !given.truthy then return none
  match given.label? with
  | some label => return some label
  | none => throw .lacksMember

/-- The child under an argument; anything else there is a fault. -/
def requireNode : Argument → Except Fault Node
  | .node child => .ok child
  | _ => .error .lacksMember

/-- The table that a source refers to: a named table, or a derived one under its alias. -/
def sourceRef? (source : Argument) : Except Fault (Option TableRef) := do
  match source with
  | .node n =>
    if n.cls = .table then
      if !(← n.name).truthy then return none
      return some ⟨← n.tableName, ← n.givenAlias?⟩
    else if n.cls = .subquery then
      return (← n.givenAlias?).map fun given => ⟨given.text?.getD "", some given⟩
    else return none
  | _ => return none

/-- The tables that the sources refer to, in order. -/
def sourceRefs (sources : List Argument) : Except Fault (List TableRef) := do
  return (← sources.mapM sourceRef?).filterMap id

/-- The argument of a clause whose name is a reserved word, which may end in an underscore. -/
def clause (n : Node) (name : String) : Argument :=
  match n.arg name with
  | .null => n.arg (name ++ "_")
  | given => given

/-- The tables of the `FROM` clause and of the joins. -/
def fromTables (n : Node) : Except Fault (List TableRef) := do
  let listed ←
    match n.clause "from" with
    | .null => pure []
    | given =>
      let listing ← requireNode given
      sourceRefs (listing.arg "this" :: (← listing.items "expressions"))
  let joins ← (← n.items "joins").mapM requireNode
  let joined ← sourceRefs (joins.map fun join => join.arg "this")
  return listed ++ joined

/-- The tables that a modification refers to: its target, its `FROM` clause and joins, and the sources
    after `USING`. -/
def modificationTables (n : Node) : Except Fault (List TableRef) := do
  let target ← sourceRef? (n.arg "this")
  let others ← n.fromTables
  let used ← sourceRefs (← n.items "using")
  return target.toList ++ others ++ used

def nextLevel (level : List Node) : List Node := level.flatMap children

private theorem size_nextLevel_lt {level : List Node} (h : level ≠ []) :
    total size (nextLevel level) < total size level := by
  have bound : ∀ nodes : List Node,
      total size (nodes.flatMap children) + nodes.length = total size nodes := by
    intro nodes
    induction nodes with
    | nil => rfl
    | cons n rest ih =>
      simp only [List.flatMap_cons, total_append, total_cons, List.length_cons]
      have := n.size_eq
      omega
  have := bound level
  have := List.length_pos_iff.mpr h
  rw [nextLevel]
  omega

/-- The nodes of some trees, level by level. -/
def levelOrder (level : List Node) : List Node :=
  if _h : level = [] then []
  else level ++ levelOrder (nextLevel level)
termination_by total size level
decreasing_by exact size_nextLevel_lt _h

/-- The references without those whose name an earlier one has. -/
def distinctRefs (refs : List TableRef) : List TableRef :=
  refs.foldl (fun kept ref => if kept.any fun k => k.name = ref.name then kept else kept ++ [ref]) []

/-- Every named table of the tree, once. -/
def allTables (n : Node) : Except Fault (List TableRef) := do
  let found := (levelOrder [n]).filter fun m => m.cls = .table
  let refs ← found.mapM fun m => sourceRef? (.node m)
  return distinctRefs (refs.filterMap id)

end Node

end SqlAdvisor
