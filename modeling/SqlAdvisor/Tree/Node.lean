import SqlAdvisor.Numeral.Decimal
import SqlAdvisor.Total
import SqlAdvisor.Tree.NodeClass

/-! # Syntax trees

A node has a class and named arguments, in the order in which its children are read. An argument holds a
child, a list of children, or plain data. `size` counts the nodes of a tree; every walk over a tree ends
because a child is smaller than its parent.
-/

namespace SqlAdvisor

mutual

/-- A node of a syntax tree, with its SQL text where that is known. -/
inductive Node where
  | mk (cls : NodeClass) (arguments : List (String × Argument)) (sql? : Option String)

/-- What an argument of a node holds. -/
inductive Argument where
  | null
  | flag (value : Bool)
  | number (value : Int)
  /-- A floating number, by its text. -/
  | float (shown : String)
  | text (value : String)
  | node (child : Node)
  | list (items : List Argument)

end

namespace Argument

instance : Inhabited Argument := ⟨.null⟩

/-- The child that the argument holds directly. -/
def node? : Argument → Option Node
  | .node child => some child
  | _ => none

def children : Argument → List Node
  | .node child => [child]
  | .list items => items.filterMap node?
  | _ => []

/-- Whether the argument is null or absent. -/
def isNull : Argument → Bool
  | .null => true
  | _ => false

/-- Whether the argument counts as given: it is neither null, false, zero nor empty. -/
def truthy : Argument → Bool
  | .null => false
  | .flag value => value
  | .number value => value ≠ 0
  | .float shown =>
    match Numeral.decimal? shown.toList with
    | some value => !value.isZero
    | none => true
  | .text value => !value.isEmpty
  | .node _ => true
  | .list items => !items.isEmpty

end Argument

namespace Node

instance : Inhabited Node := ⟨.mk .nullLiteral [] none⟩

def cls : Node → NodeClass
  | .mk cls _ _ => cls

def arguments : Node → List (String × Argument)
  | .mk _ arguments _ => arguments

/-- The node's own SQL text, where it is known. -/
def sql? : Node → Option String
  | .mk _ _ sql? => sql?

/-- The argument of a name, which is null when it is absent. -/
def arg (n : Node) (name : String) : Argument :=
  (n.arguments.lookup name).getD .null

/-- The child that an argument holds directly. -/
def child? (n : Node) (name : String) : Option Node :=
  (n.arg name).node?

/-- The children, each with the name of the argument that holds it. -/
def namedChildren (n : Node) : List (String × Node) :=
  n.arguments.flatMap fun (name, argument) => argument.children.map (name, ·)

def children (n : Node) : List Node :=
  n.namedChildren.map Prod.snd

end Node

mutual

/-- The number of nodes of a tree. -/
def Node.size : Node → Nat
  | .mk _ arguments _ => 1 + Node.argumentsSize arguments

/-- The number of nodes below a list of named arguments. -/
def Node.argumentsSize : List (String × Argument) → Nat
  | [] => 0
  | (_, argument) :: rest => argument.size + Node.argumentsSize rest

/-- The number of nodes that an argument holds, below its children and with them. -/
def Argument.size : Argument → Nat
  | .node child => child.size
  | .list items => Argument.itemsSize items
  | _ => 0

/-- The number of nodes below the children that stand in a list, and with them. -/
def Argument.itemsSize : List Argument → Nat
  | [] => 0
  | .node child :: rest => child.size + Argument.itemsSize rest
  | _ :: rest => Argument.itemsSize rest

end

namespace Argument

theorem itemsSize_eq (items : List Argument) :
    itemsSize items = total Node.size (items.filterMap node?) := by
  induction items with
  | nil => rfl
  | cons item rest ih => cases item <;> simp [itemsSize, node?, List.filterMap_cons, ih]

theorem size_eq (argument : Argument) : argument.size = total Node.size argument.children := by
  cases argument <;> simp [size, children, itemsSize_eq]

end Argument

namespace Node

theorem size_eq (n : Node) : n.size = 1 + total size n.children := by
  obtain ⟨cls, arguments, sql?⟩ := n
  simp only [size, children, namedChildren, Node.arguments]
  congr 1
  induction arguments with
  | nil => rfl
  | cons first rest ih =>
    obtain ⟨name, argument⟩ := first
    simp [argumentsSize, Argument.size_eq, ih, Function.comp_def]

theorem size_pos (n : Node) : 0 < n.size := by
  rw [size_eq]
  omega

theorem size_lt_of_mem_children {n child : Node} (h : child ∈ n.children) : child.size < n.size := by
  have := le_total_of_mem size h
  rw [size_eq n]
  omega

theorem mem_children_of_child? {n child : Node} {name : String} (h : n.child? name = some child) :
    child ∈ n.children := by
  simp only [child?, arg] at h
  cases found : n.arguments.lookup name with
  | none => simp [found, Argument.node?] at h
  | some argument =>
    cases argument with
    | node inner =>
      simp only [found, Option.getD_some, Argument.node?, Option.some.injEq] at h
      subst h
      obtain ⟨name', mem⟩ : ∃ name', (name', Argument.node inner) ∈ n.arguments := by
        obtain ⟨before, after, eq, _⟩ := List.lookup_eq_some_iff.mp found
        exact ⟨name, by simp [eq]⟩
      simp only [children, namedChildren, List.map_flatMap, List.mem_flatMap]
      exact ⟨_, mem, by simp [Argument.children]⟩
    | _ => simp [found, Argument.node?] at h

theorem size_lt_of_child? {n child : Node} {name : String} (h : n.child? name = some child) :
    child.size < n.size :=
  size_lt_of_mem_children (mem_children_of_child? h)

end Node

end SqlAdvisor
