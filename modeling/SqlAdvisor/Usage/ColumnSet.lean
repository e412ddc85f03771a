import SqlAdvisor.Fault
import SqlAdvisor.NameSet
import SqlAdvisor.Tree.Label

/-! # Sets of columns

A column is known by what it is called. That is a name, but a tree may call a column by something that is no
text. Names have an order and so have numbers, but there is none across both, so not every set can be listed.
-/

namespace SqlAdvisor

/-- A set of columns: those with a name, and those called by something else, each once. -/
structure ColumnSet where
  names : NameSet := ∅
  others : List Label := []
  deriving DecidableEq

namespace ColumnSet

instance : EmptyCollection ColumnSet := ⟨{}⟩
instance : Inhabited ColumnSet := ⟨∅⟩

def insert (s : ColumnSet) : Label → ColumnSet
  | .text name => { s with names := s.names.insert name }
  | other => if s.others.any (Label.same other) then s else { s with others := s.others ++ [other] }

def ofList (columns : List Label) : ColumnSet := columns.foldl insert ∅

def size (s : ColumnSet) : Nat := s.names.size + s.others.length

def isEmpty (s : ColumnSet) : Bool := s.names.isEmpty && s.others.isEmpty

def isNamed (s : ColumnSet) : Bool := s.others.isEmpty

def contains (s : ColumnSet) : Label → Bool
  | .text name => s.names.contains name
  | other => s.others.any (Label.same other)

/-- Labels in the order of the numbers that they stand for. Several labels have an order only as numbers. -/
def inNumericOrder : List Label → Except Fault (List Label)
  | [only] => .ok [only]
  | labels => do
    let numbered ← labels.mapM fun label =>
      match label.quanta? with
      | some quanta => .ok (quanta, label)
      | none => .error .wrongType
    return (numbered.mergeSort fun first second => first.1 ≤ second.1).map Prod.snd

/-- The columns in order. Where there are names, all are to be names. -/
def listing (s : ColumnSet) : Except Fault (List Label) :=
  if s.isNamed then .ok (s.names.toList.map .text)
  else if s.names.isEmpty then inNumericOrder s.others
  else .error .wrongType

/-- The names of the columns in order; a column without a name is a fault. -/
def namesInOrder (s : ColumnSet) : Except Fault (List String) :=
  if s.isNamed then .ok s.names.toList else .error .wrongType

instance : Membership String ColumnSet := ⟨fun s name => name ∈ s.names⟩

@[simp] theorem not_mem_empty {name : String} : name ∉ (∅ : ColumnSet) := NameSet.not_mem_empty

@[simp] theorem mem_insert {s : ColumnSet} {label : Label} {x : String} :
    x ∈ s.insert label ↔ label = .text x ∨ x ∈ s := by
  cases label with
  | text name =>
    refine NameSet.mem_insert.trans (or_congr_left ?_)
    rw [Label.text.injEq]
    exact eq_comm
  | _ =>
    simp only [insert, reduceCtorEq, false_or]
    split <;> exact Iff.rfl

end ColumnSet

end SqlAdvisor
