/-! # Sets of names

A set of names is its members in increasing order of code points. Two sets with the same members are
equal, so comparing sets is comparing members, and printing a set in order needs no sorting.
-/

namespace SqlAdvisor

/-- A finite set of names, kept strictly increasing. -/
structure NameSet where
  toList : List String
  increasing : toList.Pairwise (· < ·)
  deriving DecidableEq

namespace NameSet

/-- A name put at its place in an increasing list, unless it is there already. -/
def place (name : String) : List String → List String
  | [] => [name]
  | first :: rest =>
    if name < first then name :: first :: rest
    else if name = first then first :: rest
    else first :: place name rest

theorem mem_place {name x : String} {names : List String} :
    x ∈ place name names ↔ x = name ∨ x ∈ names := by
  induction names with
  | nil => simp [place]
  | cons first rest ih =>
    simp only [place]
    split
    · simp
    · split
      · rename_i eq; subst eq; simp
      · simp only [List.mem_cons, ih]
        constructor
        · rintro (h | h | h) <;> simp [h]
        · rintro (h | h | h) <;> simp [h]

theorem place_increasing {name : String} {names : List String} (h : names.Pairwise (· < ·)) :
    (place name names).Pairwise (· < ·) := by
  induction names with
  | nil => simp [place]
  | cons first rest ih =>
    obtain ⟨below, tail⟩ := List.pairwise_cons.mp h
    simp only [place]
    split
    · rename_i lt
      refine List.pairwise_cons.mpr ⟨fun x hx => ?_, h⟩
      rcases List.mem_cons.mp hx with rfl | hx
      · exact lt
      · exact String.lt_trans lt (below x hx)
    · split
      · exact h
      · rename_i notLt ne
        refine List.pairwise_cons.mpr ⟨fun x hx => ?_, ih tail⟩
        rcases mem_place.mp hx with rfl | hx
        · exact Std.lt_of_le_of_ne (String.not_lt.mp notLt) (fun eq => ne eq.symm)
        · exact below x hx

def empty : NameSet := ⟨[], .nil⟩

def insert (s : NameSet) (name : String) : NameSet :=
  ⟨place name s.toList, place_increasing s.increasing⟩

def ofList (names : List String) : NameSet :=
  names.foldl insert empty

def union (s t : NameSet) : NameSet :=
  t.toList.foldl insert s

def size (s : NameSet) : Nat := s.toList.length

def isEmpty (s : NameSet) : Bool := s.toList.isEmpty

def contains (s : NameSet) (name : String) : Bool := s.toList.contains name

instance : Membership String NameSet := ⟨fun s name => name ∈ s.toList⟩
instance : EmptyCollection NameSet := ⟨empty⟩
instance : Inhabited NameSet := ⟨empty⟩

theorem mem_toList {s : NameSet} {name : String} : name ∈ s.toList ↔ name ∈ s := Iff.rfl

@[simp] theorem not_mem_empty {name : String} : name ∉ (∅ : NameSet) := List.not_mem_nil

@[simp] theorem mem_insert {s : NameSet} {name x : String} :
    x ∈ s.insert name ↔ x = name ∨ x ∈ s := mem_place

private theorem mem_foldl_insert {names : List String} {s : NameSet} {x : String} :
    x ∈ names.foldl insert s ↔ x ∈ s ∨ x ∈ names := by
  induction names generalizing s with
  | nil => simp
  | cons name rest ih =>
    rw [List.foldl_cons, ih, mem_insert, List.mem_cons]
    constructor
    · rintro ((h | h) | h) <;> simp [h]
    · rintro (h | h | h) <;> simp [h]

@[simp] theorem mem_ofList {names : List String} {x : String} : x ∈ ofList names ↔ x ∈ names := by
  rw [ofList, mem_foldl_insert]
  exact ⟨fun h => h.resolve_left not_mem_empty, .inr⟩

@[simp] theorem mem_union {s t : NameSet} {x : String} : x ∈ s.union t ↔ x ∈ s ∨ x ∈ t :=
  mem_foldl_insert

@[simp] theorem contains_iff {s : NameSet} {name : String} : s.contains name = true ↔ name ∈ s := by
  simp [contains, mem_toList]

private theorem eq_of_mem_iff : ∀ {xs ys : List String}, xs.Pairwise (· < ·) → ys.Pairwise (· < ·) →
    (∀ x, x ∈ xs ↔ x ∈ ys) → xs = ys
  | [], [], _, _, _ => rfl
  | [], y :: _, _, _, h => absurd ((h y).mpr (by simp)) (by simp)
  | x :: _, [], _, _, h => absurd ((h x).mp (by simp)) (by simp)
  | x :: xs, y :: ys, hx, hy, h => by
    obtain ⟨belowX, tailX⟩ := List.pairwise_cons.mp hx
    obtain ⟨belowY, tailY⟩ := List.pairwise_cons.mp hy
    have heads : x = y := by
      rcases List.mem_cons.mp ((h x).mp (by simp)) with eq | inYs
      · exact eq
      · rcases List.mem_cons.mp ((h y).mpr (by simp)) with eq | inXs
        · exact eq.symm
        · exact absurd (belowX y inXs) (String.lt_asymm (belowY x inYs))
    subst heads
    refine congrArg (x :: ·) (eq_of_mem_iff tailX tailY fun z => ?_)
    constructor
    · intro hz
      rcases List.mem_cons.mp ((h z).mp (List.mem_cons_of_mem _ hz)) with rfl | hz'
      · exact absurd (belowX z hz) (String.lt_irrefl z)
      · exact hz'
    · intro hz
      rcases List.mem_cons.mp ((h z).mpr (List.mem_cons_of_mem _ hz)) with rfl | hz'
      · exact absurd (belowY z hz) (String.lt_irrefl z)
      · exact hz'

theorem ext {s t : NameSet} (h : ∀ x, x ∈ s ↔ x ∈ t) : s = t := by
  cases s with
  | mk xs hx =>
    cases t with
    | mk ys hy =>
      have eq : xs = ys := eq_of_mem_iff hx hy h
      subst eq
      rfl

end NameSet

end SqlAdvisor
