/-! # Dictionaries in order of insertion

A dictionary lists its entries in the order in which their keys were first written. Writing a key again
changes its value and leaves its place, so no key occurs twice.
-/

namespace SqlAdvisor

/-- Entries with distinct keys. -/
structure Dictionary (κ : Type u) (α : Type v) where
  entries : List (κ × α)
  nodup : (entries.map Prod.fst).Nodup

namespace Dictionary

variable {κ : Type u} {α : Type v}

def empty : Dictionary κ α := ⟨[], .nil⟩

instance : EmptyCollection (Dictionary κ α) := ⟨empty⟩
instance : Inhabited (Dictionary κ α) := ⟨empty⟩

def keys (d : Dictionary κ α) : List κ := d.entries.map Prod.fst

/-- The values, in the order of their keys. -/
def values (d : Dictionary κ α) : List α := d.entries.map Prod.snd

def size (d : Dictionary κ α) : Nat := d.entries.length

def isEmpty (d : Dictionary κ α) : Bool := d.entries.isEmpty

def mapValues {β : Type w} (f : α → β) (d : Dictionary κ α) : Dictionary κ β :=
  ⟨d.entries.map fun (key, value) => (key, f value), by simpa [Function.comp_def] using d.nodup⟩

@[simp] theorem keys_mapValues {β : Type w} (f : α → β) (d : Dictionary κ α) :
    (d.mapValues f).keys = d.keys := by
  simp [keys, mapValues, Function.comp_def]

variable [DecidableEq κ]

def find? (d : Dictionary κ α) (key : κ) : Option α := d.entries.lookup key

def contains (d : Dictionary κ α) (key : κ) : Bool := (d.find? key).isSome

/-- An entry written into a list of entries: in the place of its key, or else at the end. -/
def write (key : κ) (value : α) : List (κ × α) → List (κ × α)
  | [] => [(key, value)]
  | entry :: rest => if entry.1 = key then (key, value) :: rest else entry :: write key value rest

theorem keys_write (key : κ) (value : α) (entries : List (κ × α)) :
    (write key value entries).map Prod.fst =
      if key ∈ entries.map Prod.fst then entries.map Prod.fst else entries.map Prod.fst ++ [key] := by
  induction entries with
  | nil => simp [write]
  | cons entry rest ih =>
    by_cases eq : entry.1 = key
    · simp [write, eq]
    · have ne : key ≠ entry.1 := fun h => eq h.symm
      simp only [write, eq, if_false, List.map_cons, ih, List.mem_cons, ne, false_or]
      split <;> simp

theorem lookup_write (key other : κ) (value : α) (entries : List (κ × α)) :
    (write key value entries).lookup other =
      if other = key then some value else entries.lookup other := by
  induction entries with
  | nil =>
    by_cases h : other = key <;>
      simp [write, List.lookup_cons, List.lookup_nil, h, beq_eq_false_iff_ne.mpr]
  | cons entry rest ih =>
    obtain ⟨first, held⟩ := entry
    by_cases eq : first = key
    · subst eq
      by_cases h : other = first <;> simp [write, List.lookup_cons, h, beq_eq_false_iff_ne.mpr]
    · by_cases h : other = first
      · subst h
        simp [write, eq]
      · simp [write, eq, List.lookup_cons, ih, h, beq_eq_false_iff_ne.mpr]

private theorem nodup_write {key : κ} {value : α} {entries : List (κ × α)}
    (h : (entries.map Prod.fst).Nodup) : ((write key value entries).map Prod.fst).Nodup := by
  rw [keys_write]
  split
  · exact h
  · rename_i notIn
    refine List.nodup_append.mpr ⟨h, by simp, fun x hx y hy eq => notIn ?_⟩
    exact List.mem_singleton.mp hy ▸ eq ▸ hx

def insert (d : Dictionary κ α) (key : κ) (value : α) : Dictionary κ α :=
  ⟨write key value d.entries, nodup_write d.nodup⟩

def erase (d : Dictionary κ α) (key : κ) : Dictionary κ α :=
  ⟨d.entries.filter fun entry => entry.1 ≠ key, d.nodup.sublist (List.filter_sublist.map _)⟩

/-- The dictionary that a list of entries writes, one after the other. -/
def ofList (entries : List (κ × α)) : Dictionary κ α :=
  entries.foldl (fun d entry => d.insert entry.1 entry.2) empty

/-- The value of a key replaced by `f` of it, where an absent one counts as `default`. -/
def update (d : Dictionary κ α) (key : κ) (default : α) (f : α → α) : Dictionary κ α :=
  d.insert key (f ((d.find? key).getD default))

theorem keys_insert (d : Dictionary κ α) (key : κ) (value : α) :
    (d.insert key value).keys = if key ∈ d.keys then d.keys else d.keys ++ [key] :=
  keys_write key value d.entries

@[simp] theorem find?_empty (key : κ) : (empty : Dictionary κ α).find? key = none := rfl

theorem find?_insert (d : Dictionary κ α) (key other : κ) (value : α) :
    (d.insert key value).find? other = if other = key then some value else d.find? other :=
  lookup_write key other value d.entries

end Dictionary

end SqlAdvisor
