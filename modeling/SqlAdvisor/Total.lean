/-! # Totals

The total of a measure over a list. Recursions over several trees at once end because the total of their
sizes falls.
-/

namespace SqlAdvisor

/-- The sum of `measure` over the members of a list. -/
def total {α : Type u} (measure : α → Nat) : List α → Nat
  | [] => 0
  | x :: rest => measure x + total measure rest

variable {α : Type u} {β : Type v} (measure : α → Nat)

@[simp] theorem total_nil : total measure [] = 0 := rfl

@[simp] theorem total_cons (x : α) (rest : List α) :
    total measure (x :: rest) = measure x + total measure rest := rfl

@[simp] theorem total_append (first second : List α) :
    total measure (first ++ second) = total measure first + total measure second := by
  induction first with
  | nil => simp
  | cons x rest ih => simp [ih, Nat.add_assoc]

@[simp] theorem total_map (f : β → α) (items : List β) :
    total measure (items.map f) = total (fun item => measure (f item)) items := by
  induction items with
  | nil => rfl
  | cons item rest ih => simp [ih]

theorem le_total_of_mem {x : α} {items : List α} (h : x ∈ items) : measure x ≤ total measure items := by
  induction items with
  | nil => cases h
  | cons item rest ih =>
    rcases List.mem_cons.mp h with rfl | h
    · simp
    · exact Nat.le_trans (ih h) (by simp)

end SqlAdvisor
