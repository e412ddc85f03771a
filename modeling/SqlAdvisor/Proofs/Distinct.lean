import Mathlib.Data.List.Induction
import Mathlib.Data.List.Nodup

/-! # Lists without repetitions

Of equal items of a list the first one is kept. A list that is read one item after the other is so known from what is
kept of the items so far.
-/

namespace SqlAdvisor

variable {α β : Type} [BEq α] [LawfulBEq α]

theorem eraseDups_concat (items : List α) (item : α) :
    (items ++ [item]).eraseDups = if item ∈ items then items.eraseDups else items.eraseDups ++ [item] := by
  rw [List.eraseDups_append]
  split
  · rename_i old
    simp [List.cons_removeAll, old]
  · rename_i new
    simp [List.cons_removeAll, new]
    rfl

theorem nodup_eraseDups (items : List α) : items.eraseDups.Nodup := by
  induction items using List.reverseRecOn with
  | nil => exact .nil
  | append_singleton items item ih =>
      rw [eraseDups_concat]
      split
      · exact ih
      · rename_i new
        refine List.nodup_append.mpr ⟨ih, List.nodup_singleton item, fun kept mem last isLast => ?_⟩
        rintro rfl
        exact new (List.mem_singleton.mp isLast ▸ List.mem_eraseDups.mp mem)

theorem find?_eraseDups (property : α → Bool) (items : List α) :
    items.eraseDups.find? property = items.find? property := by
  induction items using List.reverseRecOn with
  | nil => rfl
  | append_singleton items item ih =>
      rw [eraseDups_concat, List.find?_append]
      split
      · rename_i old
        rw [ih]
        cases found : items.find? property with
        | some first => rfl
        | none =>
            have lacks : ¬property item = true := List.find?_eq_none.mp found item old
            simp [lacks]
      · rw [List.find?_append, ih]

/-- Renaming the items without making different ones equal changes nothing in what is kept. -/
theorem map_eraseDups [BEq β] [LawfulBEq β] {f : α → β} (injective : f.Injective) (items : List α) :
    (items.map f).eraseDups = items.eraseDups.map f := by
  induction items using List.reverseRecOn with
  | nil => rfl
  | append_singleton items item ih =>
      have old : f item ∈ items.map f ↔ item ∈ items := List.mem_map_of_injective injective
      rw [List.map_append, List.map_singleton, eraseDups_concat, eraseDups_concat, ih]
      by_cases mem : item ∈ items
      · rw [if_pos mem, if_pos (old.mpr mem)]
      · rw [if_neg mem, if_neg (mt old.mp mem), List.map_append, List.map_singleton]

end SqlAdvisor
