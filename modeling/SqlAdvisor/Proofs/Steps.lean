import Mathlib.Data.List.Forall2

/-! # Computations in steps

A computation that can fail gives a result if each of its steps does.
-/

namespace SqlAdvisor

variable {α β ε : Type} {x : Except ε α}

theorem Except.bind_eq_ok {f : α → Except ε β} {result : β} :
    x >>= f = .ok result ↔ ∃ value, x = .ok value ∧ f value = .ok result := by
  cases x with
  | error fault => simp [bind, Except.bind]
  | ok value => simp [bind, Except.bind]

theorem Except.bind_eq_error {f : α → Except ε β} {fault : ε} :
    x >>= f = .error fault ↔ x = .error fault ∨ ∃ value, x = .ok value ∧ f value = .error fault := by
  cases x with
  | error other => simp [bind, Except.bind]
  | ok value => simp [bind, Except.bind]

theorem Except.bind_succeeds {f : α → Except ε β} (first : ∃ value, x = .ok value)
    (second : ∀ value, ∃ result, f value = .ok result) : ∃ result, x >>= f = .ok result := by
  obtain ⟨value, rfl⟩ := first
  exact second value

theorem Except.bind_total {f : α → Except ε β} {property : α → Prop}
    (first : ∃ value, x = .ok value ∧ property value)
    (second : ∀ value, property value → ∃ result, f value = .ok result) : ∃ result, x >>= f = .ok result := by
  obtain ⟨value, rfl, h⟩ := first
  exact second value h

theorem Except.map_eq_ok {f : α → β} {result : β} :
    x.map f = .ok result ↔ ∃ value, x = .ok value ∧ f value = result := by
  cases x with
  | error fault => simp [Except.map]
  | ok value => simp [Except.map]

theorem Except.map_eq_error {f : α → β} {fault : ε} : x.map f = .error fault ↔ x = .error fault := by
  cases x with
  | error fault => simp [Except.map]
  | ok value => simp [Except.map]

/-- A computation along a list fails at the first item where its step does. -/
theorem Except.foldlM_eq_error {f : β → α → Except ε β} {items : List α} {start : β} {fault : ε} :
    items.foldlM f start = .error fault ↔
      ∃ before item after state, items = before ++ item :: after ∧ before.foldlM f start = .ok state ∧
        f state item = .error fault := by
  induction items generalizing start with
  | nil => simp [pure, Except.pure]
  | cons first rest ih =>
      rw [List.foldlM_cons, bind_eq_error]
      constructor
      · rintro (fails | ⟨next, steps, fails⟩)
        · exact ⟨[], first, rest, start, rfl, rfl, fails⟩
        · obtain ⟨before, item, after, state, rfl, reaches, fails⟩ := ih.mp fails
          exact ⟨first :: before, item, after, state, rfl, by rw [List.foldlM_cons, steps]; exact reaches, fails⟩
      · rintro ⟨before, item, after, state, split, reaches, fails⟩
        rcases List.cons_eq_append_iff.mp split with ⟨rfl, same⟩ | ⟨others, rfl, rfl⟩
        · cases same
          cases reaches
          exact .inl fails
        · obtain ⟨next, steps, reaches⟩ := bind_eq_ok.mp reaches
          exact .inr ⟨next, steps, ih.mpr ⟨others, item, after, state, rfl, reaches, fails⟩⟩

theorem Except.mapM_total {f : α → Except ε β} {items : List α} (each : ∀ item ∈ items, ∃ value, f item = .ok value) :
    ∃ values, items.mapM f = .ok values := by
  induction items with
  | nil => exact ⟨[], rfl⟩
  | cons item rest ih =>
      obtain ⟨⟨value, first⟩, others⟩ := List.forall_mem_cons.mp each
      obtain ⟨values, rest⟩ := ih others
      exact ⟨value :: values, by rw [List.mapM_cons, first, rest]; rfl⟩

theorem Except.mapM_eq_ok {f : α → Except ε β} {items : List α} {values : List β} :
    items.mapM f = .ok values ↔ List.Forall₂ (fun item value => f item = .ok value) items values := by
  induction items generalizing values with
  | nil =>
      rw [List.mapM_nil, List.forall₂_nil_left_iff]
      exact ⟨fun h => (Except.ok.inj h).symm, fun h => h ▸ rfl⟩
  | cons item rest ih =>
      simp only [List.mapM_cons, bind_eq_ok, List.forall₂_cons_left_iff, ih]
      constructor
      · rintro ⟨value, first, others, rest, h⟩
        exact ⟨value, others, first, rest, (Except.ok.inj h).symm⟩
      · rintro ⟨value, others, first, rest, rfl⟩
        exact ⟨value, first, others, rest, rfl⟩

/-- In two lists that are related item by item, each item has a partner in the other list. -/
theorem forall₂_partners {related : α → β → Prop} {items : List α} {values : List β}
    (pairs : List.Forall₂ related items values) :
    (∀ item ∈ items, ∃ value ∈ values, related item value) ∧ ∀ value ∈ values, ∃ item ∈ items, related item value := by
  induction pairs with
  | nil => simp
  | cons first _ ih =>
      obtain ⟨ofItems, ofValues⟩ := ih
      refine ⟨List.forall_mem_cons.mpr ⟨⟨_, .head _, first⟩, fun item mem => ?_⟩,
        List.forall_mem_cons.mpr ⟨⟨_, .head _, first⟩, fun value mem => ?_⟩⟩
      · obtain ⟨value, held, h⟩ := ofItems item mem
        exact ⟨value, .tail _ held, h⟩
      · obtain ⟨item, held, h⟩ := ofValues value mem
        exact ⟨item, .tail _ held, h⟩

theorem Except.mem_mapM {f : α → Except ε β} {items : List α} {values : List β} (h : items.mapM f = .ok values) :
    (∀ item ∈ items, ∃ value ∈ values, f item = .ok value) ∧ ∀ value ∈ values, ∃ item ∈ items, f item = .ok value :=
  forall₂_partners (mapM_eq_ok.mp h)

end SqlAdvisor
