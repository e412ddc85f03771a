import Mathlib
import SqlAdvisor.Text.Case

/-! # Words in any letter case

No character beyond ASCII has an A, L, N or U as its upper case, alone or after its lower case. A word of these capitals
is therefore the upper case of a text exactly if the text is the word in some letter case, and no detour through the
lower case changes that.
-/

namespace SqlAdvisor.Text

/-- The text is the word of capitals, in some letter case. -/
def IsCasing (word s : String) : Prop := s.toList.map Char.toUpper = word.toList

instance (word s : String) : Decidable (IsCasing word s) := inferInstanceAs (Decidable (_ = _))

/-- Capitals that are the upper case of no character beyond ASCII. -/
def plainCapitals : List Char := ['A', 'L', 'N', 'U']

/-! ## The tables -/

/-- No run leads to the character. -/
def misses (runs : List CaseRun) (d : Char) : Bool :=
  runs.all fun run => !run.covers (d.toNat - run.shift).toNat

theorem upperRuns_miss : plainCapitals.all (misses upperRuns) = true := by decide

theorem lowerRuns_miss : plainCapitals.all (misses lowerRuns) = true := by decide

theorem lowerRuns_miss_lower : (plainCapitals.map Char.toLower).all (misses lowerRuns) = true := by decide

theorem upperExpansions_miss :
    upperExpansions.all (fun entry => entry.2.any fun code => !plainCapitals.contains (Char.ofNat code)) = true := by
  decide

theorem plainCapitals_ascii :
    (plainCapitals ++ plainCapitals.map Char.toLower).all (fun d => d.toNat ≠ 0 ∧ d.toNat < 128) = true := by decide

theorem partner?_ne {runs : List CaseRun} {code : Nat} {c d : Char} (missed : misses runs d = true)
    (plain : d ∈ plainCapitals ++ plainCapitals.map Char.toLower) (partner : CaseRun.partner? runs code = some c) :
    c ≠ d := by
  rintro rfl
  have given := List.all_eq_true.mp plainCapitals_ascii c plain
  simp only [decide_eq_true_eq] at given
  obtain ⟨run, found, isPartner⟩ := Option.map_eq_some_iff.mp partner
  have covers := List.find?_some found
  have misses := List.all_eq_true.mp missed run (List.mem_of_find?_eq_some found)
  have shifted : c.toNat = Int.toNat (code + run.shift) := by
    rw [← isPartner, Char.toNat_ofNat] at given ⊢
    split at given
    · rw [if_pos ‹_›]
    · exact absurd rfl given.1
  have same : (c.toNat - run.shift).toNat = code := by omega
  simp [same, covers] at misses

/-! ## Upper case -/

variable {c : Char}

theorem toUpper_ascii (beyond : 128 ≤ c.toNat) : c.toUpper = c := by
  refine Char.toUpper_eq_of_not_isLower ?_
  simp only [Char.isLower, Bool.and_eq_true, decide_eq_true_eq, not_and]
  intro _ below
  have : c.toNat ≤ 122 := below
  omega

theorem not_mem_plainCapitals (beyond : 128 ≤ c.toNat) : c ∉ plainCapitals := by
  intro mem
  have ascii := List.all_eq_true.mp plainCapitals_ascii c (List.mem_append_left _ mem)
  simp only [decide_eq_true_eq] at ascii
  omega

/-- The upper case of a character beyond ASCII is not made of these capitals. -/
theorem upperChar_beyond (beyond : 128 ≤ c.toNat) : ∃ d ∈ upperChar c, d ∉ plainCapitals := by
  rw [upperChar, if_neg (by omega)]
  split
  · rename_i codes found
    obtain ⟨before, after, entries, -⟩ := List.lookup_eq_some_iff.mp found
    have missed := List.all_eq_true.mp upperExpansions_miss (c.toNat, codes) (by simp [entries])
    obtain ⟨code, mem, other⟩ := List.any_eq_true.mp missed
    exact ⟨_, List.mem_map_of_mem mem, by simpa using other⟩
  · refine ⟨_, List.mem_singleton_self _, ?_⟩
    cases partner : CaseRun.partner? upperRuns c.toNat with
    | none => exact not_mem_plainCapitals beyond
    | some d =>
        intro mem
        exact partner?_ne (List.all_eq_true.mp upperRuns_miss d mem) (List.mem_append_left _ mem) partner rfl

/-- A piece of a text in upper case is either the capital of an ASCII character, or has something in it that is none of
    the plain capitals. -/
def Raises (c : Char) (piece : List Char) : Prop :=
  piece = [c.toUpper] ∨ (∃ d ∈ piece, d ∉ plainCapitals) ∧ c.toUpper ∉ plainCapitals

theorem raises_upperChar (c : Char) : Raises c (upperChar c) := by
  by_cases ascii : c.toNat < 128
  · exact .inl (by rw [upperChar, if_pos ascii])
  · have beyond : 128 ≤ c.toNat := Nat.le_of_not_lt ascii
    refine .inr ⟨upperChar_beyond beyond, ?_⟩
    rw [toUpper_ascii beyond]
    exact not_mem_plainCapitals beyond

/-! ## Upper case after lower case -/

theorem toUpper_mem_plainCapitals {d : Char} (mem : d.toUpper ∈ plainCapitals) :
    d ∈ plainCapitals ++ plainCapitals.map Char.toLower := by
  by_cases small : d.isLower = true
  · have same : d.toUpper.toLower = d := by
      rw [Char.toLower_toUpper_eq_toLower]
      exact Char.toLower_eq_of_not_isUpper (Char.not_isUpper_of_isLower small)
    exact List.mem_append_right _ (same ▸ List.mem_map_of_mem mem)
  · rw [Char.toUpper_eq_of_not_isLower small] at mem
    exact List.mem_append_left _ mem

/-- No character beyond ASCII has one of these capitals in the upper case of its lower case. -/
theorem upper_partner_other {c d : Char} (partner : CaseRun.partner? lowerRuns c.toNat = some d) :
    ∃ e ∈ upperChar d, e ∉ plainCapitals := by
  have other : d ∉ plainCapitals ++ plainCapitals.map Char.toLower := by
    intro plain
    refine partner?_ne ?_ plain partner rfl
    rcases List.mem_append.mp plain with capital | small
    · exact List.all_eq_true.mp lowerRuns_miss d capital
    · exact List.all_eq_true.mp lowerRuns_miss_lower d small
  rcases raises_upperChar d with raised | ⟨others, -⟩
  · rw [raised]
    exact ⟨_, List.mem_singleton_self _, mt toUpper_mem_plainCapitals other⟩
  · exact others

theorem raises_lowerChar (c : Char) : Raises c ((lowerChar c).flatMap upperChar) := by
  rw [lowerChar]
  split
  · rw [List.flatMap_singleton, Raises, ← Char.toUpper_toLower_eq_toUpper]
    exact raises_upperChar c.toLower
  · rename_i ascii
    have beyond : 128 ≤ c.toNat := Nat.le_of_not_lt ascii
    have capital : c.toUpper ∉ plainCapitals := by
      rw [toUpper_ascii beyond]
      exact not_mem_plainCapitals beyond
    split
    · exact .inr ⟨⟨'I', by decide +kernel, by decide⟩, capital⟩
    · rw [List.flatMap_singleton]
      cases partner : CaseRun.partner? lowerRuns c.toNat with
      | none => exact raises_upperChar c
      | some d => exact .inr ⟨upper_partner_other partner, capital⟩

/-- However a sigma is lowered, it is raised to a sigma. -/
theorem raises_sigma (final : Bool) : Raises 'Σ' ([if final then 'ς' else 'σ'].flatMap upperChar) := by
  refine .inr ⟨⟨'Σ', ?_, by decide⟩, by decide⟩
  cases final <;> decide +kernel

/-! ## Whole texts -/

theorem exists_pieces_lowerFrom (before text : List Char) :
    ∃ pieces, List.Forall₂ Raises text pieces ∧ (lowerFrom before text).flatMap upperChar = pieces.flatten := by
  induction text generalizing before with
  | nil => exact ⟨[], .nil, rfl⟩
  | cons c rest ih =>
      obtain ⟨pieces, raised, flattened⟩ := ih (c :: before)
      refine ⟨_ :: pieces, .cons ?_ raised, by rw [lowerFrom, List.flatMap_append, flattened, List.flatten_cons]⟩
      split
      · rename_i sigma
        exact sigma ▸ raises_sigma _
      · exact raises_lowerChar c

theorem flatten_of_raises {text : List Char} {pieces : List (List Char)} (raised : List.Forall₂ Raises text pieces)
    (plain : (∀ d ∈ pieces.flatten, d ∈ plainCapitals) ∨ ∀ c ∈ text, c.toUpper ∈ plainCapitals) :
    pieces.flatten = text.map Char.toUpper := by
  induction raised with
  | nil => rfl
  | @cons c piece text pieces first _ ih =>
      rw [List.flatten_cons, List.map_cons]
      rcases first with rfl | ⟨⟨d, mem, other⟩, capital⟩
      · refine congrArg (c.toUpper :: ·) (ih (plain.imp ?_ ?_))
        · exact fun all d mem => all d (List.mem_append_right _ mem)
        · exact fun all c mem => all c (List.mem_cons_of_mem _ mem)
      · rcases plain with all | all
        · exact absurd (all d (List.mem_append_left _ mem)) other
        · exact absurd (all c List.mem_cons_self) capital

theorem flatten_eq_iff {text word : List Char} {pieces : List (List Char)} (raised : List.Forall₂ Raises text pieces)
    (plain : ∀ d ∈ word, d ∈ plainCapitals) : pieces.flatten = word ↔ text.map Char.toUpper = word := by
  constructor
  · rintro rfl
    exact (flatten_of_raises raised (.inl plain)).symm
  · rintro rfl
    exact flatten_of_raises raised (.inr fun c mem => plain _ (List.mem_map_of_mem mem))

section Word

variable {word : String} (plain : ∀ d ∈ word.toList, d ∈ plainCapitals) (s : String)

include plain

/-- A word of these capitals is the upper case of exactly its casings. -/
theorem upper_eq_iff : upper s = word ↔ IsCasing word s := by
  have raised : List.Forall₂ Raises s.toList (s.toList.map upperChar) :=
    List.forall₂_map_right_iff.mpr (List.forall₂_same.mpr fun c _ => raises_upperChar c)
  rw [IsCasing, ← flatten_eq_iff raised plain, ← List.flatMap_def, ← String.toList_inj, upper, String.toList_ofList]

theorem upper_lower_eq_iff : upper (lower s) = word ↔ IsCasing word s := by
  obtain ⟨pieces, raised, flattened⟩ := exists_pieces_lowerFrom [] s.toList
  rw [IsCasing, ← flatten_eq_iff raised plain, ← flattened, ← String.toList_inj, upper, lower, String.toList_ofList,
    String.toList_ofList]

end Word

end SqlAdvisor.Text
